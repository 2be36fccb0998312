import ReverseProxy.Configurations.AccessLists
import ReverseProxy.OAuth.OAuthCore

/-!
# Google sign-in

`handle_google_auth` decides about a request from its path and its cookie.
Resolving a token or an email and the HTML pages are fields of `AppCtx`, the
application context at the moment a request is handled.
-/

namespace ReverseProxy

structure GoogleAuthCredentials where
  clientId : Str
  clientSecret : Str
  whitelistedDomains : Str
deriving DecidableEq, Repr

/-- `Email::get_domain`. -/
def emailDomain (email : Str) : Option Str :=
  (email.findIdx? (· == '@')).map fun index => email.drop (index + 1)

/-- The domains are separated by commas if there is one, else by semicolons. -/
def GoogleAuthCredentials.domainIsAllowed [StrUtils]
    (credentials : GoogleAuthCredentials) (email : Str) : Bool :=
  credentials.whitelistedDomains = ['*'] ||
    match emailDomain email with
    | none => false
    | some domain =>
      let separator :=
        if credentials.whitelistedDomains.contains ',' then ',' else ';'
      (credentials.whitelistedDomains.splitOn separator).any fun allowed =>
        eqCaseInsensitive (trim allowed) domain

inductive GoogleAuthOkResult where
  | passed (email : Str)
  | setToken (email : Str)
  | showLoginPage (credentials : GoogleAuthCredentials)
deriving DecidableEq, Repr

inductive GoogleAuthError where
  | showLogoutPage
  | emailDomainIsNotAuthorized
  | showEmailDomainIsNotAuthorizedPage
  | showUserAuthenticatedPage (email : Str)
  | showError (text : Str)
deriving DecidableEq, Repr

abbrev GoogleAuthResult := Except GoogleAuthError GoogleAuthOkResult

structure AppCtx where
  whiteListIpList : WhiteListedIpLists := []
  allowedUsersList : AllowedUsersList := []
  oauthCredentials : List (Str × OAuthContext) := []
  googleAuthCredentials : List (Str × GoogleAuthCredentials) := []
  resolveToken : Str → Option Str := fun _ => none
  resolveEmail : GoogleAuthCredentials → Str → Except Str Str := fun _ _ => .error []
  renderPage : GoogleAuthResult → Bytes := fun _ => []

/-- The requests the sign-in reads. -/
structure HttpRequestReader where
  getPath : Outcome Str
  getQueryString : Outcome (Option Str)
  getAuthorizationToken : Outcome (Option Str)

/-- `get_query_string_param`; the percent-decoding of the value is left to the
one who uses it. -/
def queryStringParam (query param : Str) : Option Str := (query.splitOn '&').findSome? fun item =>
    match item.splitOn '=' with
    | left :: right :: _ => if trim left = param then some (trim right) else none
    | _ => none

/-- `utils::get_cookie`. -/
def getCookie (cookieString cookieName : Str) : Option Str :=
  (cookieString.splitOn ';').findSome? fun item =>
    match item.findIdx? (· == '=') with
    | some index =>
      if trim (item.take index) = cookieName then some (item.drop (index + 1))
      else none
    | none => none

/-- The email of a token that is still valid. -/
def AppCtx.tokenEmail (app : AppCtx) (reader : HttpRequestReader) :
    Outcome (Option Str) := do
  let token ← reader.getAuthorizationToken
  return token.bind app.resolveToken

section

variable [StrUtils]

/-- The part of `handle_google_auth` behind the path `/authorized`. -/
def AppCtx.handleAuthorizedPath (app : AppCtx) (reader : HttpRequestReader)
    (credentials : GoogleAuthCredentials) : Outcome GoogleAuthResult := do
  match ← app.tokenEmail reader with
  | some email =>
    if credentials.domainIsAllowed email then
      return .error (.showUserAuthenticatedPage email)
    else
      return .error .emailDomainIsNotAuthorized
  | none =>
    let query ← reader.getQueryString
    match query.bind (queryStringParam · "code".toList) with
    | none => .panic
    | some code =>
      match app.resolveEmail credentials code with
      | .error text => return .error (.showError text)
      | .ok email =>
        if credentials.domainIsAllowed email then
          return .ok (.setToken email)
        else
          return .error .showEmailDomainIsNotAuthorizedPage

def AppCtx.handleGoogleAuth (app : AppCtx) (reader : HttpRequestReader)
    (gAuthSettings : Str) : Outcome GoogleAuthResult := do
  match app.googleAuthCredentials.lookup gAuthSettings with
  | none => .panic
  | some credentials =>
    let path ← reader.getPath
    if eqIgnoreAsciiCase path "/logout".toList then
      return .error .showLogoutPage
    else if eqIgnoreAsciiCase path "/authorized".toList then
      app.handleAuthorizedPath reader credentials
    else
      match ← app.tokenEmail reader with
      | some email =>
        if credentials.domainIsAllowed email then
          return .ok (.passed email)
        else
          return .error .emailDomainIsNotAuthorized
      | none => return .ok (.showLoginPage credentials)

end

end ReverseProxy
