import ReverseProxy.OAuth.OAuthServer

/-!
# The OAuth endpoints

Authorize, token and metadata requests: a request and the state of the block
in, the next state and a response out.  The texts of the two HTML pages do not
matter to any decision and enter as functions.
-/

namespace ReverseProxy

open Library

def OAuthRequest.parameters (request : OAuthRequest) : Parameters :=
  match request.method with
  | .post => parseFormUrlencoded (fromUtf8Lossy request.body)
  | .get => parseFormUrlencoded (request.query.getD [])
  | .other => parseFormUrlencoded (request.query.getD [])

/-! ## Redirect URIs -/

def claudeRedirectUri : Str := "https://claude.ai/api/mcp/auth_callback".toList

/-- `str::parse::<u16>`. -/
def parseU16 (text : Str) : Option Nat := (parseUsize text).filter (· < 65536)

def isLoopbackHost (host : Str) : Bool := host = "127.0.0.1".toList || host = "localhost".toList ||
    host = "[::1]".toList

def isLoopbackRedirect (redirectUri : Str) : Bool :=
  match redirectUri.dropPrefix? "http://".toList with
  | none => false
  | some rest =>
    if rest.contains '@' then false
    else
      let hostAndPort := match splitOnce '/' rest with
        | some (hostAndPort, _) => hostAndPort
        | none => rest
      match rsplitOnce ':' hostAndPort with
      | some (host, port) =>
        if !port.isEmpty && (parseU16 port).isNone then false
        else isLoopbackHost host
      | none => isLoopbackHost hostAndPort

def isAllowedRedirectUri (redirectUri : Str) : Bool :=
  redirectUri = claudeRedirectUri || isLoopbackRedirect redirectUri

/-! ## Authorize -/

structure ConsentPageParams where
  clientId : Str
  redirectUri : Str
  state : Option Str
  scope : Str
  codeChallenge : Str
  resource : Option Str
  error : Option String
deriving DecidableEq, Repr

class OAuthPages where
  generateConsentPage : ConsentPageParams → Str
  generateErrorPage : String → String → Str

export OAuthPages (generateConsentPage generateErrorPage)

/-- Pages for statements that are evaluated on a fixed input. -/
@[reducible] def blankPages : OAuthPages :=
  { generateConsentPage := fun _ => []
    generateErrorPage := fun _ _ => [] }

structure ValidatedAuthorizeRequest where
  clientId : Str
  redirectUri : Str
  state : Option Str
  codeChallenge : Str
  grantedScope : Str
  resource : Option Str
deriving DecidableEq, Repr

/-- Parameters the client already put into the redirect survive. -/
def appendQuery (redirectUri : Str) : Str :=
  redirectUri ++ [if redirectUri.contains '?' then '&' else '?']

def appendState (url : Str) (state : Option Str) : Str :=
  match state with
  | some state => url ++ "&state=".toList ++ percentEncode state
  | none => url

def redirectWithError (redirectUri : Str) (state : Option Str)
    (error description : String) : OAuthHttpResponse :=
  .redirect (appendState (appendQuery redirectUri ++ "error=".toList ++
    percentEncode error.toList ++ "&error_description=".toList ++
    percentEncode description.toList) state)

/-- Where the browser is sent with a code. -/
def codeUrl (validated : ValidatedAuthorizeRequest) (code : Str) : Str :=
  appendState (appendQuery validated.redirectUri ++ "code=".toList ++
    percentEncode code) validated.state

section

variable [OAuthPages]

/-- An untrusted client or redirect is answered with a page, everything later
through the redirect. -/
def validate (server : OAuthServer) (parameters : Parameters)
    (baseUrl : Str) : Except OAuthHttpResponse ValidatedAuthorizeRequest :=
  let clientId := parameters.text "client_id"
  let redirectUri := parameters.text "redirect_uri"
  let state := parameters.given "state"
  let codeChallenge := parameters.text "code_challenge"
  let codeChallengeMethod := (parameters.lookup "code_challenge_method".toList).getD "S256".toList
  let resource := parameters.given "resource"
  if !server.settings.checkClientId clientId then
    .error (OAuthHttpResponse.html 400 (generateErrorPage "Unknown client"
      "The client_id is not configured on this proxy.")).intoCredentialFailure
  else if !isAllowedRedirectUri redirectUri then
    .error (.html 400 (generateErrorPage "Invalid redirect_uri"
      ("This proxy only redirects to the Claude callback or to a loopback " ++ "address.")))
  else if parameters.text "response_type" ≠ "code".toList then
    .error (redirectWithError redirectUri state "unsupported_response_type"
      "Only the authorization code flow is supported")
  else if codeChallenge = [] then
    .error (redirectWithError redirectUri state "invalid_request"
      "code_challenge is required — this server requires PKCE with S256")
  else if !eqIgnoreAsciiCase codeChallengeMethod "S256".toList then
    .error (redirectWithError redirectUri state "invalid_request"
      "Only the S256 code_challenge_method is supported")
  else if resource.any fun resource =>
      !baseUrl.isPrefixOf (trimEndMatches resource '/') then
    .error (redirectWithError redirectUri state "invalid_target"
      "The requested resource is not served by this authorization server")
  else
    .ok {
      clientId
      redirectUri
      state
      codeChallenge
      grantedScope := grantedScope (parameters.lookup "scope".toList)
      resource }

def consentPage (validated : ValidatedAuthorizeRequest)
    (error : Option String) : OAuthHttpResponse :=
  .html (if error.isSome then 401 else 200) (generateConsentPage
    { clientId := validated.clientId
      redirectUri := validated.redirectUri
      state := validated.state
      scope := validated.grantedScope
      codeChallenge := validated.codeChallenge
      resource := validated.resource
      error })

variable [Base64]

/-- `random` is what the operating system gives for the code. -/
def issueCode (server : OAuthServer) (clock : Nat → Int) (random : Bytes)
    (validated : ValidatedAuthorizeRequest) :
    OAuthServer × OAuthHttpResponse :=
  let code := base64UrlEncode random
  let codes := server.codes.add (clock 1) code
    { redirectUri := validated.redirectUri
      codeChallenge := validated.codeChallenge
      scope := validated.grantedScope
      resource := validated.resource
      expiresAtSec := addI64 (clock 0) authCodeTtlSec }
  ({ server with codes }, .redirect (codeUrl validated code))

/-- `GET` shows the consent screen, `POST` is that screen coming back. -/
def handleAuthorize (server : OAuthServer) (clock : Nat → Int)
    (random : Bytes) (request : OAuthRequest) :
    OAuthServer × OAuthHttpResponse :=
  if request.method = .other then (server, methodNotAllowed "GET, POST")
  else
    let parameters := request.parameters
    match validate server parameters (server.baseUrl request.baseUrl) with
    | .error response => (server, response)
    | .ok validated =>
      if request.method = .get then (server, consentPage validated none)
      else if !server.settings.checkConsentPassword (parameters.text "consent_password") then
        (server, (consentPage validated
          (some "Wrong consent password. Try again.")).intoCredentialFailure)
      else issueCode server clock random validated

end

/-! ## Token -/

structure PresentedClient where
  clientId : Str
  clientSecret : Str
  fromBasic : Bool
deriving DecidableEq, Repr

section

variable [Base64]

/-- Credentials from a `Basic` header, or else from the form. -/
def presentedClient (authorization : Option Str) (parameters : Parameters) :
    Outcome (Option PresentedClient) := do
  let basic ← match authorization with
    | some authorization => afterScheme "Basic " authorization
    | none => .ret none
  match basic with
  | some encoded =>
    return do
      let decoded ← base64StandardDecode encoded
      let decoded ← fromUtf8 decoded
      let (clientId, clientSecret) ← splitOnce ':' decoded
      some { clientId, clientSecret, fromBasic := true }
  | none =>
    if parameters.text "client_id" = [] then return none
    else
      return some
        { clientId := parameters.text "client_id"
          clientSecret := parameters.text "client_secret"
          fromBasic := false }

end

/-- Basic credentials may be form-encoded before they are base64-encoded, so
both readings are tried. -/
def matchesClientId (settings : OAuthSettings) (presented : Str) : Bool :=
  settings.checkClientId presented || settings.checkClientId (formUrlDecode presented)

def matchesClientSecret (settings : OAuthSettings) (presented : Str) : Bool :=
  settings.checkClientSecret presented || settings.checkClientSecret (formUrlDecode presented)

def invalidClient (fromBasic : Bool) : OAuthHttpResponse :=
  let response := oauthErrorResponse 401 "invalid_client" "The client_id or client_secret is wrong"
  if fromBasic then
    response.addHeader "WWW-Authenticate" "Basic realm=\"oauth\"".toList
  else response

def tokenResponseBody (minted : MintedTokens) : Bytes :=
  jsonObject ([("access_token", jsonString minted.accessToken),
    ("token_type", jsonString "Bearer".toList),
    ("expires_in", (toString minted.expiresIn).toList)] ++
    (minted.refreshToken.map fun refreshToken =>
      ("refresh_token", jsonString refreshToken)).toList ++
    [("scope", jsonString minted.scope)])

/-- The description of a request without form parameters says what was sent
instead. -/
def missingFormDescription (contentType : Option Str) : Str :=
  "The request body must be application/x-www-form-urlencoded".toList ++
    match contentType with
    | some contentType =>
      ", and this one was sent as '".toList ++ contentType ++ ['\x27']
    | none => []

section

variable [Base64] [Sha256] [SerdeJson]

def mint (server : OAuthServer) (clock : Nat → Int) (scope : Str)
    (audience : Option Str) : OAuthServer × OAuthHttpResponse :=
  match server.mintTokens (clock 1) (clock 2) scope audience with
  | (server, .error err) =>
    (server, .json 500 (errorBodyOf "server_error".toList err))
  | (server, .ok minted) => (server, .json 200 (tokenResponseBody minted))

/-- The code is taken out of the store before anything else about the request
is looked at. -/
def exchangeAuthorizationCode (server : OAuthServer) (clock : Nat → Int)
    (parameters : Parameters) : OAuthServer × OAuthHttpResponse :=
  let code := parameters.text "code"
  if code = [] then
    (server, oauthErrorResponse 400 "invalid_request" "code is required")
  else
    match server.codes.take (clock 0) code with
    | (codes, none) =>
      ({ server with codes }, oauthErrorResponse 400 "invalid_grant"
        "The authorization code is unknown, already used, or expired")
    | (codes, some issued) =>
      let server := { server with codes }
      let codeVerifier := parameters.text "code_verifier"
      if parameters.text "redirect_uri" ≠ issued.redirectUri then
        (server, oauthErrorResponse 400 "invalid_grant"
          "redirect_uri does not match the one the code was issued for")
      else if codeVerifier = [] then
        (server, oauthErrorResponse 400 "invalid_request" "code_verifier is required")
      else if !verifyS256 codeVerifier issued.codeChallenge then
        (server, oauthErrorResponse 400 "invalid_grant"
          "The code_verifier does not match the code_challenge")
      else mint server clock issued.scope issued.resource

/-- Scope and audience are carried over from the refresh token. -/
def refresh (server : OAuthServer) (clock : Nat → Int)
    (parameters : Parameters) : OAuthServer × OAuthHttpResponse :=
  let refreshToken := parameters.text "refresh_token"
  if refreshToken = [] then
    (server, oauthErrorResponse 400 "invalid_request" "refresh_token is required")
  else
    match server.signer.verify (clock 0) refreshToken .refresh with
    | none =>
      (server, oauthErrorResponse 400 "invalid_grant" "The refresh token is invalid or expired")
    | some verified => mint server clock verified.scope verified.audience

def grantTokens (server : OAuthServer) (clock : Nat → Int)
    (parameters : Parameters) : OAuthServer × OAuthHttpResponse :=
  match parameters.lookup "grant_type".toList with
  | some grantType =>
    if grantType = "authorization_code".toList then
      exchangeAuthorizationCode server clock parameters
    else if grantType = "refresh_token".toList then
      refresh server clock parameters
    else
      (server, .json 400 (errorBodyOf "unsupported_grant_type".toList
        ("The grant type '".toList ++ grantType ++ "' is not supported".toList)))
  | none =>
    (server, oauthErrorResponse 400 "invalid_request" "grant_type is required")

/-- The client proves itself before the grant is looked at. -/
def handleToken (server : OAuthServer) (clock : Nat → Int)
    (request : OAuthRequest) : Outcome (OAuthServer × OAuthHttpResponse) :=
  if request.method ≠ .post then .ret (server, methodNotAllowed "POST")
  else
    let parameters := request.parameters
    if parameters = [] then
      .ret (server, .json 400 (errorBodyOf "invalid_request".toList
        (missingFormDescription request.contentType)))
    else do
      match ← presentedClient request.authorization parameters with
      | none => return (server, invalidClient false)
      | some presented =>
        if !matchesClientId server.settings presented.clientId ||
            !matchesClientSecret server.settings presented.clientSecret then
          return (server, (invalidClient presented.fromBasic).intoCredentialFailure)
        else return grantTokens server clock parameters

end

/-! ## All routes -/

/-- Whether some location covers a resource path. -/
def resourcePathIsServed (resourcePath : Str) (locationPaths : List Str) :
    Bool :=
  locationPaths.any fun locationPath =>
    let locationPath := normalizeResourcePath locationPath
    locationPath = ['/'] || continuesPath resourcePath locationPath

def protectedResourceMetadata (server : OAuthServer) (request : OAuthRequest)
    (resourcePath : Str) : OAuthHttpResponse :=
  if !resourcePathIsServed resourcePath request.knownResourcePaths then
    oauthErrorResponse 404 "invalid_request" "No such protected resource on this endpoint"
  else
    .metadata (buildProtectedResourceMetadata (server.baseUrl request.baseUrl) resourcePath)

section

variable [Base64] [Sha256] [SerdeJson] [OAuthPages]

def handleOauthRequest (server : OAuthServer) (clock : Nat → Int)
    (random : Bytes) (request : OAuthRequest) :
    Outcome (OAuthServer × OAuthHttpResponse) :=
  match request.route with
  | .authorizationServerMetadata =>
    if request.method ≠ .get then .ret (server, methodNotAllowed "GET")
    else
      .ret (server, .metadata (buildAuthorizationServerMetadata (server.baseUrl request.baseUrl)))
  | .protectedResourceMetadata resourcePath =>
    if request.method ≠ .get then .ret (server, methodNotAllowed "GET")
    else .ret (server, protectedResourceMetadata server request resourcePath)
  | .authorize => .ret (handleAuthorize server clock random request)
  | .token => handleToken server clock request

end

/-! ## What a request can do -/

section

variable [OAuthPages]

theorem validate_eq_ok_iff {server : OAuthServer} {parameters : Parameters}
    {baseUrl : Str} {validated : ValidatedAuthorizeRequest} :
    validate server parameters baseUrl = .ok validated ↔
      server.settings.checkClientId (parameters.text "client_id") = true ∧
        isAllowedRedirectUri (parameters.text "redirect_uri") = true ∧
        parameters.text "response_type" = "code".toList ∧
        parameters.text "code_challenge" ≠ [] ∧
        eqIgnoreAsciiCase ((parameters.lookup "code_challenge_method".toList).getD "S256".toList)
          "S256".toList = true ∧
        (∀ resource, parameters.given "resource" = some resource →
          baseUrl <+: trimEndMatches resource '/') ∧
        validated =
          { clientId := parameters.text "client_id"
            redirectUri := parameters.text "redirect_uri"
            state := parameters.given "state"
            codeChallenge := parameters.text "code_challenge"
            grantedScope := grantedScope (parameters.lookup "scope".toList)
            resource := parameters.given "resource" } := by
  have served : ((parameters.given "resource").any fun resource =>
      !baseUrl.isPrefixOf (trimEndMatches resource '/')) = false ↔
        ∀ resource, parameters.given "resource" = some resource →
          baseUrl <+: trimEndMatches resource '/' := by
    cases parameters.given "resource" with
    | none => simp
    | some resource => simp
  rw [← served]
  unfold validate
  dsimp only
  constructor
  · intro accepted
    split at accepted
    · contradiction
    rename_i client
    split at accepted
    · contradiction
    rename_i redirect
    split at accepted
    · contradiction
    rename_i responseType
    split at accepted
    · contradiction
    rename_i challenge
    split at accepted
    · contradiction
    rename_i method
    split at accepted
    · contradiction
    rename_i resource
    cases accepted
    exact ⟨by simpa using client, by simpa using redirect,
      not_not.mp responseType, challenge, by simpa using method,
      Bool.eq_false_iff.mpr resource, rfl⟩
  · rintro ⟨client, redirect, responseType, challenge, method, resource, rfl⟩
    rw [client, redirect, method, resource]
    simp only [Bool.not_true, Bool.false_eq_true, if_false, responseType,
      challenge, ne_eq, not_true_eq_false]

variable [Base64]

/-- Only a `POST` that passes every check changes the state. -/
theorem handleAuthorize_cases {server next : OAuthServer}
    {clock : Nat → Int} {random : Bytes} {request : OAuthRequest}
    {response : OAuthHttpResponse}
    (handled : handleAuthorize server clock random request = (next, response)) :
    next = server ∨ ∃ validated, request.method = .post ∧
        validate server request.parameters (server.baseUrl request.baseUrl) = .ok validated ∧
        server.settings.checkConsentPassword (request.parameters.text "consent_password") = true ∧
        issueCode server clock random validated = (next, response) := by
  unfold handleAuthorize at handled
  split at handled
  · exact Or.inl (Prod.mk.inj handled).1.symm
  rename_i known
  cases checked : validate server request.parameters (server.baseUrl request.baseUrl) with
  | error refusal =>
    simp only [checked] at handled
    exact Or.inl (Prod.mk.inj handled).1.symm
  | ok validated =>
    simp only [checked] at handled
    split at handled
    · exact Or.inl (Prod.mk.inj handled).1.symm
    rename_i notGet
    split at handled
    · exact Or.inl (Prod.mk.inj handled).1.symm
    rename_i password
    refine Or.inr ⟨validated, ?_, rfl, by simpa using password, handled⟩
    cases method : request.method with
    | get => exact absurd method notGet
    | post => rfl
    | other => exact absurd method known

end

section

variable [Base64] [Sha256] [SerdeJson]

theorem exchangeAuthorizationCode_eq (server : OAuthServer)
    (clock : Nat → Int) (parameters : Parameters) :
    (∃ codes response,
      exchangeAuthorizationCode server clock parameters = ({ server with codes }, response) ∧
        (∀ entry ∈ codes, entry ∈ server.codes) ∧
        response.statusCode ≠ 200) ∨
      ∃ issued,
        (server.codes.take (clock 0) (parameters.text "code")).2 = some issued ∧
          parameters.text "redirect_uri" = issued.redirectUri ∧
          s256 (parameters.text "code_verifier") = issued.codeChallenge ∧
          exchangeAuthorizationCode server clock parameters =
            mint { server with codes := (server.codes.take (clock 0)
              (parameters.text "code")).1 } clock issued.scope
              issued.resource := by
  unfold exchangeAuthorizationCode
  dsimp only
  split
  · exact Or.inl ⟨server.codes, _, rfl, fun _ member => member, by decide⟩
  have kept : ∀ entry ∈ (server.codes.take (clock 0)
      (parameters.text "code")).1, entry ∈ server.codes :=
    fun _ member => (AuthCodes.mem_of_mem_take member).1
  rcases result : server.codes.take (clock 0) (parameters.text "code") with ⟨codes, _ | issued⟩
  · rw [result] at kept
    exact Or.inl ⟨codes, _, rfl, kept, by decide⟩
  rw [result] at kept
  dsimp only
  split
  · exact Or.inl ⟨codes, _, rfl, kept, by decide⟩
  rename_i sameRedirect
  split
  · exact Or.inl ⟨codes, _, rfl, kept, by decide⟩
  rename_i nonempty
  split
  · exact Or.inl ⟨codes, _, rfl, kept, by decide⟩
  rename_i checked
  refine Or.inr ⟨issued, rfl, not_not.mp sameRedirect, ?_, rfl⟩
  exact (verifyS256_iff nonempty).mp (by simpa using checked)

end

end ReverseProxy
