import ReverseProxy.Configurations.HttpEndpointInfo

/-!
# The OAuth server as the gates see it

Routes, requests and answers of the proxy's own OAuth server.  What it decides
depends on its keys, its codes and the clock; `OAuthContext` holds the decisions
as functions.
-/

namespace ReverseProxy

structure OAuthHttpResponse where
  statusCode : Nat
  contentType : Str
  headers : List (Str × Str)
  body : Bytes
  registerIpFailure : Bool
deriving DecidableEq, Repr

/-- `serde_json` writes the two texts as they are: the texts the gates pass
hold no symbol that JSON escapes. -/
def errorBody (error errorDescription : String) : Bytes :=
  ascii ("\x7b\"error\":\"" ++ error ++ "\",\"error_description\":\"" ++
    errorDescription ++ "\"\x7d")

/-- `OAuthHttpResponse::json`. -/
def OAuthHttpResponse.json (statusCode : Nat) (body : Bytes) :
    OAuthHttpResponse :=
  { statusCode
    contentType := "application/json".toList
    headers := [("Cache-Control".toList, "no-store".toList), ("Pragma".toList, "no-cache".toList)]
    body
    registerIpFailure := false }

def oauthErrorResponse (statusCode : Nat) (error errorDescription : String) :
    OAuthHttpResponse :=
  .json statusCode (errorBody error errorDescription)

/-! ## Routes -/

inductive OAuthRoute where
  | authorizationServerMetadata
  | protectedResourceMetadata (resourcePath : Str)
  | authorize
  | token
deriving DecidableEq, Repr

/-- `str::trim_end_matches`. -/
def trimEndMatches (text : Str) (symbol : Char) : Str := text.rdropWhile (· == symbol)

def normalizeResourcePath (path : Str) : Str :=
  let trimmed := trimEndMatches path '/'
  if trimmed = [] then ['/']
  else if trimmed.head? = some '/' then trimmed
  else '/' :: trimmed

/-- The slice `path[..prefix.len()]` panics inside a character. -/
def matchesWithSuffix (path start : Str) : Outcome (Option Str) := do
  let pathBytes := asBytes path
  let length := (asBytes start).length
  if pathBytes.length < length then return none
  else if !HttpEndpointInfo.isCharBoundary pathBytes length then .panic
  else if !isNamed (pathBytes.take length) (asBytes start) then return none
  else
    match fromUtf8 (pathBytes.drop length) with
    | none => .panic
    | some suffix =>
      if suffix = [] || suffix.head? = some '/' then return some suffix
      else return none

def routeOauthPath (path : Str) : Outcome (Option OAuthRoute) := do
  if eqIgnoreAsciiCase path "/oauth/authorize".toList then
    return some .authorize
  else if eqIgnoreAsciiCase path "/oauth/token".toList then
    return some .token
  else
    let server ← matchesWithSuffix path "/.well-known/oauth-authorization-server".toList
    if server.isSome then return some .authorizationServerMetadata
    else
      let openid ← matchesWithSuffix path "/.well-known/openid-configuration".toList
      if openid.isSome then return some .authorizationServerMetadata
      else
        let suffix ← matchesWithSuffix path "/.well-known/oauth-protected-resource".toList
        return suffix.map fun suffix =>
          .protectedResourceMetadata (normalizeResourcePath suffix)

/-! ## Requests -/

/-- `str::rsplit_once(':')`. -/
def rsplitOnceColon (text : Str) : Option (Str × Str) :=
  match text.reverse.findIdx? (· == ':') with
  | none => none
  | some fromEnd =>
    let index := text.length - 1 - fromEnd
    some (text.take index, text.drop (index + 1))

/-- `build_base_url`: the default port is dropped. -/
def buildBaseUrl (isHttps : Bool) (host : Str) : Str :=
  let scheme := if isHttps then "https" else "http"
  let defaultPort := if isHttps then "443" else "80"
  let host := trimEndMatches (trim host) '/'
  let host := match rsplitOnceColon host with
    | some (name, port) =>
      if !name.isEmpty && (!name.contains ':' || name.getLast? == some ']')
          && port == defaultPort.toList then name
      else host
    | none => host
  (scheme ++ "://").toList ++ host

inductive OAuthMethod where
  | get
  | post
  | other
deriving DecidableEq, Repr

def OAuthMethod.parse (method : Str) : OAuthMethod :=
  if eqIgnoreAsciiCase method "GET".toList then get
  else if eqIgnoreAsciiCase method "POST".toList then post
  else other

structure OAuthRequest where
  method : OAuthMethod
  route : OAuthRoute
  baseUrl : Str
  query : Option Str
  body : Bytes
  contentType : Option Str
  authorization : Option Str
  knownResourcePaths : List Str

structure BearerGateRequest where
  authorization : Option Str
  baseUrl : Str
  resourcePath : Str

inductive BearerGateResult where
  | allowed
  | challenge (response : OAuthHttpResponse)

/-- One configured `oauth:` block at the moment a request is gated. -/
structure OAuthContext where
  publicUrl : Option Str
  checkBearer : BearerGateRequest → BearerGateResult
  handleOauthRequest : OAuthRequest → OAuthHttpResponse

/-- `OAuthContext::base_url`. -/
def OAuthContext.baseUrl (context : OAuthContext) (requestBaseUrl : Str) :
    Str :=
  match context.publicUrl with
  | some publicUrl => publicUrl
  | none => trimEndMatches requestBaseUrl '/'

/-- `is_https_or_mcp`. -/
def ListenHttpEndpointType.isHttpsOrMcp : ListenHttpEndpointType → Bool
  | https1 => true
  | https2 => true
  | mcp => true
  | _ => false

end ReverseProxy
