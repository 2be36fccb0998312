import Mathlib.Data.Bool.AllAny
import ReverseProxy.OAuth.OAuthCore

/-!
# Responses and documents of the OAuth server

The JSON texts are those of `serde_json::to_vec`: no white space, and only
quotes, backslashes and control characters are escaped.
-/

namespace ReverseProxy

/-! ## JSON -/

def lowerHexDigit (digit : Nat) : Char :=
  if digit < 10 then Char.ofNat (48 + digit) else Char.ofNat (87 + digit)

def jsonEscape (symbol : Char) : Str :=
  match symbol with
  | '"' => ['\\', '"']
  | '\\' => ['\\', '\\']
  | '\x08' => ['\\', 'b']
  | '\t' => ['\\', 't']
  | '\n' => ['\\', 'n']
  | '\x0c' => ['\\', 'f']
  | '\r' => ['\\', 'r']
  | other =>
    if other.toNat < 32 then
      ['\\', 'u', '0', '0', lowerHexDigit (other.toNat / 16), lowerHexDigit (other.toNat % 16)]
    else [other]

def jsonString (text : Str) : Str := ['"'] ++ text.flatMap jsonEscape ++ ['"']

def jsonArray (items : List String) : Str :=
  ['['] ++ [','].intercalate (items.map (jsonString ·.toList)) ++ [']']

/-- An object from its field names and the texts of their values. -/
def jsonObject (fields : List (String × Str)) : Bytes := asBytes (['\x7b'] ++ [','].intercalate
      (fields.map fun field => jsonString field.1.toList ++ [':'] ++ field.2) ++
    ['\x7d'])

/-- `error_body`, for texts that may hold anything. -/
def errorBodyOf (error errorDescription : Str) : Bytes := jsonObject [("error", jsonString error),
    ("error_description", jsonString errorDescription)]

/-! ## Responses -/

def contentTypeHtml : Str := "text/html; charset=UTF-8".toList

namespace OAuthHttpResponse

/-- `OAuthHttpResponse::metadata`. -/
def metadata (body : Bytes) : OAuthHttpResponse :=
  { statusCode := 200
    contentType := "application/json".toList
    headers := [("Cache-Control".toList, "max-age=300".toList)]
    body
    registerIpFailure := false }

/-- `OAuthHttpResponse::html`. -/
def html (statusCode : Nat) (body : Str) : OAuthHttpResponse :=
  { statusCode
    contentType := contentTypeHtml
    headers := [("Cache-Control".toList, "no-store".toList)]
    body := asBytes body
    registerIpFailure := false }

/-- `OAuthHttpResponse::redirect`. -/
def redirect (location : Str) : OAuthHttpResponse :=
  { statusCode := 302
    contentType := contentTypeHtml
    headers := [("Location".toList, location), ("Cache-Control".toList, "no-store".toList)]
    body := []
    registerIpFailure := false }

def addHeader (response : OAuthHttpResponse) (name : String) (value : Str) :
    OAuthHttpResponse :=
  { response with headers := response.headers ++ [(name.toList, value)] }

def intoCredentialFailure (response : OAuthHttpResponse) :
    OAuthHttpResponse :=
  { response with registerIpFailure := true }

end OAuthHttpResponse

def methodNotAllowed (allowed : String) : OAuthHttpResponse :=
  (oauthErrorResponse 405 "invalid_request"
    ("This endpoint only accepts " ++ allowed)).addHeader "Allow"
    allowed.toList

/-! ## Metadata documents -/

def mcpScope : String := "mcp"

def offlineScope : String := "offline_access"

def protectedResourceMetadataPath : Str := "/.well-known/oauth-protected-resource".toList

def buildAuthorizationServerMetadata (baseUrl : Str) : Bytes := jsonObject [
    ("issuer", jsonString baseUrl),
    ("authorization_endpoint", jsonString (baseUrl ++ "/oauth/authorize".toList)),
    ("token_endpoint", jsonString (baseUrl ++ "/oauth/token".toList)),
    ("response_types_supported", jsonArray ["code"]),
    ("grant_types_supported", jsonArray ["authorization_code", "refresh_token"]),
    ("code_challenge_methods_supported", jsonArray ["S256"]),
    ("token_endpoint_auth_methods_supported",
      jsonArray ["client_secret_post", "client_secret_basic"]),
    ("scopes_supported", jsonArray [mcpScope, offlineScope])]

/-- The `resource` identifier of one protected path. -/
def buildResourceUrl (baseUrl resourcePath : Str) : Str :=
  if resourcePath = ['/'] ∨ resourcePath = [] then baseUrl
  else baseUrl ++ resourcePath

/-- Where the metadata of one protected path lives. -/
def buildResourceMetadataUrl (baseUrl resourcePath : Str) : Str :=
  if resourcePath = ['/'] ∨ resourcePath = [] then
    baseUrl ++ protectedResourceMetadataPath
  else baseUrl ++ protectedResourceMetadataPath ++ resourcePath

def buildProtectedResourceMetadata (baseUrl resourcePath : Str) : Bytes := jsonObject [
    ("resource", jsonString (buildResourceUrl baseUrl resourcePath)),
    ("authorization_servers", ['['] ++ jsonString baseUrl ++ [']']),
    ("scopes_supported", jsonArray [mcpScope, offlineScope]),
    ("bearer_methods_supported", jsonArray ["header"])]

end ReverseProxy
