import ReverseProxy.GoogleAuth.HandleGoogleAuth

/-!
# Authorization on the HTTP/1 pipeline

`H1Reader::authorize` compares the fixed `Authorization` value of a location,
then asks for a Google sign-in, and otherwise takes the identity from the
client certificate of the connection.
-/

namespace ReverseProxy

section

variable [SliceOfU8Ext]

namespace HttpHeadersReader

variable (reader : HttpHeadersReader)

/-- `from_utf8_unchecked` of the target.  An octet that is not text stands as a
replacement character: as in the source it equals no character of a path. -/
def getPathAndQueryText : Outcome Str := do
  let bytes ← reader.getPathAndQuery
  return fromUtf8Lossy bytes

def getPath : Outcome Str := do
  let pathAndQuery ← reader.getPathAndQueryText
  return pathAndQuery.takeWhile (· != '?')

def getQueryString : Outcome (Option Str) := do
  let pathAndQuery ← reader.getPathAndQueryText
  return (pathAndQuery.findIdx? (· == '?')).map fun index =>
    pathAndQuery.drop (index + 1)

def getAuthorizationToken :
    Outcome (Option Str) := do
  match reader.httpHeaders.cookieValue with
  | none => return none
  | some cookie =>
    let bytes ← slice reader.payload cookie.start cookie.stop
    return getCookie (fromUtf8Lossy bytes) "x-authorized".toList

/-- The reader as `handle_google_auth` uses it. -/
def request : HttpRequestReader :=
  { getPath := reader.getPath
    getQueryString := reader.getQueryString
    getAuthorizationToken := reader.getAuthorizationToken }

end HttpHeadersReader

/-! ## The fixed header -/

/-- `trim_ascii` of `authorize.rs`. -/
def trimAscii (input : Bytes) : Bytes :=
  let isBlank := fun octet : UInt8 => octet == 32 || octet == 9
  (input.dropWhile isBlank).rdropWhile isBlank

/-- The loop of `find_authorization_value`; unlike the header loop of the
parser it skips a line without a colon. -/
def findAuthorizationLoop (data : Bytes) :
    Nat → Nat → Outcome (Option Bytes)
  | 0, _ => .diverge
  | fuel + 1, pos =>
    match findSequencePos data httpCrLf pos with
    | none => .ret none
    | some next =>
      if next = pos then .ret none
      else
        match HttpHeader.new data pos next with
        | none => findAuthorizationLoop data fuel (next + httpCrLf.length)
        | some header => do
          if ← header.isMyHeaderName (ascii "authorization") then
            let position := header.getValue
            let raw ← slice data position.start position.stop
            return some (trimAscii raw)
          else
            findAuthorizationLoop data fuel (next + httpCrLf.length)

def findAuthorizationValue (httpHeaders : Http1Headers) (data : Bytes) : Outcome (Option Bytes) :=
  findAuthorizationLoop data data.length (httpHeaders.firstLineEnd + httpCrLf.length)

/-! ## Identities -/

inductive AuthorizationRequired where
  | googleAuth (settings : Str)
  | clientCertificate

def HttpEndpointInfo.mustBeAuthorized (info : HttpEndpointInfo) :
    Option AuthorizationRequired :=
  match info.gAuth with
  | some settings => some (.googleAuth settings)
  | none =>
    if info.sslCertificateId.isSome then some .clientCertificate else none

/-- The certificate of the connection is an identity only for an endpoint that
requires the authority which verified it. -/
def certIdentity (info : HttpEndpointInfo)
    (connectionInfo : HttpConnectionInfo) : Option HttpProxyPassIdentity :=
  (connectionInfo.cnUserName.filter fun cert =>
    info.clientCertIdentityApplies cert.caId).map .clientCert

/-- How the answer of the sign-in continues a request. -/
def identityOfGoogleAuth (app : AppCtx) (result : GoogleAuthResult) :
    Except ProxyServerError (Option HttpProxyPassIdentity) :=
  match result with
  | .ok (.passed email) => .ok (some (.googleUser email))
  | .error .emailDomainIsNotAuthorized => .error .notAuthorized
  | page => .error (.httpResponse (app.renderPage page))

/-- The comparison of the fixed header of a location. -/
def authHeaderMatches (location : ProxyPassLocationConfig) (actual : Option Bytes) : Bool :=
  match location.authHeader with
  | none => true
  | some expected => actual == some (asBytes expected)

variable [StrUtils]

/-- `authorize` behind the fixed header. -/
def proveIdentity (app : AppCtx) (info : HttpEndpointInfo)
    (connectionInfo : HttpConnectionInfo) (httpHeaders : Http1Headers)
    (data : Bytes) :
    Outcome (Except ProxyServerError (Option HttpProxyPassIdentity)) :=
  match info.mustBeAuthorized with
  | some (.googleAuth settings) => do
    let reader : HttpHeadersReader := { httpHeaders, payload := data }
    let result ← app.handleGoogleAuth reader.request settings
    return identityOfGoogleAuth app result
  | some .clientCertificate => .ret (.ok (certIdentity info connectionInfo))
  | none => .ret (.ok (certIdentity info connectionInfo))

def authorize (app : AppCtx) (info : HttpEndpointInfo)
    (location : ProxyPassLocationConfig) (connectionInfo : HttpConnectionInfo)
    (httpHeaders : Http1Headers) (data : Bytes) :
    Outcome (Except ProxyServerError (Option HttpProxyPassIdentity)) := do
  let actual ← if location.authHeader.isSome then
      findAuthorizationValue httpHeaders data
    else .ret none
  if !authHeaderMatches location actual then return .error .notAuthorized
  else proveIdentity app info connectionInfo httpHeaders data

end

end ReverseProxy
