import ReverseProxy.H1ProxyServer.Pipeline.OauthGate

/-!
# Requests on the hyper pipeline

Hyper parses the request, so the pipeline starts from its `Parts`.  The OAuth
gate of this side reads the request through hyper and then asks the same core
as the gate of the HTTP/1 pipeline.
-/

namespace ReverseProxy

/-- `http::request::Parts`: the request line taken apart by hyper, and the
header map with its lower-case names. -/
structure Parts where
  method : Str
  path : Str
  query : Option Str := none
  /-- `uri().authority()` and `uri().host()`. -/
  authority : Option Str := none
  host : Option Str := none
  headers : List (Str × Bytes) := []
deriving DecidableEq, Repr

/-- `HeaderValue::to_str`: visible ASCII and tabs. -/
def headerToStr (value : Bytes) : Option Str :=
  if value.all fun octet => octet == 9 || (32 ≤ octet && octet < 127) then
    some (value.map fun octet => Char.ofNat octet.toNat)
  else none

namespace Parts

/-- `HeaderMap::get`. -/
def get (parts : Parts) (name : String) : Option Bytes := parts.headers.lookup name.toList

/-- `header_of` of `handle_oauth.rs`. -/
def headerOf (parts : Parts) (name : String) : Option Str :=
  ((parts.get name).bind headerToStr).map trim

/-- `impl HttpRequestReader for Parts`. -/
def request (parts : Parts) : HttpRequestReader :=
  { getPath := .ret parts.path
    getQueryString := .ret parts.query
    getAuthorizationToken := .ret (((parts.get "cookie").bind headerToStr).bind
        (getCookie · "x-authorized".toList)) }

/-- `host_of`. -/
def hostOf (parts : Parts) (info : HttpEndpointInfo) : Str :=
  match parts.authority with
  | some authority => authority
  | none => (parts.headerOf "host").getD info.hostEndpoint.src

end Parts

/-- A request with what reading its body gives. -/
structure HyperRequest where
  parts : Parts
  /-- The body, collected within the limit of the OAuth endpoints. -/
  limitedBody : Option Bytes := some []
  /-- Whether `into_request` can convert the request. -/
  converts : Bool := true
deriving DecidableEq, Repr

inductive OAuthGateH2Outcome where
  | proceed
  | answered (response : OAuthHttpResponse)

/-- The path the challenge points at. -/
def gateResourcePath (info : HttpEndpointInfo) (path : Str) : Outcome Str := do
  match ← info.findLocation (asBytes path) with
  | some location => return normalizeResourcePath location.path
  | none => return normalizeResourcePath path

/-- `run_oauth_gate_h2`. -/
def runOauthGateH2 (app : AppCtx) (info : HttpEndpointInfo)
    (request : HyperRequest) : Outcome OAuthGateH2Outcome :=
  match info.oauth with
  | none => .ret .proceed
  | some oauthId =>
    match app.oauthCredentials.lookup oauthId with
    | none =>
      .ret (.answered (oauthErrorResponse 503 "server_error"
        "The oauth configuration for this endpoint is not loaded"))
    | some context => do
      let parts := request.parts
      let baseUrl := buildBaseUrl info.listenEndpointType.isHttpsOrMcp (parts.hostOf info)
      match ← routeOauthPath parts.path with
      | none =>
        let resourcePath ← gateResourcePath info parts.path
        match context.checkBearer
            { authorization := parts.headerOf "authorization"
              baseUrl := context.baseUrl baseUrl
              resourcePath } with
        | .allowed => return .proceed
        | .challenge response => return .answered response
      | some route =>
        match request.limitedBody with
        | none =>
          return .answered (oauthErrorResponse 413 "invalid_request"
            "The request body is too large for an oauth endpoint")
        | some body =>
          return .answered (context.handleOauthRequest
            { method := .parse parts.method
              route
              baseUrl
              query := parts.query
              body
              contentType := parts.headerOf "content-type"
              authorization := parts.headerOf "authorization"
              knownResourcePaths := info.locations.map (·.path) })

end ReverseProxy
