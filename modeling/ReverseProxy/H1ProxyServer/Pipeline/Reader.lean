import ReverseProxy.H1ProxyServer.Pipeline.OauthGate

/-!
# One step of the connection reader

`read_and_dispatch` reads a head, resolves the endpoint, runs the checks and then
answers the request itself, hands it to a worker or asks for a tunnel.  Logs and
counters are left out.
-/

namespace ReverseProxy

/-! ## What an error does to the client -/

inductive ErrorTemplate where
  | remoteResourceIsNotAvailable
  | errorTimeout
  | locationIsNotFound
  | notAuthorizedPage
  | proxyToHeaderMissing
  | proxyToHostNotAllowed
  | mtlsRequiredMisdirected
  | errorGettingContentFromRemoteResource
  | upstreamIsNotHttp
deriving DecidableEq, Repr

inductive ErrorPage where
  | template (name : ErrorTemplate)
  | payload (content : Bytes)
deriving DecidableEq, Repr

structure ErrorHandling where
  page : Option ErrorPage
  status5xx : Option Nat
  registerIpFailure : Bool
deriving DecidableEq, Repr

/-- `error_handling`. -/
def ProxyServerError.errorHandling : ProxyServerError → ErrorHandling
  | networkError _ | dropConnection | httpConfigurationIsNotFound =>
    { page := none, status5xx := none, registerIpFailure := false }
  | parsingPayloadError _ | chunkHeaderParseError | headersParseError _ =>
    { page := none, status5xx := none, registerIpFailure := true }
  | bufferAllocationFail | canNotWriteContentToRemoteConnection _ =>
    { page := some (.template .remoteResourceIsNotAvailable)
      status5xx := some 503
      registerIpFailure := false }
  | canNotConnectToRemoteResource _ err =>
    { page := some (.template
        (if err.isTimeout then .errorTimeout
          else .remoteResourceIsNotAvailable))
      status5xx := some 503
      registerIpFailure := false }
  | locationIsNotFound =>
    { page := some (.template .locationIsNotFound)
      status5xx := some 503
      registerIpFailure := false }
  | notAuthorized =>
    { page := some (.template .notAuthorizedPage)
      status5xx := none
      registerIpFailure := false }
  | proxyToHeaderMissing | proxyToHeaderInvalid =>
    { page := some (.template .proxyToHeaderMissing)
      status5xx := none
      registerIpFailure := false }
  | proxyToHostNotAllowed =>
    { page := some (.template .proxyToHostNotAllowed)
      status5xx := none
      registerIpFailure := false }
  | misdirectedClientCertRequired =>
    { page := some (.template .mtlsRequiredMisdirected)
      status5xx := none
      registerIpFailure := false }
  | httpResponse content =>
    { page := some (.payload content)
      status5xx := none
      registerIpFailure := false }

/-! ## Requests on their way to an upstream -/

inductive Scheme where
  | http
  | https
  | ws
  | wss
  | other
deriving DecidableEq, Repr

structure ParsedRemoteEndpoint where
  endpoint : RemoteEndpoint
  scheme : Option Scheme
  host : Str
  hostPort : Str
deriving DecidableEq, Repr

/-- `RemoteEndpointOwned::try_parse` of `rust_extensions`. -/
class RemoteEndpointParser where
  tryParse : Str → Option ParsedRemoteEndpoint

/-- Parses nothing. -/
@[reducible] def noRemoteEndpoints : RemoteEndpointParser :=
  { tryParse := fun _ => none }

structure UpstreamRequest where
  proxyPassTo : ProxyPassToConfig
  endPointInfo : HttpEndpointInfo
  connectionInfo : HttpConnectionInfo
  location : ProxyPassLocationConfig
  identity : Option HttpProxyPassIdentity
  head : Bytes
deriving DecidableEq, Repr

/-- The step decided to go on reading, to close the connection, or to turn it
into a tunnel. -/
inductive ReaderStep where
  | continueReading
  | close
  | upgrade (request : UpstreamRequest)
deriving DecidableEq, Repr

/-- The response slot a step has put on the queue of the writer. -/
inductive Queued where
  | nothing
  | page (page : ErrorPage)
  | response (bytes : Bytes)
  | upstream (request : UpstreamRequest)
deriving DecidableEq, Repr

/-- What the rest of the process does during one step. -/
structure StepEnv where
  app : AppCtx := {}
  queueOpen : Bool := true
  workerAccepts : Nat := 0
  getContent : MyReverseProxyRemoteEndpoint → Option Str → Str → Str → Bytes := fun _ _ _ _ => []

structure ReaderState where
  reader : H1Reader
  connectionInfo : HttpConnectionInfo

structure StepResult where
  state : ReaderState
  step : ReaderStep
  queued : Queued

/-- `respond_error`: the connection is closed after the page, if any. -/
def respondError (env : StepEnv) (state : ReaderState) (err : ProxyServerError) : StepResult :=
  { state
    step := .close
    queued := match err.errorHandling.page with
      | some page => if env.queueOpen then .page page else .nothing
      | none => .nothing }

/-- `emit_single_response` and the check of `keep_alive` after it. -/
def emitSingleResponse (env : StepEnv) (state : ReaderState)
    (keepAlive : Bool) (bytes : Bytes) : StepResult :=
  if env.queueOpen then
    { state
      step := if keepAlive then .continueReading else .close
      queued := .response bytes }
  else
    { state, step := .close, queued := .nothing }

section

variable [SliceOfU8Ext]

/-! ## Reading the head -/

section

variable [StrUtils]

/-- An empty buffer is not parsed. -/
def parseBuffered (buf : Bytes) : Outcome (Option Http1Headers) :=
  if buf.length > 0 then Http1Headers.parse buf else .ret none

def H1Reader.readHeadersLoop :
    Nat → H1Reader → Outcome (H1Reader × Except ProxyServerError Http1Headers)
  | 0, _ => .diverge
  | fuel + 1, reader => do
    let buf ← reader.buffer.getData
    match ← parseBuffered buf with
    | some headers => return (reader, .ok headers)
    | none =>
      match readMore (reader.into NullSink.mk) with
      | (relay, .error err) =>
        return ({ events := relay.events, buffer := relay.buffer }, .error err)
      | (relay, .ok _) =>
        readHeadersLoop fuel { events := relay.events, buffer := relay.buffer }

/-- Every round but the last takes at least one byte off the socket. -/
def H1Reader.readHeaders (reader : H1Reader) :
    Outcome (H1Reader × Except ProxyServerError Http1Headers) :=
  reader.readHeadersLoop ((unread reader.events).length + 1)

end

/-! ## The endpoint of a request -/

/-- The host of the request without its port, as the check against the cached
endpoint reads it. -/
def requestHostForMetric (headers : Http1Headers) (buf : Bytes) :
    Outcome (Option Str) := do
  match headers.hostValue with
  | none => return none
  | some position =>
    if position.stop > buf.length then return none
    else
      let bytes ← slice buf position.start position.stop
      return (fromUtf8 bytes).map fun host =>
        trim (host.takeWhile (· != ':'))

/-- `try_find_endpoint_info`: the name is not trimmed here. -/
def tryFindEndpointInfo (headers : Http1Headers) (buf : Bytes)
    (listenConfig : HttpListenPortConfiguration) :
    Outcome (Option HttpEndpointInfo) := do
  match headers.hostValue with
  | none => listenConfig.getHttpEndpointInfo none
  | some position =>
    let bytes ← slice buf position.start position.stop
    match fromUtf8 bytes with
    | none => listenConfig.getHttpEndpointInfo none
    | some host =>
      listenConfig.getHttpEndpointInfo (some (asBytes (host.takeWhile (· != ':'))))

/-- The endpoint the connection already has is kept when it claims the host,
and also when there is no host to compare. -/
def needsEndpointResolve (current : Option HttpEndpointInfo) (host : Option Str) : Bool :=
  match current, host with
  | none, _ => true
  | some current, some host => !current.isMyEndpoint (asBytes host)
  | some _, none => false

def resolveEndpoint (connectionInfo : HttpConnectionInfo) (headers : Http1Headers) (buf : Bytes) :
    Outcome (Option HttpEndpointInfo) := do
  let host ← requestHostForMetric headers buf
  if needsEndpointResolve connectionInfo.endpointInfo host then
    tryFindEndpointInfo headers buf connectionInfo.listenConfig
  else
    return connectionInfo.endpointInfo

/-- The client certificate and the IP list of the endpoint. -/
def checkEndpoint (app : AppCtx) (info : HttpEndpointInfo) (connectionInfo : HttpConnectionInfo) :
    Outcome (Option ProxyServerError) :=
  app.whiteListIpList.refusal info connectionInfo.cnUserName
    connectionInfo.connectionIp .misdirectedClientCertRequired .notAuthorized

/-! ## The location of a request -/

structure Route where
  location : ProxyPassLocationConfig
  identity : Option HttpProxyPassIdentity
  proxyPassTo : ProxyPassToConfig
  dynamicHostOverride : Option Str

/-- A request that ends before its head is compiled. -/
inductive Refusal where
  | close
  | error (err : ProxyServerError)

variable [RemoteEndpointParser]

/-- The upstream of a location; a dynamic proxy takes it from the request. -/
def resolveProxyPassTo (location : ProxyPassLocationConfig) (headers : Http1Headers) (buf : Bytes) :
    Outcome (Except ProxyServerError (ProxyPassToConfig × Option Str)) := do
  match location.proxyPassTo with
  | .dynamicProxy allowedHosts =>
    match ← headers.findHeaderValueStr buf (ascii "proxy-to") with
    | none => return .error .proxyToHeaderMissing
    | some proxyTo =>
      match RemoteEndpointParser.tryParse proxyTo with
      | none => return .error .proxyToHeaderInvalid
      | some parsed =>
        if parsed.scheme = none ∨ parsed.scheme = some .other then
          return .error .proxyToHeaderInvalid
        else if allowedHosts.all fun allowed =>
            allowed.any (eqIgnoreAsciiCase · parsed.host) then
          return .ok (.http1 (.direct parsed.endpoint), some parsed.hostPort)
        else
          return .error .proxyToHostNotAllowed
  | other => return .ok (other, none)

variable [StrUtils]

def selectRoute (app : AppCtx) (info : HttpEndpointInfo)
    (connectionInfo : HttpConnectionInfo) (headers : Http1Headers)
    (buf : Bytes) : Outcome (Except Refusal Route) := do
  let path ← getPathAndQuery (headers.getFirstLine buf)
  match ← info.findLocation (asBytes path) with
  | none => return .error (.error .locationIsNotFound)
  | some location =>
    if location.proxyPassTo.isDrop then return .error .close
    else
      match ← authorize app info location connectionInfo headers buf with
      | .error err => return .error (.error err)
      | .ok identity =>
        if !info.userIsAllowed app.allowedUsersList identity then
          return .error (.error .notAuthorized)
        else
          match ← resolveProxyPassTo location headers buf with
          | .error err => return .error (.error err)
          | .ok (proxyPassTo, dynamicHostOverride) =>
            return .ok { location, identity, proxyPassTo, dynamicHostOverride }

/-! ## Serving a request -/

/-- The first line of the compiled head, up to its line feed. -/
def builderFirstLine (head : Bytes) : Outcome Bytes := do
  let index ← unwrapBytePos head 10 0
  return head.take index

variable [Platform] (env : StepEnv) (state : ReaderState)

/-- Static and local-files locations: the result of draining the body is not
looked at. -/
def answerLocally (contentLength : HttpContentLength) (keepAlive : Bool) (bytes : Bytes) :
    Outcome StepResult := do
  let (reader, _, _) ← state.reader.transferBody NullSink.mk contentLength
  return emitSingleResponse env { state with reader } keepAlive bytes

/-- The request is handed to a worker and its body streamed to it. -/
def dispatchUpstream (contentLength : HttpContentLength) (keepAlive : Bool)
    (request : UpstreamRequest) : Outcome StepResult := do
  if !env.queueOpen then
    return { state, step := .close, queued := .nothing }
  else
    let (reader, _, result) ← state.reader.transferBody
      (BodyChannelSink.mk env.workerAccepts []) contentLength
    return {
      state := { state with reader }
      step := if result.isOk && keepAlive then .continueReading else .close
      queued := .upstream request }

/-- From the compiled head on; the head has left the buffer. -/
def serveRequest (info : HttpEndpointInfo) (route : Route)
    (contentLength : HttpContentLength) (compiled : CompiledHeaders) :
    Outcome StepResult :=
  match route.location.proxyPassTo with
  | .static config =>
    answerLocally env state contentLength info.keepAlive config.response
  | .filesPath filesPath defaultFile => do
    let firstLine ← builderFirstLine compiled.head
    let (verb, path) ← getVerbAndPath firstLine
    answerLocally env state contentLength info.keepAlive
      (env.getContent filesPath defaultFile verb path)
  | _ =>
    let request : UpstreamRequest :=
      { proxyPassTo := route.proxyPassTo
        endPointInfo := info
        connectionInfo := state.connectionInfo
        location := route.location
        identity := route.identity
        head := compiled.head }
    if compiled.webSocketUpgrade then
      .ret { state, step := .upgrade request, queued := .nothing }
    else
      dispatchUpstream env state contentLength info.keepAlive request

/-- From the gate on: the location is selected and the head compiled. -/
def routeRequest (info : HttpEndpointInfo) (headers : Http1Headers) :
    Outcome StepResult := do
  let buf ← state.reader.buffer.getData
  match ← selectRoute env.app info state.connectionInfo headers buf with
  | .error .close => return { state, step := .close, queued := .nothing }
  | .error (.error err) => return respondError env state err
  | .ok route =>
    let context : CompileContext :=
      { kind := .request info
        connectionInfo := state.connectionInfo
        identity := route.identity
        mcpPath := route.proxyPassTo.mcpPath
        dynamicProxyHostOverride := route.dynamicHostOverride }
    match ← compileHeaders context buf headers with
    | .error err => return respondError env state err
    | .ok compiled =>
      serveRequest env { state with reader := state.reader.commitRead headers.stop }
        info route headers.contentLength compiled

/-- The checks of the endpoint and its OAuth gate. -/
def handleRequest (info : HttpEndpointInfo) (headers : Http1Headers) :
    Outcome StepResult := do
  match ← checkEndpoint env.app info state.connectionInfo with
  | some err => return respondError env state err
  | none =>
    match ← runOauthGate env.app state.reader info headers with
    | (reader, .close) =>
      return {
        state := { state with reader }
        step := .close
        queued := .nothing }
    | (reader, .answered bytes) =>
      return emitSingleResponse env { state with reader } info.keepAlive bytes
    | (reader, .proceed) =>
      routeRequest env { state with reader } info headers

def readAndDispatch :
    Outcome StepResult := do
  match ← state.reader.readHeaders with
  | (reader, .error _) =>
    return {
      state := { state with reader }
      step := .close
      queued := .nothing }
  | (reader, .ok headers) =>
    let buf ← reader.buffer.getData
    let endpointInfo ← resolveEndpoint state.connectionInfo headers buf
    let state : ReaderState :=
      { reader
        connectionInfo := { state.connectionInfo with endpointInfo } }
    match endpointInfo with
    | none => return respondError env state .httpConfigurationIsNotFound
    | some info => handleRequest env state info headers

end

end ReverseProxy
