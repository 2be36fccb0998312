import ReverseProxy.H1ProxyServer.Authorize
import ReverseProxy.H1ProxyServer.TransferBody
import ReverseProxy.H1Utils.Http1ResponseBuilder

/-!
# The OAuth gate of the HTTP/1 pipeline

The gate runs on the head that is still in the buffer.  When it answers a
request itself it drops the head and takes the body off the connection.
-/

namespace ReverseProxy

/-! ## Sinks of a request body -/

/-- Discards everything. -/
structure NullSink where

instance : H1Writer NullSink where
  writeHttpPayload sink _ := (sink, .ok ())

/-- Collects a body up to a limit; what goes beyond it is dropped. -/
structure BodyCollectorSink where
  body : Bytes
  limit : Nat
  overflowed : Bool

def BodyCollectorSink.new (limit : Nat) : BodyCollectorSink :=
  { body := [], limit, overflowed := false }

def BodyCollectorSink.intoBody (sink : BodyCollectorSink) : Option Bytes :=
  if sink.overflowed then none else some sink.body

instance : H1Writer BodyCollectorSink where
  writeHttpPayload sink buffer :=
    if sink.overflowed then (sink, .ok ())
    else if sink.body.length + buffer.length > sink.limit then
      ({ sink with overflowed := true, body := [] }, .ok ())
    else ({ sink with body := sink.body ++ buffer }, .ok ())

/-- Hands the pieces to the worker, which takes `accepts` of them before it
goes away. -/
structure BodyChannelSink where
  accepts : Nat
  sent : List Bytes

instance : H1Writer BodyChannelSink where
  writeHttpPayload sink buffer :=
    match sink.accepts with
    | 0 => (sink, .error .disconnected)
    | accepts + 1 => ({ accepts, sent := sink.sent ++ [buffer] }, .ok ())

/-! ## The reader of a connection -/

/-- `H1Reader`: what the socket will deliver and the loop buffer. -/
structure H1Reader where
  events : List ReadEvent
  buffer : LoopBuffer

namespace H1Reader

def commitRead (reader : H1Reader) (size : Nat) : H1Reader :=
  { reader with buffer := reader.buffer.commitRead size }

def into {σ : Type} (reader : H1Reader) (sink : σ) : Relay σ :=
  { events := reader.events, buffer := reader.buffer, sink }

variable {σ : Type} [H1Writer σ] [SliceOfU8Ext]

/-- `H1Reader::transfer_body`, with the sink it leaves behind. -/
def transferBody (reader : H1Reader) (sink : σ) (contentLength : HttpContentLength) :
    Outcome (H1Reader × σ × Except ProxyServerError Nat) := do
  let (relay, result) ← ReverseProxy.transferBody (reader.into sink) contentLength
  return ({ events := relay.events, buffer := relay.buffer }, relay.sink, result)

end H1Reader

/-! ## The gate -/

inductive OAuthGateOutcome where
  | proceed
  | answered (bytes : Bytes)
  | close
deriving DecidableEq, Repr

def maxOauthBody : Nat := 64 * 1024

/-- The parts of the request the OAuth core needs. -/
structure RequestFacts where
  method : Str
  path : Str
  query : Option Str
  baseUrl : Str
  resourcePath : Str
  authorization : Option Str
  contentType : Option Str

section

variable [SliceOfU8Ext]

/-- Without a `Host` header the configured host of the endpoint is used. -/
def RequestFacts.read (info : HttpEndpointInfo) (headers : Http1Headers)
    (buffer : Bytes) : Outcome RequestFacts := do
  let (method, pathAndQuery) ← getVerbAndPath (headers.getFirstLine buffer)
  let path := pathAndQuery.takeWhile (· != '?')
  let query := (pathAndQuery.findIdx? (· == '?')).map fun index =>
    pathAndQuery.drop (index + 1)
  let host ← headers.findHeaderValueStr buffer (ascii "host")
  let location ← info.findLocation (asBytes path)
  let resourcePath := match location with
    | some location => normalizeResourcePath location.path
    | none => normalizeResourcePath path
  let authorization ← headers.findHeaderValueStr buffer (ascii "authorization")
  let contentType ← headers.findHeaderValueStr buffer (ascii "content-type")
  return {
    method
    path
    query
    baseUrl := buildBaseUrl info.listenEndpointType.isHttpsOrMcp (host.getD info.hostEndpoint.src)
    resourcePath
    authorization
    contentType }

variable (reader : H1Reader)

/-- `read_body` without collecting: the head is dropped, then the body. -/
def dropBody (headers : Http1Headers) :
    Outcome (H1Reader × Bool) := do
  let (reader, _, result) ← (reader.commitRead headers.stop).transferBody NullSink.mk
      headers.contentLength
  return (reader, result.isOk)

/-- `read_body` with collecting; the inner `none` is a body over the limit. -/
def collectBody (headers : Http1Headers) :
    Outcome (H1Reader × Option (Option Bytes)) := do
  let (reader, sink, result) ← (reader.commitRead headers.stop).transferBody
      (BodyCollectorSink.new maxOauthBody) headers.contentLength
  return (reader, if result.isOk then some sink.intoBody else none)

def answer (headers : Http1Headers)
    (response : OAuthHttpResponse) : Outcome (H1Reader × OAuthGateOutcome) := do
  let (reader, read) ← dropBody reader headers
  if read then return (reader, .answered (buildResponseBytes response))
  else return (reader, .close)

def gateProxiedRequest (headers : Http1Headers) (context : OAuthContext) (request : RequestFacts) :
    Outcome (H1Reader × OAuthGateOutcome) :=
  let result := context.checkBearer
    { authorization := request.authorization
      baseUrl := context.baseUrl request.baseUrl
      resourcePath := request.resourcePath }
  match result with
  | .allowed => .ret (reader, .proceed)
  | .challenge response => answer reader headers response

/-- The answer on a path of the OAuth server itself. -/
def answerRoute (info : HttpEndpointInfo)
    (headers : Http1Headers) (context : OAuthContext) (request : RequestFacts)
    (route : OAuthRoute) : Outcome (H1Reader × OAuthGateOutcome) := do
  match ← collectBody reader headers with
  | (reader, none) => return (reader, .close)
  | (reader, some none) =>
    return (reader, .answered (buildResponseBytes (oauthErrorResponse 413 "invalid_request"
      "The request body is too large for an oauth endpoint")))
  | (reader, some (some body)) =>
    let response := context.handleOauthRequest
      { method := .parse request.method
        route
        baseUrl := request.baseUrl
        query := request.query
        body
        contentType := request.contentType
        authorization := request.authorization
        knownResourcePaths := info.locations.map (·.path) }
    return (reader, .answered (buildResponseBytes response))

def runOauthGate (app : AppCtx) (reader : H1Reader) (info : HttpEndpointInfo)
    (headers : Http1Headers) : Outcome (H1Reader × OAuthGateOutcome) :=
  match info.oauth with
  | none => .ret (reader, .proceed)
  | some oauthId =>
    match app.oauthCredentials.lookup oauthId with
    | none =>
      answer reader headers (oauthErrorResponse 503 "server_error"
        "The oauth configuration for this endpoint is not loaded")
    | some context => do
      let buffer ← reader.buffer.getData
      let request ← RequestFacts.read info headers buffer
      match ← routeOauthPath request.path with
      | none => gateProxiedRequest reader headers context request
      | some route => answerRoute reader info headers context request route

end

end ReverseProxy
