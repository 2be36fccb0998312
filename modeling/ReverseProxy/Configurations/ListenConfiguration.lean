import ReverseProxy.Configurations.HttpEndpointInfo
import ReverseProxy.Library.KeyedList

/-!
# The configuration of a listener

A listener is a TCP port or a Unix socket.  Several HTTP hosts can share one
port; the endpoint of a further host is merged into what the port has already.
-/

namespace ReverseProxy

open Library

namespace ListenHttpEndpointType

/-- The relation is not symmetric: `mcp` admits `https2`, `https2` does not
admit `mcp`. -/
def canBeUnderTheSamePort : ListenHttpEndpointType → ListenHttpEndpointType → Bool
  | http1, other =>
    match other with
    | http1 => true
    | _ => false
  | http2, other =>
    match other with
    | http2 => true
    | _ => false
  | https1, other =>
    match other with
    | https1 => true
    | https2 => true
    | mcp => true
    | _ => false
  | https2, other =>
    match other with
    | https1 => true
    | https2 => true
    | _ => false
  | mcp, other =>
    match other with
    | mcp => true
    | https1 => true
    | https2 => true
    | _ => false

def isHttp1OrMcp : ListenHttpEndpointType → Bool
  | http1 => true
  | https1 => true
  | mcp => true
  | _ => false

def asStr : ListenHttpEndpointType → String
  | http1 => "http"
  | http2 => "http2"
  | https1 => "https"
  | https2 => "https2"
  | mcp => "mcp"

/-- The derived `Debug`. -/
def debug : ListenHttpEndpointType → String
  | http1 => "Http1"
  | http2 => "Http2"
  | https1 => "Https1"
  | https2 => "Https2"
  | mcp => "Mcp"

end ListenHttpEndpointType

inductive EndpointPort where
  | tcp (port : Nat)
  | unixSocket (host : Str)
deriving DecidableEq, Repr

namespace EndpointHttpHostString

def getPort (host : EndpointHttpHostString) : EndpointPort :=
  match host.port with
  | some port => .tcp port
  | none => .unixSocket host.src

/-- The text of the address the port is bound to. -/
def getListenHost (host : EndpointHttpHostString) : Str :=
  match host.getPort with
  | .tcp port => "0.0.0.0:".toList ++ (toString port).toList
  | .unixSocket host => host

theorem src_of_new {host : Str} {endpointHost : EndpointHttpHostString}
    (parsed : new host = .ok endpointHost) : endpointHost.src = host := by
  unfold new at parsed
  dsimp only at parsed
  split at parsed
  · cases parsed
    rfl
  split at parsed
  · cases parsed
    rfl
  · cases parsed

end EndpointHttpHostString

structure TcpEndpointHostConfig where
  hostEndpoint : EndpointHttpHostString
  remoteHost : MyReverseProxyRemoteEndpoint
  ipWhiteListId : Option Str := none
deriving DecidableEq, Repr

inductive ListenConfiguration where
  | http (config : HttpListenPortConfiguration)
  | tcp (config : TcpEndpointHostConfig)
  | mcp (config : HttpListenPortConfiguration)
deriving DecidableEq, Repr

/-! ## Merging a host into a port -/

namespace HttpListenPortConfiguration

def new (endpointInfo : HttpEndpointInfo) (listenHost : Str) :
    HttpListenPortConfiguration :=
  { listenEndpointType := endpointInfo.listenEndpointType
    endpoints := [endpointInfo]
    listenHost }

def insertOrReplaceConfiguration (config : HttpListenPortConfiguration)
    (endpointInfo : HttpEndpointInfo) : HttpListenPortConfiguration :=
  { config with
    endpoints := replaceOrPush (fun info => info.hostEndpoint.src) endpointInfo config.endpoints }

end HttpListenPortConfiguration

/-- The text names the new endpoint twice. -/
def checkEndpointType (config : HttpListenPortConfiguration)
    (httpEndpoint : HttpEndpointInfo) : Except String Unit :=
  if config.listenEndpointType.canBeUnderTheSamePort httpEndpoint.listenEndpointType then
    .ok ()
  else
    .error ("Can not apply endpoint " ++
      String.ofList httpEndpoint.hostEndpoint.src ++ " which has " ++
      httpEndpoint.listenEndpointType.debug ++ " type to the endpoint " ++
      String.ofList httpEndpoint.hostEndpoint.src ++
      " already configured as " ++ config.listenEndpointType.debug ++ ".")

def mergeHttpIntoExisting (existing : Option ListenConfiguration)
    (httpEndpointInfo : HttpEndpointInfo) :
    Except String HttpListenPortConfiguration :=
  match existing with
  | none => .ok (.new httpEndpointInfo
      httpEndpointInfo.hostEndpoint.getListenHost)
  | some (.http config) => do
    checkEndpointType config httpEndpointInfo
    return config.insertOrReplaceConfiguration httpEndpointInfo
  | some (.tcp _) =>
    .error ("Can not apply endpoint " ++ String.ofList httpEndpointInfo.hostEndpoint.src ++
      ". It is already configured as TCP.")
  | some (.mcp config) => do
    checkEndpointType config httpEndpointInfo
    return config.insertOrReplaceConfiguration httpEndpointInfo

/-! ## What a listener serves -/

/-- What the accept loop does with a connection. -/
inductive ListenerKind where
  | http1
  | http2
  | https
  | tcp
  | mcp
deriving DecidableEq, Repr

inductive ListenEndpoint where
  | http (info : HttpEndpointInfo)
  | tcp (config : TcpEndpointHostConfig)
deriving DecidableEq, Repr

namespace ListenConfiguration

/-- The branches of `handle_accepted_connection`.  The HTTP types behind TLS
have one handler. -/
def kind : ListenConfiguration → ListenerKind
  | .http config =>
    match config.listenEndpointType with
    | .http1 => .http1
    | .http2 => .http2
    | .https1 => .https
    | .https2 => .https
    | .mcp => .https
  | .tcp _ => .tcp
  | .mcp _ => .mcp

/-- The endpoint a connection is served from.  A TCP listener has one. -/
def endpointFor (configuration : ListenConfiguration)
    (serverName : Option Bytes) : Outcome (Option ListenEndpoint) :=
  match configuration with
  | .http config => do
    return (← config.getHttpEndpointInfo serverName).map .http
  | .tcp config => .ret (some (.tcp config))
  | .mcp config => do
    return (← config.getHttpEndpointInfo serverName).map .http

end ListenConfiguration

end ReverseProxy
