import ReverseProxy.H1Utils.HeadLines

/-!
# Compiled endpoint configuration

The records a listener serves requests from.  Hash maps and hash sets of the
source are lists, so that a statement about every list is one about every
iteration order.
-/

namespace ReverseProxy

/-! ## Header rules -/

structure ModifyHeadersConfig where
  remove : List Str := []
  addHeaders : List (Str × Str) := []
deriving DecidableEq, Repr

/-- A header is dropped when it is listed for removal and also when a header
of the same name is added. -/
def ModifyHeadersConfig.hasToBeRemoved (config : ModifyHeadersConfig) (header : Bytes) : Bool :=
  config.remove.any (isNamed header <| asBytes ·) ||
    config.addHeaders.any (isNamed header <| asBytes ·.1)

/-! ## Upstreams -/

/-- `RemoteEndpointOwned` of `rust_extensions`, as far as it is read. -/
structure RemoteEndpoint where
  text : Str
  httpPathAndQuery : Option Str
deriving DecidableEq, Repr

inductive MyReverseProxyRemoteEndpoint where
  | gateway (id : Str) (remoteHost : RemoteEndpoint)
  | overSsh (sshCredentials : Str) (remoteHost : RemoteEndpoint)
  | direct (remoteHost : RemoteEndpoint)
deriving DecidableEq, Repr

def MyReverseProxyRemoteEndpoint.getPathAndQuery :
    MyReverseProxyRemoteEndpoint → Str
  | gateway _ remoteHost => remoteHost.httpPathAndQuery.getD ['/']
  | overSsh _ remoteHost => remoteHost.httpPathAndQuery.getD ['/']
  | direct remoteHost => remoteHost.httpPathAndQuery.getD ['/']

structure StaticContentConfig where
  statusCode : Nat
  contentType : Option Str
  body : Bytes
deriving DecidableEq, Repr

inductive ProxyPassToConfig where
  | http1 (remoteHost : MyReverseProxyRemoteEndpoint)
  | http2 (remoteHost : MyReverseProxyRemoteEndpoint)
  | mcpHttp1 (remoteHost : MyReverseProxyRemoteEndpoint)
  | mcpHttp2 (remoteHost : MyReverseProxyRemoteEndpoint)
  | unixHttp1 (remoteHost : MyReverseProxyRemoteEndpoint)
  | unixHttp2 (remoteHost : MyReverseProxyRemoteEndpoint)
  | filesPath (filesPath : MyReverseProxyRemoteEndpoint) (defaultFile : Option Str)
  | static (content : StaticContentConfig)
  | drop
  | dynamicProxy (allowedHosts : Option (List Str))
deriving DecidableEq, Repr

namespace ProxyPassToConfig

def isDrop : ProxyPassToConfig → Bool
  | drop => true
  | _ => false

def isMcp : ProxyPassToConfig → Bool
  | mcpHttp1 _ => true
  | mcpHttp2 _ => true
  | _ => false

/-- The upstream path an MCP location rewrites requests onto. -/
def mcpPath : ProxyPassToConfig → Option Str
  | mcpHttp1 remoteHost => some remoteHost.getPathAndQuery
  | mcpHttp2 remoteHost => some remoteHost.getPathAndQuery
  | _ => none

end ProxyPassToConfig

structure ProxyPassLocationConfig where
  path : Str
  proxyPassTo : ProxyPassToConfig
  ipWhiteListId : Option Str := none
  authHeader : Option Str := none
  modifyRequestHeaders : ModifyHeadersConfig := {}
deriving DecidableEq, Repr

/-! ## Endpoints -/

inductive ListenHttpEndpointType where
  | http1
  | http2
  | https1
  | https2
  | mcp
deriving DecidableEq, Repr

def ListenHttpEndpointType.isHttps : ListenHttpEndpointType → Bool
  | https1 => true
  | https2 => true
  | _ => false

/-- `index` is the position of the colon in front of the port. -/
structure EndpointHttpHostString where
  src : Str
  port : Option Nat
  index : Option Nat
deriving DecidableEq, Repr

namespace EndpointHttpHostString

def new (host : Str) : Except String EndpointHttpHostString :=
  if ['/'].isPrefixOf host || ['~', '/'].isPrefixOf host then
    .ok { src := host, port := none, index := none }
  else
    let index := host.findIdx? (· == ':')
    let portStr := match index with
      | some index => host.drop (index + 1)
      | none => host
    match (parseUsize portStr).filter (· < 65536) with
    | some port => .ok { src := host, port := some port, index }
    | none =>
      .error ("Can not pars endpoint port for host: " ++ String.ofList host)

def hasServerName (host : EndpointHttpHostString) : Bool := host.index.isSome

def getServerName (host : EndpointHttpHostString) : Option Str := host.index.map host.src.take

def isMyServerName (host : EndpointHttpHostString) (serverName : Bytes) :
    Bool :=
  match host.getServerName with
  | some myServerName => isNamed (asBytes myServerName) serverName
  | none => true

end EndpointHttpHostString

structure HttpEndpointInfo where
  hostEndpoint : EndpointHttpHostString
  listenEndpointType : ListenHttpEndpointType
  injectCountry : Bool := false
  gAuth : Option Str := none
  oauth : Option Str := none
  sslCertificateId : Option Str := none
  clientCertificateId : Option Str := none
  locations : List ProxyPassLocationConfig := []
  allowedUserListId : Option Str := none
  modifyRequestHeaders : ModifyHeadersConfig := {}
  modifyResponseHeaders : ModifyHeadersConfig := {}
  whitelistedIpListId : Option Str := none
  keepAlive : Bool := true
  hsts : Bool := false
deriving DecidableEq, Repr

namespace HttpEndpointInfo

variable (info : HttpEndpointInfo)

def isMyEndpoint (serverName : Bytes) : Bool :=
  info.hostEndpoint.isMyServerName serverName

/-- `str::is_char_boundary`. -/
def isCharBoundary (text : Bytes) (index : Nat) : Bool :=
  match text[index]? with
  | some octet => index == 0 || !isUtf8Tail octet
  | none => index == text.length

/-- The slice `path[..location.path.len()]` panics inside a character. -/
def findLocationIn (path : Bytes) :
    List ProxyPassLocationConfig → Outcome (Option ProxyPassLocationConfig)
  | [] => .ret none
  | location :: locations =>
    let length := (asBytes location.path).length
    if length > path.length then findLocationIn path locations
    else if !isCharBoundary path length then .panic
    else if isNamed (path.take length) (asBytes location.path) then
      .ret (some location)
    else findLocationIn path locations

def findLocation (path : Bytes) :
    Outcome (Option ProxyPassLocationConfig) :=
  findLocationIn path info.locations

def connectionSatisfiesClientCert (connectionCertCa : Option Str) : Bool :=
  match info.clientCertificateId with
  | some requiredCa => connectionCertCa == some requiredCa
  | none => true

def clientCertIdentityApplies (connectionCertCa : Str) : Bool :=
  match info.clientCertificateId with
  | some requiredCa => requiredCa == connectionCertCa
  | none => false

end HttpEndpointInfo

structure HttpListenPortConfiguration where
  endpoints : List HttpEndpointInfo
  listenEndpointType : ListenHttpEndpointType
  listenHost : Str := []
deriving DecidableEq, Repr

/-- Without a server name only a single endpoint that has no server name of
its own is chosen; `first().unwrap()` panics on an empty list. -/
def HttpListenPortConfiguration.getHttpEndpointInfo
    (config : HttpListenPortConfiguration) (serverName : Option Bytes) :
    Outcome (Option HttpEndpointInfo) :=
  match serverName with
  | none =>
    match config.endpoints with
    | [] => .panic
    | [first] =>
      if first.hostEndpoint.hasServerName then .ret none
      else .ret (some first)
    | _ => .ret none
  | some serverName =>
    .ret (config.endpoints.find? (·.isMyEndpoint serverName))

end ReverseProxy
