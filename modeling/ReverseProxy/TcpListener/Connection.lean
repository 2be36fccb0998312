import ReverseProxy.H1ProxyServer.Pipeline.Admission
import ReverseProxy.Library.Runs
import ReverseProxy.TcpListener.HttpRequestHandler

/-!
# Connections of a listener

`handle_accepted_connection` hands an accepted connection to one of three
servers.  From then on requests of the connection and changes of the
configuration come in any order.
-/

namespace ReverseProxy

inductive Connection where
  /-- The hand-written HTTP/1 server, on plain TCP or behind TLS. -/
  | h1 (state : ReaderState)
  /-- Hyper behind TLS. -/
  | https (handler : RequestHandler)
  /-- Hyper on plain TCP. -/
  | http2 (handler : RequestHandler)

def Connection.clientIp : Connection → Option IpAddr
  | .h1 state => state.connectionInfo.connectionIp
  | .https handler => handler.connectionIp
  | .http2 handler => handler.connectionIp

/-- The endpoint the server name of a handshake selected, with the client
certificate the handshake verified. -/
structure TlsHandshake where
  endpointInfo : HttpEndpointInfo
  cnUserName : Option ClientCertificateData

/-- `https::handle_connection` behind the handshake.  An MCP connection becomes
a tunnel that carries no requests. -/
def handleTlsConnection (lists : WhiteListedIpLists)
    (config : HttpListenPortConfiguration) (clientIp : Option IpAddr)
    (reader : H1Reader) (handshake : TlsHandshake) :
    Outcome (Option Connection) := do
  if ← lists.admits handshake.endpointInfo.whitelistedIpListId clientIp then
    match handshake.endpointInfo.listenEndpointType with
    | .http1 | .https1 =>
      return some (.h1
        { reader
          connectionInfo :=
            { cnUserName := handshake.cnUserName
              connectionIp := clientIp
              endpointInfo := some handshake.endpointInfo
              listenConfig := config } })
    | .http2 | .https2 =>
      return some (.https
        { connectionIp := clientIp
          listenPortConfig := config
          clientCertificate := handshake.cnUserName })
    | .mcp => return none
  else return none

/-- `handle_accepted_connection` of an HTTP listener.  `get_white_list_id` is
`None` for such a listener, so no list is checked here. -/
def handleAcceptedConnection (lists : WhiteListedIpLists)
    (config : HttpListenPortConfiguration) (clientIp : Option IpAddr)
    (reader : H1Reader) (handshake : Option TlsHandshake) :
    Outcome (Option Connection) :=
  match config.listenEndpointType with
  | .http1 =>
    .ret (some (.h1
      { reader
        connectionInfo :=
          { cnUserName := none
            connectionIp := clientIp
            endpointInfo := none
            listenConfig := config } }))
  | .http2 =>
    .ret (some (.http2
      { connectionIp := clientIp
        listenPortConfig := config }))
  | _ =>
    match handshake with
    | none => .ret none
    | some handshake =>
      handleTlsConnection lists config clientIp reader handshake

/-! ## Histories of a connection -/

/-- A connection with the configuration in force. -/
structure ServedConnection where
  app : AppCtx
  connection : Connection

inductive ConnectionEvent where
  | configure (app : AppCtx)
  /-- The next request of an HTTP/1 stream; the configuration of the
  environment is not used. -/
  | stream (env : StepEnv)
  /-- A request hyper has parsed. -/
  | request (request : HyperRequest)

section

variable [SliceOfU8Ext] [StrUtils] [RemoteEndpointParser] [Platform]

/-- One event, with the endpoint whose upstream a request is handed to. -/
inductive ConnectionStep : ServedConnection → ConnectionEvent →
    ServedConnection → Option HttpEndpointInfo → Prop where
  | configure {app newApp : AppCtx} {connection : Connection} :
      ConnectionStep { app, connection } (.configure newApp) { app := newApp, connection } none
  | h1 {app : AppCtx} {state : ReaderState} {env : StepEnv} {result : StepResult}
      (stepped : readAndDispatch { env with app } state = .ret result) :
      ConnectionStep { app, connection := .h1 state } (.stream env)
        { app, connection := .h1 result.state }
        (result.upstream.map (·.endPointInfo))
  | https {app : AppCtx} {handler next : RequestHandler}
      {request : HyperRequest} {outcome : HandledRequest}
      (handled : handler.handleHttpsRequest app request = .ret (next, outcome)) :
      ConnectionStep { app, connection := .https handler } (.request request)
        { app, connection := .https next } outcome.upstream
  | http2 {app : AppCtx} {handler next : RequestHandler}
      {request : HyperRequest} {outcome : HandledRequest}
      (handled : handler.handleHttpRequest app request = .ret (next, outcome)) :
      ConnectionStep { app, connection := .http2 handler } (.request request)
        { app, connection := .http2 next } outcome.upstream

/-- Histories of a connection whose events meet a condition. -/
abbrev History (Meets : ServedConnection → ConnectionEvent → Prop) :
    ServedConnection → ServedConnection → Prop :=
  Library.Run (fun before event after => ∃ reached, ConnectionStep before event after reached) Meets

end

end ReverseProxy
