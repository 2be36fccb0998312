import ReverseProxy.TcpListener.Connection

/-!
# IP lists of endpoints over the history of a connection

The HTTP/1 server asks the IP list of the endpoint for each request, hyper
behind TLS when it first sees a host, and plain-text HTTP/2 never.  So a list
must not drop a client that was let in.
-/

namespace ReverseProxy

variable (served : ServedConnection)

/-- An endpoint that names an IP list is reached only while the list admits
the client. -/
def EnforcesList (reached : Option HttpEndpointInfo) : Prop :=
  ∀ info listId clientIp, reached = some info → info.whitelistedIpListId = some listId →
    served.connection.clientIp = some clientIp →
    served.app.whiteListIpList.isWhiteListed listId clientIp = .ret true

/-- The IP list of the endpoint lets the client in. -/
def LetsIn (lists : WhiteListedIpLists) (clientIp : Option IpAddr)
    (info : HttpEndpointInfo) : Prop :=
  lists.admits info.whitelistedIpListId clientIp = .ret true

/-- The events on which no request gets past a list: a new configuration keeps
the clients of the hosts hyper behind TLS has a pass for, and a plain-text
HTTP/2 request is for an endpoint without a list. -/
def ListsKept : ConnectionEvent → Prop
  | .configure app => ∀ handler, served.connection = .https handler →
      ∀ entry ∈ handler.proxyPasses,
        LetsIn served.app.whiteListIpList handler.connectionIp entry.2.endpointInfo →
          LetsIn app.whiteListIpList handler.connectionIp entry.2.endpointInfo
  | .stream _ => True
  | .request request => ∀ handler, served.connection = .http2 handler →
      ∀ host info, request.parts.requestHost = some host →
        handler.listenPortConfig.getHttpEndpointInfo (some (asBytes host)) = .ret (some info) →
        info.whitelistedIpListId = none

/-- What the passes of a connection stand for. -/
def PassesCovered : Prop :=
  match served.connection with
  | .h1 _ => True
  | .https handler => handler.AllCached
      (LetsIn served.app.whiteListIpList handler.connectionIp)
  | .http2 handler => handler.AllCached fun info =>
    info.whitelistedIpListId = none

theorem LetsIn.enforces {served : ServedConnection} {info : HttpEndpointInfo}
    (letsIn : LetsIn served.app.whiteListIpList served.connection.clientIp info) :
    EnforcesList served (some info) := by
  intro reached listId clientIp same named known
  cases same
  unfold LetsIn at letsIn
  rw [named, known] at letsIn
  exact letsIn

theorem enforcesList_none :
    EnforcesList served none := by
  intro info listId clientIp reached
  cases reached

theorem tlsConnection_covered {lists : WhiteListedIpLists}
    {config : HttpListenPortConfiguration} {clientIp : Option IpAddr}
    {reader : H1Reader} {handshake : TlsHandshake} {connection : Connection}
    {app : AppCtx}
    (accepted : handleTlsConnection lists config clientIp reader handshake =
      .ret (some connection)) :
    PassesCovered { app, connection } := by
  simp only [handleTlsConnection, Outcome.bind_eq_ret_iff] at accepted
  obtain ⟨admitted, _, continued⟩ := accepted
  split at continued
  · split at continued
    · cases continued
      trivial
    · cases continued
      trivial
    · cases continued
      intro entry present
      cases present
    · cases continued
      intro entry present
      cases present
    · cases continued
  · cases continued

theorem accepted_covered {lists : WhiteListedIpLists}
    {config : HttpListenPortConfiguration} {clientIp : Option IpAddr}
    {reader : H1Reader} {handshake : Option TlsHandshake}
    {connection : Connection} {app : AppCtx}
    (accepted : handleAcceptedConnection lists config clientIp reader
      handshake = .ret (some connection)) :
    PassesCovered { app, connection } := by
  unfold handleAcceptedConnection at accepted
  split at accepted
  · cases accepted
    trivial
  · cases accepted
    intro entry present
    cases present
  · split at accepted
    · cases accepted
    · exact tlsConnection_covered accepted

section

variable [SliceOfU8Ext] [StrUtils] [RemoteEndpointParser] [Platform]

/-- The HTTP/1 server asks the list for every request. -/
theorem readAndDispatch_enforces {env : StepEnv} {state : ReaderState} {result : StepResult}
    (stepped : readAndDispatch env state = .ret result) :
    EnforcesList { app := env.app, connection := .h1 state }
      (result.upstream.map (·.endPointInfo)) := by
  cases handed : result.upstream with
  | none => exact enforcesList_none _
  | some request =>
    obtain ⟨_, _, _, _, _, _, admitted⟩ := readAndDispatch_admits stepped
      (StepResult.reaches_of_upstream handed)
    have checked := (h1Admission_eq_some_iff.mp admitted).1
    obtain ⟨_, letsIn⟩ := WhiteListedIpLists.refusal_eq_none_iff.mp checked
    exact LetsIn.enforces letsIn

theorem ConnectionStep.covered {before after : ServedConnection}
    {event : ConnectionEvent} {reached : Option HttpEndpointInfo}
    (covered : PassesCovered before) (kept : ListsKept before event)
    (stepped : ConnectionStep before event after reached) :
    PassesCovered after ∧ EnforcesList before reached := by
  cases stepped with
  | @configure app newApp connection =>
    refine ⟨?_, enforcesList_none _⟩
    cases connection with
    | h1 state => trivial
    | http2 handler => exact covered
    | https handler =>
      intro entry present
      exact kept handler rfl entry present (covered entry present)
  | h1 stepped => exact ⟨trivial, readAndDispatch_enforces stepped⟩
  | @https app handler next request outcome handled =>
    have cached : handler.AllCached (LetsIn app.whiteListIpList handler.connectionIp) := covered
    obtain ⟨sameIp, nextCovered, letsIn⟩ := cached.handled (fun _ info _ _ checked =>
        (WhiteListedIpLists.refusal_eq_none_iff.mp checked).2) handled
    refine ⟨?_, ?_⟩
    · simpa [PassesCovered, sameIp] using nextCovered
    · cases reached : outcome.upstream with
      | none => exact enforcesList_none _
      | some info =>
        obtain ⟨result, same⟩ := HandledRequest.served_of_upstream reached
        exact LetsIn.enforces (letsIn info result same)
  | @http2 app handler next request outcome handled =>
    have cached : handler.AllCached fun info =>
        info.whitelistedIpListId = none := covered
    obtain ⟨_, nextCovered, unlisted⟩ := cached.handled
      (fun host info named resolved _ => kept handler rfl host info named resolved) handled
    refine ⟨nextCovered, ?_⟩
    intro info listId clientIp reached named
    obtain ⟨result, same⟩ := HandledRequest.served_of_upstream reached
    rw [unlisted info result same] at named
    cases named

/-- On every history of such events, from the accepted connection on, each
request obeys the IP list of its endpoint as it stands. -/
theorem history_enforces_lists {lists : WhiteListedIpLists}
    {config : HttpListenPortConfiguration} {clientIp : Option IpAddr}
    {reader : H1Reader} {handshake : Option TlsHandshake}
    {connection : Connection} {app : AppCtx}
    {served next : ServedConnection} {event : ConnectionEvent}
    {reached : Option HttpEndpointInfo}
    (accepted : handleAcceptedConnection lists config clientIp reader
      handshake = .ret (some connection))
    (history : History ListsKept { app, connection } served)
    (kept : ListsKept served event)
    (stepped : ConnectionStep served event next reached) :
    EnforcesList served reached := by
  have covered : PassesCovered served := history.invariant (accepted_covered accepted)
      fun covered kept ⟨_, stepped⟩ => (stepped.covered covered kept).1
  exact (stepped.covered covered kept).2

end

/-! ## A list that changes under a connection -/

section

attribute [local instance] linearSearch asciiCase barePlatform noRemoteEndpoints

def listedLocation : ProxyPassLocationConfig :=
  { path := ['/']
    proxyPassTo := .http1 (.direct { text := "http://upstream".toList, httpPathAndQuery := none }) }

variable (kind : ListenHttpEndpointType)

def listedEndpoint : HttpEndpointInfo :=
  { hostEndpoint := { src := "443".toList, port := some 443, index := none }
    listenEndpointType := kind
    locations := [listedLocation]
    whitelistedIpListId := some "office".toList }

def listedListener :
    HttpListenPortConfiguration :=
  { endpoints := [listedEndpoint kind]
    listenEndpointType := kind }

/-- A configuration whose list has these addresses. -/
def listedApp (addresses : List (BitVec 32)) : AppCtx :=
  { whiteListIpList := [("office".toList, addresses.map .singleIp)] }

def listedClient : IpAddr := .v4 2

def listedRequest : HyperRequest :=
  { parts := { method := "GET".toList, path := ['/'], host := some ['h'] } }

def listedHandler : RequestHandler :=
  { connectionIp := some listedClient
    listenPortConfig := listedListener kind }

/-- The handler once it has served its first request. -/
def listedHandlerWithPass : RequestHandler :=
  { listedHandler kind with
    proxyPasses := [(['h'], .new (listedEndpoint kind) [] none)] }

def idleReader : H1Reader :=
  { events := []
    buffer := .new fun _ => 0 }

theorem listed_accepted :
    handleAcceptedConnection (listedApp [2]).whiteListIpList
        (listedListener .https2) (some listedClient) idleReader
        (some { endpointInfo := listedEndpoint .https2, cnUserName := none }) =
      .ret (some (.https (listedHandler .https2))) := by
  rfl

theorem listed_served_first :
    ConnectionStep { app := listedApp [2], connection := .https (listedHandler .https2) }
      (.request listedRequest)
      { app := listedApp [2]
        connection := .https (listedHandlerWithPass .https2) }
      (some (listedEndpoint .https2)) := by
  have handled : (listedHandler .https2).handleHttpsRequest (listedApp [2])
      listedRequest = .ret (listedHandlerWithPass .https2,
        .served (listedEndpoint .https2) (.dispatched listedLocation none)) :=
    rfl
  exact .https handled

/-- Whatever the list says by then, a host with a pass is served. -/
theorem listed_served_again (addresses : List (BitVec 32)) :
    ConnectionStep
      { app := listedApp addresses
        connection := .https (listedHandlerWithPass .https2) }
      (.request listedRequest)
      { app := listedApp addresses
        connection := .https (listedHandlerWithPass .https2) }
      (some (listedEndpoint .https2)) := by
  have handled : (listedHandlerWithPass .https2).handleHttpsRequest
      (listedApp addresses) listedRequest = .ret (listedHandlerWithPass .https2,
        .served (listedEndpoint .https2) (.dispatched listedLocation none)) :=
    rfl
  exact .https handled

theorem listed_history (Meets : ServedConnection → ConnectionEvent → Prop)
    (addresses : List (BitVec 32))
    (first : Meets { app := listedApp [2], connection := .https (listedHandler .https2) }
      (.request listedRequest))
    (second : Meets
      { app := listedApp [2]
        connection := .https (listedHandlerWithPass .https2) }
      (.configure (listedApp addresses))) :
    History Meets { app := listedApp [2], connection := .https (listedHandler .https2) }
      { app := listedApp addresses
        connection := .https (listedHandlerWithPass .https2) } :=
  .step (.step (.start _) first ⟨_, listed_served_first⟩) second ⟨_, .configure⟩

theorem history_enforces_lists_extended :
    EnforcesList
      { app := listedApp [2, 3]
        connection := .https (listedHandlerWithPass .https2) }
      (some (listedEndpoint .https2)) := by
  apply history_enforces_lists listed_accepted
    (listed_history ListsKept [2, 3] _ _) _ (listed_served_again [2, 3])
  · intro handler same
    cases same
  · intro handler same entry _ _
    cases same
    revert entry
    unfold LetsIn
    decide +kernel
  · intro handler same
    cases same

/-- A plain-text HTTP/2 connection reaches the upstream past the list, and so
does a TLS connection once the list has dropped its client. -/
theorem lists_are_passed :
    (∃ connection next,
      handleAcceptedConnection (listedApp [1]).whiteListIpList
          (listedListener .http2) (some listedClient) idleReader none =
        .ret (some connection) ∧
      ConnectionStep { app := listedApp [1], connection }
        (.request listedRequest) next (some (listedEndpoint .http2)) ∧
      ¬ EnforcesList { app := listedApp [1], connection } (some (listedEndpoint .http2))) ∧
    (∃ connection served next,
      handleAcceptedConnection (listedApp [2]).whiteListIpList
          (listedListener .https2) (some listedClient) idleReader
          (some { endpointInfo := listedEndpoint .https2
                  cnUserName := none }) = .ret (some connection) ∧
      History (fun _ _ => True) { app := listedApp [2], connection } served ∧
      ConnectionStep served (.request listedRequest) next (some (listedEndpoint .https2)) ∧
      ¬ EnforcesList served (some (listedEndpoint .https2))) := by
  have refused : (listedApp [1]).whiteListIpList.isWhiteListed
      "office".toList listedClient ≠ .ret true := by
    decide +kernel
  have handled : (listedHandler .http2).handleHttpRequest (listedApp [1])
      listedRequest = .ret (listedHandlerWithPass .http2,
        .served (listedEndpoint .http2) (.dispatched listedLocation none)) :=
    rfl
  refine ⟨⟨.http2 (listedHandler .http2), _, rfl, .http2 handled, ?_⟩,
    ⟨_, _, _, listed_accepted, listed_history _ [1] trivial trivial, listed_served_again [1], ?_⟩⟩
  all_goals
    intro enforced
    exact refused (enforced _ _ _ rfl rfl rfl)

end

end ReverseProxy
