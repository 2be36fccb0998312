import ReverseProxy.Flows.ReloadPortConfigurations

/-!
# Deleting an endpoint

A host that left the settings is taken out of the live configuration.  What is
left of a port is written back as an HTTP listener, also for an MCP port, and a
TCP listener is dropped whatever host it belongs to.
-/

namespace ReverseProxy

open ListenConfiguration

def HttpListenPortConfiguration.deleteConfiguration (config : HttpListenPortConfiguration)
    (hostEndpoint : EndpointHttpHostString) : Option HttpListenPortConfiguration := do
  let index ← config.endpoints.findIdx? (·.hostEndpoint.src == hostEndpoint.src)
  return { config with
    endpoints := config.endpoints.eraseIdx index
    listenHost := hostEndpoint.getListenHost }

def AppConfigurationInner.write (config : AppConfigurationInner) (port : EndpointPort)
    (listener : Option ListenConfiguration) : AppConfigurationInner :=
  { config with listenEndpoints := Function.update config.listenEndpoints port listener }

def deleteHttpEndpoint (config : AppConfigurationInner) (hostEndpoint : EndpointHttpHostString) :
    AppConfigurationInner :=
  match config.listenEndpoints hostEndpoint.getPort with
  | none => config
  | some (.http httpConfig) | some (.mcp httpConfig) =>
    match httpConfig.deleteConfiguration hostEndpoint with
    | none => config
    | some newConfiguration =>
      if newConfiguration.endpoints = [] then config.write hostEndpoint.getPort none
      else config.write hostEndpoint.getPort (some (.http newConfiguration))
  | some (.tcp _) => config.write hostEndpoint.getPort none

def deleteHttpEndpointIfExists (config : AppConfigurationInner) (endpointId : Str) :
    Except String AppConfigurationInner :=
  return deleteHttpEndpoint config (← EndpointHttpHostString.new endpointId)

/-! ## Locality -/

/-- What is to be left of a port without a host.  Its address is the one all
hosts of the port have. -/
def HttpListenPortConfiguration.without (config : HttpListenPortConfiguration)
    (host : EndpointHttpHostString) : Option HttpListenPortConfiguration :=
  if ∀ info ∈ config.endpoints, info.hostEndpoint.src ≠ host.src then
    some config
  else
    let others := config.endpoints.eraseP (·.hostEndpoint.src == host.src)
    if others = [] then none
    else some { config with endpoints := others, listenHost := host.getListenHost }

def ListenConfiguration.without (host : EndpointHttpHostString) :
    ListenConfiguration → Option ListenConfiguration
  | http config => (config.without host).map http
  | mcp config => (config.without host).map mcp
  | tcp config => if config.hostEndpoint.src = host.src then none else some (tcp config)

/-- Only the listener of the host changes, and only by the endpoint of the
host. -/
structure DeletesLocally (config : AppConfigurationInner) (host : EndpointHttpHostString)
    (next : AppConfigurationInner) : Prop where
  port : next.listenEndpoints host.getPort =
    (config.listenEndpoints host.getPort).bind (·.without host)
  elsewhere : ∀ port ≠ host.getPort, next.listenEndpoints port = config.listenEndpoints port
  errors : next.errorConfigurations = config.errorConfigurations

/-- The listeners from which the script deletes a host as it should. -/
def ListenConfiguration.LosesOnly (host : EndpointHttpHostString) : ListenConfiguration → Prop
  | http _ => True
  | mcp config => (∀ info ∈ config.endpoints, info.hostEndpoint.src ≠ host.src) ∨
      config.endpoints.length ≤ 1
  | tcp config => config.hostEndpoint.src = host.src

section

variable {config left : HttpListenPortConfiguration} {host : EndpointHttpHostString}

theorem deleteConfiguration_eq_none_iff : config.deleteConfiguration host = none ↔
    ∀ info ∈ config.endpoints, info.hostEndpoint.src ≠ host.src := by
  unfold HttpListenPortConfiguration.deleteConfiguration
  cases found : config.endpoints.findIdx? (·.hostEndpoint.src == host.src) with
  | none => simpa using found
  | some index =>
    obtain ⟨inside, named, _⟩ := List.findIdx?_eq_some_iff_getElem.mp found
    simpa using ⟨_, List.getElem_mem inside, beq_iff_eq.mp named⟩

theorem length_of_deleteConfiguration (deleted : config.deleteConfiguration host = some left) :
    left.endpoints.length + 1 = config.endpoints.length := by
  obtain ⟨index, found, equal⟩ := Option.bind_eq_some_iff.mp deleted
  cases equal
  obtain ⟨inside, _⟩ := List.findIdx?_eq_some_iff_getElem.mp found
  simp [List.length_eraseIdx, inside]
  omega

theorem without_eq : config.without host = match config.deleteConfiguration host with
    | none => some config
    | some left => if left.endpoints = [] then none else some left := by
  cases deleted : config.deleteConfiguration host with
  | none => exact if_pos (deleteConfiguration_eq_none_iff.mp deleted)
  | some left =>
    have named := mt deleteConfiguration_eq_none_iff.mpr (deleted ▸ Option.some_ne_none left)
    obtain ⟨index, found, equal⟩ := Option.bind_eq_some_iff.mp deleted
    cases equal
    rw [HttpListenPortConfiguration.without, if_neg named, List.eraseP_eq_eraseIdx, found]

end

theorem deletesLocally_write {config : AppConfigurationInner} {host : EndpointHttpHostString}
    {listener : Option ListenConfiguration} :
    DeletesLocally config host (config.write host.getPort listener) ↔
      listener = (config.listenEndpoints host.getPort).bind (·.without host) := by
  constructor
  · intro deletes
    simpa [AppConfigurationInner.write] using deletes.port
  · intro same
    exact ⟨by simpa [AppConfigurationInner.write] using same,
      fun port other => Function.update_of_ne other _ _, rfl⟩

theorem deletesLocally_self {config : AppConfigurationInner} {host : EndpointHttpHostString} :
    DeletesLocally config host config ↔ config.listenEndpoints host.getPort =
      (config.listenEndpoints host.getPort).bind (·.without host) :=
  ⟨DeletesLocally.port, fun same => ⟨same, fun _ _ => rfl, rfl⟩⟩

/-- The deletion is local exactly if the port is not a TCP listener of another
host, and not one for MCP that keeps endpoints. -/
theorem deletesLocally_iff (config : AppConfigurationInner) (host : EndpointHttpHostString) :
    DeletesLocally config host (deleteHttpEndpoint config host) ↔
      ∀ listener ∈ config.listenEndpoints host.getPort, listener.LosesOnly host := by
  unfold deleteHttpEndpoint
  cases before : config.listenEndpoints host.getPort with
  | none => simp [deletesLocally_self, before]
  | some listener =>
    cases listener with
    | http httpConfig =>
      dsimp only
      cases deleted : httpConfig.deleteConfiguration host with
      | none => simp [deletesLocally_self, before, without, LosesOnly, without_eq, deleted]
      | some left =>
        by_cases empty : left.endpoints = []
        · simp [deletesLocally_write, before, without, LosesOnly, without_eq, deleted, empty]
        · simp [deletesLocally_write, before, without, LosesOnly, without_eq, deleted, empty]
    | mcp httpConfig =>
      dsimp only
      cases deleted : httpConfig.deleteConfiguration host with
      | none =>
        have absent := deleteConfiguration_eq_none_iff.mp deleted
        simpa [deletesLocally_self, before, without, LosesOnly, without_eq, deleted] using
          .inl absent
      | some left =>
        have shorter := length_of_deleteConfiguration deleted
        have named := mt deleteConfiguration_eq_none_iff.mpr (deleted ▸ Option.some_ne_none left)
        by_cases empty : left.endpoints = []
        · have single : httpConfig.endpoints.length = 1 := by simpa [empty] using shorter.symm
          simp [deletesLocally_write, before, without, LosesOnly, without_eq, deleted, empty,
            single]
        · have several := List.length_pos_iff.mpr empty
          simp [deletesLocally_write, before, without, LosesOnly, without_eq, deleted, empty]
          exact ⟨by simpa using named, by omega⟩
    | tcp tcpConfig =>
      rw [deletesLocally_write, before]
      simp [without, LosesOnly]

def endpointNamed (host : Str) (kind : ListenHttpEndpointType) : HttpEndpointInfo :=
  { hostEndpoint := { src := host, port := some 443, index := some 1 }, listenEndpointType := kind }

/-- Of two endpoints on an MCP port one is deleted, and the port becomes one for
HTTP. -/
theorem mcp_port_turns_http :
    ((deleteHttpEndpointIfExists
        { listenEndpoints := fun _ => some (.mcp
            { endpoints := [endpointNamed "a:443".toList .mcp, endpointNamed "b:443".toList .mcp]
              listenEndpointType := .mcp }) } "a:443".toList).toOption.map
        (·.listenEndpoints (.tcp 443))) =
      some (some (.http
        { endpoints := [endpointNamed "b:443".toList .mcp], listenEndpointType := .mcp
          listenHost := "0.0.0.0:443".toList })) := by
  decide +kernel

end ReverseProxy
