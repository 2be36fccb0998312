import ReverseProxy.Scripts.CompileHostConfiguration

/-!
# Reloading one listener

A reload compiles the hosts of a listener in the order in which the hash map of
the settings yields them.  The first host fixes the type the others are compared
with, the last one the variant of the listener.
-/

namespace ReverseProxy

open Library ListenEndpoint ListenHttpEndpointType List

/-- The hosts of the settings in the order of their hash map, which holds a
host id once. -/
structure SettingsCompiled where
  hosts : List (Str × HostSettings)
  distinct : (hosts.map Prod.fst).Nodup

/-- The part of the live configuration a reload writes; the maps for ports and
for Unix sockets are one. -/
structure AppConfigurationInner where
  listenEndpoints : EndpointPort → Option ListenConfiguration := fun _ => none
  errorConfigurations : Str → Option String := fun _ => none

section

variable (scripts : HostScripts) (listener : EndpointPort)

/-- The loop of a reload.  An id that does not parse ends it, also one of
another port. -/
def compileHosts (newConfig : Option ListenConfiguration) :
    List (Str × HostSettings) → Except String (Option ListenConfiguration)
  | [] => .ok newConfig
  | (hostId, hostSettings) :: hosts => do
    let endpointHost ← EndpointHttpHostString.new hostId
    if endpointHost.getPort = listener then
      let compiled ← compileHostConfiguration scripts endpointHost hostSettings newConfig
      compileHosts (some compiled) hosts
    else
      compileHosts newConfig hosts

variable (settings : SettingsCompiled)

def reloadListener (config : AppConfigurationInner) (errorKey : Str) (name : String) :
    Except String (AppConfigurationInner × String) := do
  let newConfig ← compileHosts scripts listener none settings.hosts
  return (
    { listenEndpoints :=
        Function.update config.listenEndpoints listener newConfig
      errorConfigurations := Function.update config.errorConfigurations errorKey none },
    (if newConfig.isSome then "Updated " else "Removed ") ++ name)

def reloadTcpPortConfigurations (config : AppConfigurationInner) (portToRefresh : Nat) :
    Except String (AppConfigurationInner × String) :=
  reloadListener scripts (.tcp portToRefresh) settings config
    (toString portToRefresh).toList ("TCP port " ++ toString portToRefresh)

def reloadUnixConfigurations (config : AppConfigurationInner) (hostToRefresh : Str) :
    Except String (AppConfigurationInner × String) :=
  reloadListener scripts (.unixSocket hostToRefresh) settings config
    hostToRefresh ("Unix socket " ++ String.ofList hostToRefresh)

def reload (config : AppConfigurationInner) :
    Except String (AppConfigurationInner × String) :=
  match listener with
  | .tcp port => reloadTcpPortConfigurations scripts settings config port
  | .unixSocket host => reloadUnixConfigurations scripts settings config host

end

/-- Scripts that resolve no location and no upstream. -/
def bareScripts : HostScripts :=
  { compileLocationProxyPassTo := fun _ _ => .error ""
    tryParse := fun _ => .error "" }

def bareHost (endpointType : String) : HostSettings :=
  { endpoint := { endpointType := endpointType.toList } }

/-! ## Independence of the order -/

/-- Two configurations of a listener that serve alike. -/
structure ServeAlike (first second : Option ListenConfiguration) : Prop where
  kind : first.map (·.kind) = second.map (·.kind)
  endpoints : ∀ serverName, first.map (·.endpointFor serverName) =
    second.map (·.endpointFor serverName)

theorem ServeAlike.refl (configuration : Option ListenConfiguration) :
    ServeAlike configuration configuration :=
  ⟨rfl, fun _ => rfl⟩

/-- Both attempts fail, or both succeed and the listeners serve alike. -/
structure SameOutcome (first second : Except String (Option ListenConfiguration)) : Prop where
  succeeds : first.isOk = second.isOk
  alike : ∀ {firstResult secondResult}, first = .ok firstResult →
    second = .ok secondResult → ServeAlike firstResult secondResult

/-- Any two orders in which the hash map can yield the hosts have the same
outcome. -/
def OrderIndependent (scripts : HostScripts) (listener : EndpointPort)
    (settings : SettingsCompiled) (config : AppConfigurationInner) : Prop :=
  ∀ first second : SettingsCompiled, first.hosts.Perm settings.hosts →
    second.hosts.Perm settings.hosts →
      SameOutcome ((reload scripts listener first config).map (·.1.listenEndpoints listener))
        ((reload scripts listener second config).map (·.1.listenEndpoints listener))

/-! ## What a host asks for -/

namespace EndpointTypeSettings

/-- What the accept loop of a port has to be for a host of this type. -/
def transport : EndpointTypeSettings → ListenerKind
  | http1 => .http1
  | http2 => .http2
  | https1 => .https
  | https2 => .https
  | tcp => .tcp
  | mcp => .https

end EndpointTypeSettings

/-- Two hosts are asked for by one server name.  A host without a server name
is asked for by every name. -/
def EndpointHttpHostString.sharesServerName (first second : EndpointHttpHostString) : Bool :=
  match first.getServerName, second.getServerName with
  | some firstName, some secondName =>
    isNamed (asBytes firstName) (asBytes secondName)
  | _, _ => true

abbrev HostKind := EndpointHttpHostString × EndpointTypeSettings

namespace HostKind

/-- Two HTTP hosts of which each can be compiled first and each last. -/
structure Coexist (first second : HostKind) : Prop where
  firstHttp : first.2 ≠ .tcp
  secondHttp : second.2 ≠ .tcp
  mcp : first.2 = .mcp ↔ second.2 = .mcp
  names : first.1.sharesServerName second.1 = false

/-- Two HTTP hosts that cannot be under one port. -/
structure Conflict (first second : HostKind) : Prop where
  firstHttp : first.2 ≠ .tcp
  secondHttp : second.2 ≠ .tcp
  transport : first.2.transport ≠ second.2.transport

end HostKind

/-- The type and the name of a host, when it is one of the listener. -/
def hostOn (listener : EndpointPort) (host : Str × HostSettings) :
    Option HostKind :=
  match EndpointHttpHostString.new host.1 with
  | .ok endpointHost =>
    if endpointHost.getPort = listener then
      match host.2.endpoint.getEndpointType with
      | .ok endpointType => some (endpointHost, endpointType)
      | .error _ => none
    else
      none
  | .error _ => none

/-- The id parses and, if the host is one of the listener, its settings
compile on a port of its own. -/
def Compiles (scripts : HostScripts) (listener : EndpointPort) (host : Str × HostSettings) : Prop :=
  ∃ endpointHost, EndpointHttpHostString.new host.1 = .ok endpointHost ∧
    (endpointHost.getPort = listener →
      (compileHostConfiguration scripts endpointHost host.2 none).isOk)

/-! ## Server names -/

namespace EndpointHttpHostString

variable {first second : EndpointHttpHostString}

theorem exists_serverName (shared : first.sharesServerName second = true) :
    ∃ serverName, first.isMyServerName serverName = true ∧
      second.isMyServerName serverName = true := by
  unfold sharesServerName at shared
  unfold isMyServerName
  cases ofFirst : first.getServerName with
  | none =>
    cases ofSecond : second.getServerName with
    | none => exact ⟨[], rfl, rfl⟩
    | some secondName =>
      exact ⟨asBytes secondName, rfl, by simp [isNamed]⟩
  | some firstName =>
    cases ofSecond : second.getServerName with
    | none => exact ⟨asBytes firstName, by simp [isNamed], rfl⟩
    | some secondName =>
      rw [ofFirst, ofSecond] at shared
      exact ⟨asBytes secondName, shared, by simp [isNamed]⟩

theorem not_both_of_not_shared (apart : first.sharesServerName second = false)
    (serverName : Bytes) :
    ¬(first.isMyServerName serverName = true ∧ second.isMyServerName serverName = true) := by
  unfold sharesServerName at apart
  unfold isMyServerName
  cases ofFirst : first.getServerName with
  | none => simp [ofFirst] at apart
  | some firstName =>
    cases ofSecond : second.getServerName with
    | none => simp [ofFirst, ofSecond] at apart
    | some secondName =>
      simp only [ofFirst, ofSecond, isNamed, beq_eq_false_iff_ne, beq_iff_eq] at apart ⊢
      rintro ⟨named, alsoNamed⟩
      exact apart (named.trans alsoNamed.symm)

theorem not_shared_symm (apart : first.sharesServerName second = false) :
    second.sharesServerName first = false := by
  rw [Bool.eq_false_iff]
  intro shared
  obtain ⟨serverName, isSecond, isFirst⟩ := exists_serverName shared
  exact not_both_of_not_shared apart serverName ⟨isFirst, isSecond⟩

end EndpointHttpHostString

/-! ## Merging a sequence of endpoints -/

def mergeAll (existing : Option ListenConfiguration) :
    List ListenEndpoint → Except String (Option ListenConfiguration)
  | [] => .ok existing
  | endpoint :: endpoints => do
    let merged ← endpoint.mergeInto existing
    mergeAll (some merged) endpoints

theorem mergeAll_append (existing : Option ListenConfiguration) (front back : List ListenEndpoint) :
    mergeAll existing (front ++ back) =
      mergeAll existing front >>= fun merged => mergeAll merged back := by
  induction front generalizing existing with
  | nil => rfl
  | cons endpoint front ih =>
    simp only [cons_append, mergeAll]
    cases endpoint.mergeInto existing with
    | error err => rfl
    | ok merged => exact ih (some merged)

variable {endpoints : List ListenEndpoint} {result : Option ListenConfiguration}

theorem all_tcp_of_mergeAll_tcp {config : TcpEndpointHostConfig}
    (merged : mergeAll (some (.tcp config)) endpoints = .ok result) :
    ∀ endpoint ∈ endpoints, endpoint.endpointType = .tcp := by
  induction endpoints generalizing config with
  | nil => simp
  | cons endpoint endpoints ih =>
    obtain ⟨next, taken, merged⟩ := bind_eq_ok_iff.mp merged
    cases endpoint with
    | http info => cases taken
    | tcp other =>
      cases taken
      intro member isMember
      rcases mem_cons.mp isMember with same | later
      · rw [same]
        rfl
      · exact ih merged member later

theorem exists_mergeAll_tcps (existing : Option ListenConfiguration)
    (tcps : ∀ endpoint ∈ endpoints, endpoint.endpointType = .tcp) :
    ∃ result, mergeAll existing endpoints = .ok result := by
  induction endpoints generalizing existing with
  | nil => exact ⟨existing, rfl⟩
  | cons endpoint endpoints ih =>
    obtain ⟨isTcp, later⟩ := forall_mem_cons.mp tcps
    cases endpoint with
    | http info => exact absurd isTcp info.listenEndpointType.settings_ne_tcp
    | tcp config => exact ih (some (.tcp config)) later

variable {config : HttpListenPortConfiguration}

theorem mergeInto_ofHttp_eq_ok_iff {last : ListenHttpEndpointType}
    {info : HttpEndpointInfo} {merged : ListenConfiguration} :
    (http info).mergeInto (some (.ofHttp last config)) = .ok merged ↔
      config.listenEndpointType.canBeUnderTheSamePort info.listenEndpointType = true ∧
        merged = .ofHttp info.listenEndpointType (config.insertOrReplaceConfiguration info) := by
  have existing : mergeHttpIntoExisting (some (.ofHttp last config)) info =
      checkEndpointType config info >>= fun _ =>
        pure (config.insertOrReplaceConfiguration info) := by
    cases last <;> rfl
  unfold mergeInto
  dsimp only
  rw [existing, checkEndpointType]
  cases fits : config.listenEndpointType.canBeUnderTheSamePort info.listenEndpointType with
  | false => simp [bind, Except.bind]
  | true =>
    simp only [if_true, bind, Except.bind, pure, Except.pure, Except.ok.injEq, true_and]
    exact eq_comm

theorem ListenHttpEndpointType.transport_eq_of_canBe {first second : ListenHttpEndpointType}
    (fits : first.canBeUnderTheSamePort second = true) :
    second.settings.transport = first.settings.transport := by
  revert fits
  cases first <;> cases second <;> decide

theorem transport_of_mergeAll_ofHttp {last : ListenHttpEndpointType}
    (merged : mergeAll (some (.ofHttp last config)) endpoints = .ok result) :
    ∀ endpoint ∈ endpoints, endpoint.endpointType ≠ .tcp →
      endpoint.endpointType.transport =
        config.listenEndpointType.settings.transport := by
  induction endpoints generalizing last config with
  | nil => simp
  | cons endpoint endpoints ih =>
    obtain ⟨next, taken, merged⟩ := bind_eq_ok_iff.mp merged
    intro member isMember isHttp
    cases endpoint with
    | tcp other =>
      cases taken
      rcases mem_cons.mp isMember with rfl | later
      · exact absurd rfl isHttp
      · exact absurd (all_tcp_of_mergeAll_tcp merged member later) isHttp
    | http info =>
      obtain ⟨fits, rfl⟩ := mergeInto_ofHttp_eq_ok_iff.mp taken
      rcases mem_cons.mp isMember with rfl | later
      · exact transport_eq_of_canBe fits
      · exact ih merged member later isHttp

theorem transport_eq_of_mergeAll (merged : mergeAll none endpoints = .ok result)
    {first second : ListenEndpoint} (firstMember : first ∈ endpoints)
    (secondMember : second ∈ endpoints) (firstHttp : first.endpointType ≠ .tcp)
    (secondHttp : second.endpointType ≠ .tcp) :
    first.endpointType.transport = second.endpointType.transport := by
  cases endpoints with
  | nil => simp at firstMember
  | cons head endpoints =>
    obtain ⟨next, taken, merged⟩ := bind_eq_ok_iff.mp merged
    cases head with
    | tcp config =>
      cases taken
      have noHttp : ∀ endpoint ∈ tcp config :: endpoints,
          endpoint.endpointType = .tcp :=
        forall_mem_cons.mpr ⟨rfl, all_tcp_of_mergeAll_tcp merged⟩
      exact absurd (noHttp first firstMember) firstHttp
    | http info =>
      cases taken
      have alike : ∀ endpoint ∈ http info :: endpoints,
          endpoint.endpointType ≠ .tcp →
            endpoint.endpointType.transport =
              info.listenEndpointType.settings.transport :=
        forall_mem_cons.mpr ⟨fun _ => rfl, transport_of_mergeAll_ofHttp merged⟩
      rw [alike first firstMember firstHttp, alike second secondMember secondHttp]

/-! ## Ports with HTTP hosts only -/

/-- What the hosts of a port compile to in this order. -/
def mergedHttp (first : HttpEndpointInfo) (rest : List HttpEndpointInfo) :
    ListenConfiguration :=
  .ofHttp (rest.foldl (fun _ info => info.listenEndpointType)
      first.listenEndpointType)
    { endpoints := first :: rest
      listenEndpointType := first.listenEndpointType
      listenHost := first.hostEndpoint.getListenHost }

theorem mergeAll_ofHttp {infos : List HttpEndpointInfo}
    (last : ListenHttpEndpointType) (distinct : ((config.endpoints ++ infos).map
      (·.hostEndpoint.src)).Nodup)
    (fits : ∀ info ∈ infos, config.listenEndpointType.canBeUnderTheSamePort
      info.listenEndpointType = true) :
    mergeAll (some (.ofHttp last config)) (infos.map .http) =
      .ok (some (.ofHttp (infos.foldl (fun _ info => info.listenEndpointType) last)
        { config with endpoints := config.endpoints ++ infos })) := by
  induction infos generalizing last config with
  | nil => simp [mergeAll]
  | cons info infos ih =>
    obtain ⟨here, later⟩ := forall_mem_cons.mp fits
    have fresh : ∀ other ∈ config.endpoints, other.hostEndpoint.src ≠ info.hostEndpoint.src := by
      intro other member same
      rw [map_append] at distinct
      exact (nodup_append.mp distinct).2.2 _ (mem_map_of_mem member) _
        (mem_map_of_mem mem_cons_self) same
    have pushed : config.insertOrReplaceConfiguration info =
        { config with endpoints := config.endpoints ++ [info] } := by
      rw [HttpListenPortConfiguration.insertOrReplaceConfiguration, replaceOrPush_of_fresh fresh]
    have taken : (http info).mergeInto
        (some (.ofHttp last config)) = .ok (.ofHttp info.listenEndpointType
          { config with endpoints := config.endpoints ++ [info] }) := by
      rw [← pushed]
      exact mergeInto_ofHttp_eq_ok_iff.mpr ⟨here, rfl⟩
    rw [map_cons, mergeAll, taken]
    change mergeAll (some (.ofHttp info.listenEndpointType
      { config with endpoints := config.endpoints ++ [info] })) _ = _
    refine (ih info.listenEndpointType ?_ ?_).trans ?_
    · simpa using distinct
    · exact later
    · simp

theorem mergeAll_http {first : HttpEndpointInfo} {rest : List HttpEndpointInfo}
    (distinct : ((first :: rest).map (·.hostEndpoint.src)).Nodup)
    (fits : ∀ info ∈ rest, first.listenEndpointType.canBeUnderTheSamePort
      info.listenEndpointType = true) :
    mergeAll none ((first :: rest).map .http) = .ok (some (mergedHttp first rest)) :=
  mergeAll_ofHttp first.listenEndpointType distinct fits

theorem kind_mergedHttp (first : HttpEndpointInfo) (rest : List HttpEndpointInfo) :
    (mergedHttp first rest).kind =
      if rest.foldl (fun _ info => info.listenEndpointType)
          first.listenEndpointType = .mcp then .mcp
      else first.listenEndpointType.settings.transport := by
  unfold mergedHttp
  generalize rest.foldl (fun _ info => info.listenEndpointType)
    first.listenEndpointType = last
  cases last <;> cases type : first.listenEndpointType <;>
    simp [ListenConfiguration.ofHttp, ListenConfiguration.kind,
      settings, EndpointTypeSettings.transport]

theorem endpointFor_mergedHttp (first : HttpEndpointInfo)
    (rest : List HttpEndpointInfo) (serverName : Bytes) :
    (mergedHttp first rest).endpointFor (some serverName) =
      .ret (((first :: rest).find? (·.isMyEndpoint serverName)).map .http) := by
  unfold mergedHttp
  generalize rest.foldl (fun _ info => info.listenEndpointType)
    first.listenEndpointType = last
  cases last <;> rfl

theorem endpointFor_none_mergedHttp (first second : HttpEndpointInfo)
    (rest : List HttpEndpointInfo) :
    (mergedHttp first (second :: rest)).endpointFor none = .ret none := by
  unfold mergedHttp
  generalize (second :: rest).foldl (fun _ info => info.listenEndpointType)
    first.listenEndpointType = last
  cases last <;> rfl

end ReverseProxy
