import Mathlib.Data.List.Pairwise
import ReverseProxy.Flows.ReloadPortConfigurations

/-!
# When the order of the hosts does not matter

A port whose hosts are all of one transport compiles in some order.  It
compiles to one listener in every order exactly when its hosts can pairwise
change places.
-/

namespace ReverseProxy

open Library EndpointHttpHostString ListenConfiguration List

namespace ListenEndpoint

def hostKind (endpoint : ListenEndpoint) : HostKind :=
  (endpoint.hostEndpoint, endpoint.endpointType)

theorem exists_tcp {endpoint : ListenEndpoint} (isTcp : endpoint.endpointType = .tcp) :
    ∃ config, endpoint = .tcp config := by
  cases endpoint with
  | tcp config => exact ⟨config, rfl⟩
  | http info => exact absurd isTcp info.listenEndpointType.settings_ne_tcp

theorem exists_https {endpoints : List ListenEndpoint}
    (allHttp : ∀ endpoint ∈ endpoints, endpoint.endpointType ≠ .tcp) :
    ∃ infos : List HttpEndpointInfo, endpoints = infos.map .http := by
  induction endpoints with
  | nil => exact ⟨[], rfl⟩
  | cons endpoint endpoints ih =>
    obtain ⟨here, later⟩ := forall_mem_cons.mp allHttp
    obtain ⟨infos, rfl⟩ := ih later
    cases endpoint with
    | http info => exact ⟨info :: infos, rfl⟩
    | tcp config => exact absurd rfl here

end ListenEndpoint

namespace ListenHttpEndpointType

theorem canBe_of_mcp_iff {first second : ListenHttpEndpointType}
    (same : first.settings.transport = second.settings.transport)
    (mcp : first = .mcp ↔ second = .mcp) :
    first.canBeUnderTheSamePort second = true := by
  revert same mcp
  cases first <;> cases second <;> decide

theorem canBe_of_mcp {first second : ListenHttpEndpointType} (isMcp : first = .mcp)
    (same : first.settings.transport = second.settings.transport) :
    first.canBeUnderTheSamePort second = true := by
  subst isMcp
  revert same
  cases second <;> decide

end ListenHttpEndpointType

/-! ## The last endpoint -/

section

variable {existing result : Option ListenConfiguration} {front : List ListenEndpoint}

theorem mergeAll_concat_tcp {config : TcpEndpointHostConfig}
    (merged : mergeAll existing (front ++ [.tcp config]) = .ok result) :
    result = some (.tcp config) := by
  rw [mergeAll_append] at merged
  obtain ⟨_, _, taken⟩ := bind_eq_ok_iff.mp merged
  cases taken
  rfl

theorem mergeAll_concat_http {info : HttpEndpointInfo}
    (merged : mergeAll existing (front ++ [.http info]) = .ok result) :
    ∃ config, result = some (.ofHttp info.listenEndpointType config) := by
  rw [mergeAll_append] at merged
  obtain ⟨_, _, taken⟩ := bind_eq_ok_iff.mp merged
  obtain ⟨_, taken, same⟩ := bind_eq_ok_iff.mp taken
  obtain ⟨config, _, made⟩ := bind_eq_ok_iff.mp taken
  cases made
  cases same
  exact ⟨config, rfl⟩

end

theorem kind_ofHttp_eq_mcp_iff {last : ListenHttpEndpointType}
    {config : HttpListenPortConfiguration} :
    (ofHttp last config).kind = .mcp ↔ last = .mcp := by
  cases last <;> cases type : config.listenEndpointType <;>
    simp [ofHttp, kind, type]

/-! ## Independence of the order of the endpoints -/

/-- Any two orders of the endpoints have the same outcome. -/
def EndpointsAgree (endpoints : List ListenEndpoint) : Prop :=
  ∀ first second : List ListenEndpoint, first.Perm endpoints →
    second.Perm endpoints → SameOutcome (mergeAll none first) (mergeAll none second)

namespace SameOutcome

variable {first second : Except String (Option ListenConfiguration)}

theorem refl (outcome : Except String (Option ListenConfiguration)) :
    SameOutcome outcome outcome := by
  refine ⟨rfl, ?_⟩
  intro firstResult secondResult reached alsoReached
  rw [reached, Except.ok.injEq] at alsoReached
  subst alsoReached
  exact .refl _

theorem of_failures (firstFails : ∀ result, first ≠ .ok result)
    (secondFails : ∀ result, second ≠ .ok result) :
    SameOutcome first second := by
  have notOk : ∀ {outcome : Except String (Option ListenConfiguration)},
      (∀ result, outcome ≠ .ok result) → outcome.isOk = false := by
    intro outcome fails
    rw [Bool.eq_false_iff]
    intro succeeds
    obtain ⟨result, reached⟩ := isOk_iff.mp succeeds
    exact fails result reached
  refine ⟨(notOk firstFails).trans (notOk secondFails).symm, ?_⟩
  intro result _ reached
  exact absurd reached (firstFails result)

/-- The error texts play no part. -/
theorem congr {third fourth : Except String (Option ListenConfiguration)}
    (same : SameOutcome first second)
    (ofFirst : ∀ result, first = .ok result ↔ third = .ok result)
    (ofSecond : ∀ result, second = .ok result ↔ fourth = .ok result) :
    SameOutcome third fourth := by
  have succeeds : third.isOk = fourth.isOk := by
    rw [Bool.eq_iff_iff, isOk_iff, isOk_iff]
    simp only [← ofFirst, ← ofSecond]
    rw [← isOk_iff, ← isOk_iff, same.succeeds]
  refine ⟨succeeds, ?_⟩
  intro firstResult secondResult reached alsoReached
  exact same.alike ((ofFirst firstResult).mpr reached) ((ofSecond secondResult).mpr alsoReached)

end SameOutcome

/-- The HTTP hosts need one transport. -/
def OneTransport (endpoints : List ListenEndpoint) : Prop :=
  ∀ first ∈ endpoints, ∀ second ∈ endpoints, first.endpointType ≠ .tcp →
    second.endpointType ≠ .tcp →
      first.endpointType.transport = second.endpointType.transport

def DistinctHosts (endpoints : List ListenEndpoint) : Prop :=
  (endpoints.map (·.hostEndpoint.src)).Nodup

section

variable {endpoints others : List ListenEndpoint}

/-- Once one order compiles, every other one does, to a listener that serves
alike. -/
theorem EndpointsAgree.other {first second : List ListenEndpoint}
    {firstResult : Option ListenConfiguration}
    (agree : EndpointsAgree endpoints) (firstPerm : first.Perm endpoints)
    (secondPerm : second.Perm endpoints)
    (merged : mergeAll none first = .ok firstResult) :
    ∃ secondResult, mergeAll none second = .ok secondResult ∧
      ServeAlike firstResult secondResult := by
  have same := agree first second firstPerm secondPerm
  have firstOk := isOk_iff.mpr ⟨firstResult, merged⟩
  obtain ⟨secondResult, alsoMerged⟩ := isOk_iff.mp (same.succeeds ▸ firstOk)
  exact ⟨secondResult, alsoMerged, same.alike merged alsoMerged⟩

theorem EndpointsAgree.perm (agree : EndpointsAgree endpoints)
    (permutation : others.Perm endpoints) : EndpointsAgree others := by
  intro first second firstPerm secondPerm
  exact agree first second (firstPerm.trans permutation) (secondPerm.trans permutation)

theorem DistinctHosts.perm (distinct : DistinctHosts endpoints)
    (permutation : others.Perm endpoints) : DistinctHosts others :=
  (permutation.map _).nodup_iff.mpr distinct

theorem DistinctHosts.infos {infos : List HttpEndpointInfo}
    (distinct : DistinctHosts (infos.map .http)) :
    (infos.map (·.hostEndpoint.src)).Nodup := by
  simpa [DistinctHosts, Function.comp_def, ListenEndpoint.hostEndpoint]
    using distinct

theorem OneTransport.infos {infos : List HttpEndpointInfo} (one : OneTransport (infos.map .http)) :
    ∀ first ∈ infos, ∀ second ∈ infos,
      first.listenEndpointType.settings.transport =
        second.listenEndpointType.settings.transport := by
  intro first firstMember second secondMember
  exact one (.http first) (mem_map_of_mem firstMember) (.http second)
    (mem_map_of_mem secondMember)
    first.listenEndpointType.settings_ne_tcp
    second.listenEndpointType.settings_ne_tcp

/-! ## Ports whose order matters -/

/-- Endpoints of one transport compile in some order: an `mcp` host first, if
there is one. -/
theorem exists_order_mergeAll {infos : List HttpEndpointInfo}
    (distinct : DistinctHosts (infos.map .http))
    (one : OneTransport (infos.map .http)) :
    ∃ ordered : List HttpEndpointInfo, ordered.Perm infos ∧
      ∃ result, mergeAll none (ordered.map .http) = .ok result := by
  by_cases hasMcp : ∃ info ∈ infos, info.listenEndpointType = .mcp
  · obtain ⟨first, member, isMcp⟩ := hasMcp
    obtain ⟨before, after, rfl⟩ := append_of_mem member
    have permutation : (first :: (before ++ after)).Perm
        (before ++ first :: after) := perm_middle.symm
    have distinctHere := distinct.perm (permutation.map ListenEndpoint.http)
    refine ⟨_, permutation, _, mergeAll_http distinctHere.infos ?_⟩
    intro info later
    apply ListenHttpEndpointType.canBe_of_mcp isMcp
    exact one.infos first member info (permutation.mem_iff.mp (mem_cons_of_mem _ later))
  · push Not at hasMcp
    cases infos with
    | nil => exact ⟨[], .refl _, none, rfl⟩
    | cons first rest =>
      refine ⟨first :: rest, .refl _, _, mergeAll_http distinct.infos ?_⟩
      intro info later
      have member := mem_cons_of_mem first later
      apply ListenHttpEndpointType.canBe_of_mcp_iff
      · exact one.infos first mem_cons_self info member
      · exact iff_of_false (hasMcp first mem_cons_self) (hasMcp info member)

/-- A TCP host beside HTTP hosts compiles last, but not first. -/
theorem not_agree_of_tcp_and_http {tcp http : ListenEndpoint}
    (distinct : DistinctHosts endpoints) (one : OneTransport endpoints)
    (tcpMember : tcp ∈ endpoints) (isTcp : tcp.endpointType = .tcp)
    (httpMember : http ∈ endpoints) (isHttp : http.endpointType ≠ .tcp) :
    ¬EndpointsAgree endpoints := by
  intro agree
  let isHttpHost : ListenEndpoint → Bool := fun endpoint => endpoint.endpointType ≠ .tcp
  have parted := filter_append_perm isHttpHost endpoints
  obtain ⟨infos, https⟩ : ∃ infos : List HttpEndpointInfo,
      endpoints.filter isHttpHost = infos.map .http := by
    apply ListenEndpoint.exists_https
    intro endpoint member
    simpa [isHttpHost] using (mem_filter.mp member).2
  have selected : (endpoints.filter isHttpHost).Sublist endpoints := filter_sublist
  have tcps : ∀ endpoint ∈ endpoints.filter fun endpoint =>
      !isHttpHost endpoint, endpoint.endpointType = .tcp := by
    intro endpoint member
    simpa [isHttpHost] using (mem_filter.mp member).2
  rw [https] at selected parted
  obtain ⟨ordered, permutation, result, merged⟩ := exists_order_mergeAll
    (distinct.sublist (selected.map _))
    (fun first firstMember second secondMember =>
      one first (selected.mem firstMember) second (selected.mem secondMember))
  obtain ⟨last, tcpsMerged⟩ := exists_mergeAll_tcps result tcps
  have tcpsLast : mergeAll none (ordered.map .http ++
      endpoints.filter fun endpoint => !isHttpHost endpoint) = .ok last := by
    rw [mergeAll_append]
    exact bind_eq_ok_iff.mpr ⟨result, merged, tcpsMerged⟩
  obtain ⟨config, rfl⟩ := ListenEndpoint.exists_tcp isTcp
  obtain ⟨before, after, rfl⟩ := append_of_mem tcpMember
  obtain ⟨_, tcpFirst, _⟩ := agree.other (((permutation.map _).append_right _).trans parted)
    perm_middle.symm tcpsLast
  have onlyTcps := all_tcp_of_mergeAll_tcp tcpFirst
  rcases mem_cons.mp (perm_middle.mem_iff.mp httpMember) with
    same | later
  · exact isHttp (same ▸ rfl)
  · exact isHttp (onlyTcps http later)

/-- Of several TCP hosts the last one stays. -/
theorem not_agree_of_tcps {first second : ListenEndpoint} {rest : List ListenEndpoint}
    (permutation : (first :: second :: rest).Perm endpoints)
    (distinct : DistinctHosts endpoints)
    (tcps : ∀ endpoint ∈ endpoints, endpoint.endpointType = .tcp) :
    ¬EndpointsAgree endpoints := by
  intro agree
  have isTcp : ∀ endpoint ∈ first :: second :: rest, endpoint.endpointType = .tcp :=
    fun endpoint member => tcps endpoint (permutation.mem_iff.mp member)
  obtain ⟨firstConfig, rfl⟩ := ListenEndpoint.exists_tcp (isTcp first (by simp))
  obtain ⟨secondConfig, rfl⟩ := ListenEndpoint.exists_tcp (isTcp second (by simp))
  have firstLast : List.Perm (.tcp secondConfig :: rest ++ [.tcp firstConfig]) endpoints :=
    (perm_append_singleton _ _).trans permutation
  have secondLast : List.Perm (.tcp firstConfig :: rest ++ [.tcp secondConfig]) endpoints :=
    ((perm_append_singleton _ _).trans (.swap _ _ _)).trans permutation
  obtain ⟨firstResult, merged⟩ := exists_mergeAll_tcps none
    (fun endpoint member => tcps endpoint (firstLast.mem_iff.mp member))
  obtain ⟨secondResult, alsoMerged, alike⟩ := agree.other firstLast secondLast merged
  have ofFirst := mergeAll_concat_tcp merged
  have ofSecond := mergeAll_concat_tcp alsoMerged
  subst ofFirst ofSecond
  have same : firstConfig = secondConfig := by
    simpa [endpointFor] using alike.endpoints none
  have apart := distinct.perm permutation
  simp [DistinctHosts, same] at apart

/-- If some HTTP hosts are `mcp` and some are not, the last one chooses the
variant of the listener. -/
theorem not_agree_of_mcp {infos : List HttpEndpointInfo} {mcp other : HttpEndpointInfo}
    (distinct : DistinctHosts (infos.map .http))
    (one : OneTransport (infos.map .http)) (mcpMember : mcp ∈ infos)
    (isMcp : mcp.listenEndpointType = .mcp) (otherMember : other ∈ infos)
    (notMcp : other.listenEndpointType ≠ .mcp) :
    ¬EndpointsAgree (infos.map .http) := by
  intro agree
  obtain ⟨before, after, rfl⟩ := append_of_mem mcpMember
  have middle : (mcp :: (before ++ after)).Perm (before ++ mcp :: after) := perm_middle.symm
  have inRest : other ∈ before ++ after := by
    rcases mem_cons.mp (middle.mem_iff.mpr otherMember) with rfl | later
    · exact absurd isMcp notMcp
    · exact later
  obtain ⟨front, back, split⟩ := append_of_mem inRest
  rw [split] at middle
  have otherLast : (mcp :: (front ++ back) ++ [other]).Perm (before ++ mcp :: after) := by
    refine List.Perm.trans ?_ middle
    exact ((perm_append_singleton _ _).trans perm_middle.symm).cons mcp
  have mcpLast : (other :: (front ++ back) ++ [mcp]).Perm (before ++ mcp :: after) := by
    refine List.Perm.trans ?_ middle
    exact (perm_append_singleton _ _).trans (perm_middle.symm.cons mcp)
  have distinctHere := distinct.perm (otherLast.map ListenEndpoint.http)
  have merged : mergeAll none ((mcp :: (front ++ back) ++ [other]).map .http) =
      .ok (some (mergedHttp mcp (front ++ back ++ [other]))) := by
    apply mergeAll_http distinctHere.infos
    intro info later
    apply ListenHttpEndpointType.canBe_of_mcp isMcp
    exact one.infos mcp mcpMember info (otherLast.mem_iff.mp (mem_cons_of_mem _ later))
  obtain ⟨_, alsoMerged, alike⟩ := agree.other (otherLast.map ListenEndpoint.http)
      (mcpLast.map ListenEndpoint.http) merged
  rw [map_append] at merged alsoMerged
  obtain ⟨firstConfig, ofFirst⟩ := mergeAll_concat_http merged
  obtain ⟨secondConfig, rfl⟩ := mergeAll_concat_http alsoMerged
  have kinds := alike.kind
  rw [ofFirst, Option.map_some, Option.map_some, Option.some.injEq] at kinds
  have isMcpKind : (ofHttp mcp.listenEndpointType
      secondConfig).kind = .mcp := kind_ofHttp_eq_mcp_iff.mpr isMcp
  exact notMcp (kind_ofHttp_eq_mcp_iff.mp (kinds.trans isMcpKind))

/-! ## Ports whose order does not matter -/

/-- HTTP hosts of which each can be compiled first and each last. -/
structure Interchangeable (infos : List HttpEndpointInfo) : Prop where
  distinct : (infos.map (·.hostEndpoint.src)).Nodup
  transport : ∀ first ∈ infos, ∀ second ∈ infos,
    first.listenEndpointType.settings.transport = second.listenEndpointType.settings.transport
  mcp : ∀ first ∈ infos, ∀ second ∈ infos,
    first.listenEndpointType = .mcp → second.listenEndpointType = .mcp

namespace Interchangeable

variable {infos : List HttpEndpointInfo} {first : HttpEndpointInfo} {rest : List HttpEndpointInfo}

theorem perm {others : List HttpEndpointInfo} (inter : Interchangeable infos)
    (permutation : others.Perm infos) : Interchangeable others :=
  { distinct := (permutation.map _).nodup_iff.mpr inter.distinct
    transport := fun first firstMember second secondMember =>
      inter.transport first (permutation.mem_iff.mp firstMember) second
        (permutation.mem_iff.mp secondMember)
    mcp := fun first firstMember second secondMember =>
      inter.mcp first (permutation.mem_iff.mp firstMember) second
        (permutation.mem_iff.mp secondMember) }

theorem merged (inter : Interchangeable (first :: rest)) :
    mergeAll none ((first :: rest).map .http) = .ok (some (mergedHttp first rest)) := by
  apply mergeAll_http inter.distinct
  intro info later
  have member := mem_cons_of_mem first later
  apply ListenHttpEndpointType.canBe_of_mcp_iff
  · exact inter.transport first mem_cons_self info member
  · exact ⟨inter.mcp first mem_cons_self info member,
      inter.mcp info member first mem_cons_self⟩

theorem last_mcp_iff (inter : Interchangeable (first :: rest)) :
    rest.foldl (fun _ info => info.listenEndpointType)
        first.listenEndpointType = .mcp ↔
      first.listenEndpointType = .mcp := by
  have ofMember : ∃ last ∈ first :: rest, rest.foldl (fun _ info => info.listenEndpointType)
        first.listenEndpointType = last.listenEndpointType := by
    clear inter
    induction rest generalizing first with
    | nil => exact ⟨first, mem_cons_self, rfl⟩
    | cons second rest ih =>
      obtain ⟨last, member, same⟩ := @ih second
      exact ⟨last, mem_cons_of_mem _ member, same⟩
  obtain ⟨last, member, same⟩ := ofMember
  rw [same]
  exact ⟨inter.mcp last member first mem_cons_self,
    inter.mcp first mem_cons_self last member⟩

theorem serveAlike {other : HttpEndpointInfo} {others : List HttpEndpointInfo}
    (inter : Interchangeable (first :: rest))
    (names : (first :: rest).Pairwise fun first second =>
      first.hostEndpoint.sharesServerName second.hostEndpoint = false)
    (permutation : (other :: others).Perm (first :: rest)) :
    ServeAlike (some (mergedHttp first rest)) (some (mergedHttp other others)) := by
  have member : other ∈ first :: rest := permutation.mem_iff.mp mem_cons_self
  have alsoMcp : first.listenEndpointType = .mcp ↔ other.listenEndpointType = .mcp :=
    ⟨inter.mcp first mem_cons_self other member,
      inter.mcp other member first mem_cons_self⟩
  refine ⟨?_, ?_⟩
  · rw [Option.map_some, Option.map_some, kind_mergedHttp, kind_mergedHttp,
      inter.transport first mem_cons_self other member]
    simp only [inter.last_mcp_iff, (inter.perm permutation).last_mcp_iff, alsoMcp]
  · intro serverName
    cases serverName with
    | none =>
      cases rest with
      | nil =>
        obtain ⟨rfl, rfl⟩ := List.cons.inj (perm_singleton.mp permutation)
        rfl
      | cons second rest =>
        cases others with
        | nil => simpa using permutation.length_eq
        | cons another others =>
          rw [Option.map_some, Option.map_some,
            endpointFor_none_mergedHttp, endpointFor_none_mergedHttp]
    | some serverName =>
      rw [Option.map_some, Option.map_some, endpointFor_mergedHttp,
        endpointFor_mergedHttp, find?_eq_of_perm permutation.symm]
      exact names.imp fun apart =>
        not_both_of_not_shared apart serverName

/-- Of two hosts that share a server name the first one is served. -/
theorem not_agree_of_shared {second : HttpEndpointInfo}
    (inter : Interchangeable (first :: second :: rest))
    (shared : first.hostEndpoint.sharesServerName second.hostEndpoint = true)
    (agree : EndpointsAgree ((first :: second :: rest).map .http)) :
    False := by
  have swapped : (second :: first :: rest).Perm (first :: second :: rest) := .swap _ _ _
  have outcome := agree _ _ (.refl _) (swapped.map ListenEndpoint.http)
  have same := (outcome.alike inter.merged (inter.perm swapped).merged).endpoints
  obtain ⟨serverName, isFirst, isSecond⟩ := exists_serverName shared
  have served := same (some serverName)
  rw [Option.map_some, Option.map_some, endpointFor_mergedHttp, endpointFor_mergedHttp] at served
  have equal : first = second := by
    simpa [HttpEndpointInfo.isMyEndpoint, isFirst, isSecond] using served
  have apart := inter.distinct
  simp [equal] at apart

end Interchangeable

/-! ## The two cases together -/

theorem agree_of_conflict {first second : ListenEndpoint}
    (firstMember : first ∈ endpoints) (secondMember : second ∈ endpoints)
    (conflict : first.hostKind.Conflict second.hostKind) :
    EndpointsAgree endpoints := by
  have fails : ∀ order : List ListenEndpoint, order.Perm endpoints →
      ∀ result, mergeAll none order ≠ .ok result := by
    intro order permutation result merged
    exact conflict.transport (transport_eq_of_mergeAll merged (permutation.mem_iff.mpr firstMember)
      (permutation.mem_iff.mpr secondMember) conflict.firstHttp
      conflict.secondHttp)
  intro left right leftPerm rightPerm
  exact .of_failures (fails left leftPerm) (fails right rightPerm)

theorem oneTransport_of_no_conflict (peace : ¬∃ first ∈ endpoints, ∃ second ∈ endpoints,
      first.hostKind.Conflict second.hostKind) :
    OneTransport endpoints := by
  intro first firstMember second secondMember firstHttp secondHttp
  by_contra differ
  exact peace ⟨first, firstMember, second, secondMember, firstHttp, secondHttp, differ⟩

theorem all_http_of_pairwise {first second : ListenEndpoint} {rest : List ListenEndpoint}
    (coexist : (first :: second :: rest).Pairwise fun first second =>
      first.hostKind.Coexist second.hostKind) :
    ∀ endpoint ∈ first :: second :: rest, endpoint.endpointType ≠ .tcp := by
  have ofFirst := (pairwise_cons.mp coexist).1
  intro endpoint member
  rcases mem_cons.mp member with rfl | later
  · exact (ofFirst second mem_cons_self).firstHttp
  · exact (ofFirst endpoint later).secondHttp

theorem interchangeable_of_pairwise {infos : List HttpEndpointInfo}
    (distinct : DistinctHosts (infos.map .http))
    (one : OneTransport (infos.map .http))
    (mcp : infos.Pairwise fun first second =>
      first.listenEndpointType = .mcp ↔ second.listenEndpointType = .mcp) :
    Interchangeable infos :=
  { distinct := distinct.infos
    transport := one.infos
    mcp := fun _ firstMember _ secondMember =>
      (List.Pairwise.forall_of_forall_of_flip (fun _ _ => .rfl) mcp
        (mcp.imp Iff.symm) firstMember secondMember).mp }

theorem settings_eq_mcp_iff {httpType : ListenHttpEndpointType} :
    httpType.settings = .mcp ↔ httpType = .mcp := by
  cases httpType <;> decide

theorem agree_of_pairwise (distinct : DistinctHosts endpoints) (one : OneTransport endpoints)
    (coexist : endpoints.Pairwise fun first second =>
      first.hostKind.Coexist second.hostKind) :
    EndpointsAgree endpoints := by
  intro left right leftPerm rightPerm
  cases endpoints with
  | nil =>
    rw [leftPerm.eq_nil, rightPerm.eq_nil]
    exact .refl _
  | cons first rest =>
    cases rest with
    | nil =>
      rw [perm_singleton.mp leftPerm, perm_singleton.mp rightPerm]
      exact .refl _
    | cons second rest =>
      have allHttp := all_http_of_pairwise coexist
      obtain ⟨infos, same⟩ := ListenEndpoint.exists_https allHttp
      rw [same] at distinct one coexist allHttp leftPerm rightPerm
      have coexistInfos := pairwise_map.mp coexist
      have inter := interchangeable_of_pairwise distinct one (coexistInfos.imp fun both =>
          settings_eq_mcp_iff.symm.trans (both.mcp.trans settings_eq_mcp_iff))
      have names := coexistInfos.imp fun both => both.names
      have asInfos : ∀ {order : List ListenEndpoint}, order.Perm (infos.map .http) → ∃ head tail,
            order = (head :: tail).map .http ∧ (head :: tail).Perm infos := by
        intro order permutation
        obtain ⟨ordered, rfl⟩ := ListenEndpoint.exists_https
          fun endpoint member =>
            allHttp endpoint (permutation.mem_iff.mp member)
        have lifted : ordered.Perm infos :=
          (map_perm_map_iff fun _ _ => ListenEndpoint.http.inj).mp permutation
        cases ordered with
        | nil =>
          rw [lifted.symm.eq_nil] at same
          simp at same
        | cons head tail => exact ⟨head, tail, rfl, lifted⟩
      obtain ⟨leftFirst, leftRest, rfl, leftInfos⟩ := asInfos leftPerm
      obtain ⟨rightFirst, rightRest, rfl, rightInfos⟩ := asInfos rightPerm
      have leftMerged := (inter.perm leftInfos).merged
      have rightMerged := (inter.perm rightInfos).merged
      rw [leftMerged, rightMerged]
      refine ⟨rfl, ?_⟩
      rintro _ _ ⟨⟩ ⟨⟩
      have leftNames := (leftInfos.pairwise_iff not_shared_symm).mpr names
      exact (inter.perm leftInfos).serveAlike leftNames (rightInfos.trans leftInfos.symm)

theorem endpointsAgree_iff (distinct : DistinctHosts endpoints) :
    EndpointsAgree endpoints ↔
      (∃ first ∈ endpoints, ∃ second ∈ endpoints,
        first.hostKind.Conflict second.hostKind) ∨
      endpoints.Pairwise fun first second =>
        first.hostKind.Coexist second.hostKind := by
  by_cases conflict : ∃ first ∈ endpoints, ∃ second ∈ endpoints,
      first.hostKind.Conflict second.hostKind
  · obtain ⟨first, firstMember, second, secondMember, both⟩ := conflict
    exact iff_of_true (agree_of_conflict firstMember secondMember both)
      (.inl ⟨first, firstMember, second, secondMember, both⟩)
  have one := oneTransport_of_no_conflict conflict
  refine ⟨fun agree => .inr ?_, ?_⟩
  · by_contra notPairwise
    by_cases allHttp : ∀ endpoint ∈ endpoints, endpoint.endpointType ≠ .tcp
    · obtain ⟨infos, rfl⟩ := ListenEndpoint.exists_https allHttp
      have inter : Interchangeable infos :=
        { distinct := distinct.infos
          transport := one.infos
          mcp := by
            intro first firstMember second secondMember isMcp
            by_contra notMcp
            exact not_agree_of_mcp distinct one firstMember isMcp secondMember notMcp agree }
      rw [pairwise_map] at notPairwise
      obtain ⟨first, second, rest, permutation, notCoexist⟩ :=
        exists_perm_of_not_pairwise notPairwise
      have front := inter.perm permutation
      have mcp : first.listenEndpointType = .mcp ↔ second.listenEndpointType = .mcp :=
        ⟨front.mcp first (by simp) second (by simp), front.mcp second (by simp) first (by simp)⟩
      apply front.not_agree_of_shared _ (agree.perm (permutation.map ListenEndpoint.http))
      by_contra notShared
      exact notCoexist
        { firstHttp := first.listenEndpointType.settings_ne_tcp
          secondHttp := second.listenEndpointType.settings_ne_tcp
          mcp := settings_eq_mcp_iff.trans (mcp.trans settings_eq_mcp_iff.symm)
          names := Bool.eq_false_iff.mpr notShared }
    · push Not at allHttp
      obtain ⟨tcp, tcpMember, isTcp⟩ := allHttp
      by_cases allTcp : ∀ endpoint ∈ endpoints, endpoint.endpointType = .tcp
      · obtain ⟨first, second, rest, permutation, _⟩ := exists_perm_of_not_pairwise notPairwise
        exact not_agree_of_tcps permutation distinct allTcp agree
      · push Not at allTcp
        obtain ⟨http, httpMember, isHttp⟩ := allTcp
        exact not_agree_of_tcp_and_http distinct one tcpMember isTcp httpMember isHttp agree
  · rintro (both | coexist)
    · exact absurd both conflict
    · exact agree_of_pairwise distinct one coexist

end

/-! ## The hosts of the settings -/

section

variable (scripts : HostScripts) (listener : EndpointPort)

/-- What a host of the listener is compiled to. -/
def served (host : Str × HostSettings) : Option ListenEndpoint :=
  match new host.1 with
  | .ok endpointHost =>
    if endpointHost.getPort = listener then
      (compileEndpoint scripts endpointHost host.2).toOption
    else
      none
  | .error _ => none

variable {scripts listener}

theorem isOk_compileHostConfiguration_none
    {endpointHost : EndpointHttpHostString} {hostSettings : HostSettings} :
    (compileHostConfiguration scripts endpointHost hostSettings none).isOk = true ↔
      ∃ endpoint, compileEndpoint scripts endpointHost hostSettings =
        .ok endpoint := by
  rw [compileHostConfiguration_eq, isOk_iff]
  cases compileEndpoint scripts endpointHost hostSettings with
  | error err => simp [bind, Except.bind]
  | ok endpoint =>
    refine iff_of_true ?_ ⟨endpoint, rfl⟩
    cases endpoint with
    | http info => exact ⟨_, rfl⟩
    | tcp config => exact ⟨_, rfl⟩

theorem compileHosts_eq_ok_iff {newConfig result : Option ListenConfiguration}
    {hosts : List (Str × HostSettings)} :
    compileHosts scripts listener newConfig hosts = .ok result ↔
      (∀ host ∈ hosts, Compiles scripts listener host) ∧
        mergeAll newConfig (hosts.filterMap (served scripts listener)) =
          .ok result := by
  induction hosts generalizing newConfig with
  | nil => simp [compileHosts, mergeAll]
  | cons host hosts ih =>
    obtain ⟨hostId, hostSettings⟩ := host
    rw [compileHosts, forall_mem_cons]
    cases parsed : new hostId with
    | error err =>
      have fails : ¬Compiles scripts listener (hostId, hostSettings) := by
        simp [Compiles, parsed]
      simp [fails, bind, Except.bind]
    | ok endpointHost =>
      have compiles : Compiles scripts listener (hostId, hostSettings) ↔
          (endpointHost.getPort = listener →
            ∃ endpoint, compileEndpoint scripts endpointHost hostSettings = .ok endpoint) := by
        simp [Compiles, parsed, isOk_compileHostConfiguration_none]
      by_cases here : endpointHost.getPort = listener
      · cases compiled : compileEndpoint scripts endpointHost hostSettings with
        | error err =>
          simp [compiles, here, compiled, compileHostConfiguration_eq, bind, Except.bind]
        | ok endpoint =>
          have chosen : served scripts listener (hostId, hostSettings) = some endpoint := by
            simp [served, parsed, here, compiled, Except.toOption]
          change (if endpointHost.getPort = listener then _ else _) = Except.ok result ↔ _
          rw [if_pos here, compileHostConfiguration_eq, compiled,
            filterMap_cons, chosen, mergeAll]
          change (endpoint.mergeInto newConfig >>= _) = _ ↔ _
          simp only [bind_eq_ok_iff, ih, compiles, here, compiled,
            Except.ok.injEq, exists_eq', true_implies, true_and]
          tauto
      · have skipped : served scripts listener (hostId, hostSettings) = none := by
          simp [served, parsed, here]
        rw [filterMap_cons, skipped]
        simp [compiles, here, bind, Except.bind, ih]

theorem src_of_served {host : Str × HostSettings} {endpoint : ListenEndpoint}
    (chosen : served scripts listener host = some endpoint) :
    endpoint.hostEndpoint.src = host.1 := by
  unfold served at chosen
  cases parsed : new host.1 with
  | error err => simp [parsed] at chosen
  | ok endpointHost =>
    rw [parsed] at chosen
    dsimp only at chosen
    split at chosen
    · cases compiled : compileEndpoint scripts endpointHost host.2 with
      | error err => simp [compiled, Except.toOption] at chosen
      | ok compiledEndpoint =>
        rw [compiled] at chosen
        cases chosen
        rw [(compileEndpoint_names compiled).1]
        exact src_of_new parsed
    · cases chosen

theorem hostOn_of_compiles {host : Str × HostSettings} (compiles : Compiles scripts listener host) :
    hostOn listener host = (served scripts listener host).map ListenEndpoint.hostKind := by
  obtain ⟨endpointHost, parsed, compiles⟩ := compiles
  unfold hostOn served
  rw [parsed]
  dsimp only
  split
  case isFalse _ => rfl
  case isTrue here =>
    obtain ⟨endpoint, compiled⟩ := isOk_compileHostConfiguration_none.mp (compiles here)
    obtain ⟨named, typed⟩ := compileEndpoint_names compiled
    rw [compiled, typed]
    simp [Except.toOption, ListenEndpoint.hostKind, named]

theorem distinctHosts_served (settings : SettingsCompiled) :
    DistinctHosts (settings.hosts.filterMap (served scripts listener)) := by
  have distinct := pairwise_map.mp settings.distinct
  refine pairwise_map.mpr (distinct.filterMap _ ?_)
  intro first second apart firstEndpoint firstChosen secondEndpoint secondChosen
  rw [src_of_served firstChosen, src_of_served secondChosen]
  exact apart

theorem reload_map (settings : SettingsCompiled) (config : AppConfigurationInner) :
    (reload scripts listener settings config).map (·.1.listenEndpoints listener) =
      compileHosts scripts listener none settings.hosts := by
  have isReload : ∃ errorKey name, reload scripts listener settings config =
      reloadListener scripts listener settings config errorKey name := by
    cases listener with
    | tcp port | unixSocket host => exact ⟨_, _, rfl⟩
  obtain ⟨errorKey, name, same⟩ := isReload
  rw [same, reloadListener]
  cases compileHosts scripts listener none settings.hosts with
  | error err => rfl
  | ok newConfig => simp [bind, Except.bind, pure, Except.pure, Except.map]

/-- If every host compiles on its own, the order of the hosts matters as that
of their endpoints does. -/
theorem orderIndependent_iff_endpointsAgree {settings : SettingsCompiled}
    (config : AppConfigurationInner)
    (compiles : ∀ host ∈ settings.hosts, Compiles scripts listener host) :
    OrderIndependent scripts listener settings config ↔
      EndpointsAgree (settings.hosts.filterMap (served scripts listener)) := by
  have mergedIff : ∀ {hosts : List (Str × HostSettings)}, hosts.Perm settings.hosts → ∀ result,
        compileHosts scripts listener none hosts = .ok result ↔
          mergeAll none (hosts.filterMap (served scripts listener)) =
            .ok result := by
    intro hosts permutation result
    rw [compileHosts_eq_ok_iff]
    exact and_iff_right fun host member =>
      compiles host (permutation.mem_iff.mp member)
  constructor
  · intro independent first second firstPerm secondPerm
    obtain ⟨firstHosts, firstLift, rfl⟩ := exists_perm_filterMap firstPerm
    obtain ⟨secondHosts, secondLift, rfl⟩ := exists_perm_filterMap secondPerm
    have outcome := independent ⟨firstHosts, (firstLift.map _).nodup_iff.mpr settings.distinct⟩
      ⟨secondHosts, (secondLift.map _).nodup_iff.mpr settings.distinct⟩
      firstLift secondLift
    rw [reload_map, reload_map] at outcome
    exact outcome.congr (mergedIff firstLift) (mergedIff secondLift)
  · intro agree first second firstPerm secondPerm
    rw [reload_map, reload_map]
    exact (agree _ _ (firstPerm.filterMap _) (secondPerm.filterMap _)).congr
      (fun result => (mergedIff firstPerm result).symm)
      (fun result => (mergedIff secondPerm result).symm)

/-- Reloading is independent of the order of the hosts exactly if it fails in
every order, because a host does not compile on its own or two hosts need
different transports, or any two hosts of the listener can change places: both
are HTTP hosts, both or none of them are `mcp` hosts, and no server name asks
for both. -/
theorem orderIndependent_iff (scripts : HostScripts) (listener : EndpointPort)
    (settings : SettingsCompiled) (config : AppConfigurationInner) :
    OrderIndependent scripts listener settings config ↔
      (∃ host ∈ settings.hosts, ¬Compiles scripts listener host) ∨
      (∃ first ∈ settings.hosts.filterMap (hostOn listener),
        ∃ second ∈ settings.hosts.filterMap (hostOn listener), HostKind.Conflict first second) ∨
      (settings.hosts.filterMap (hostOn listener)).Pairwise
        HostKind.Coexist := by
  by_cases fails : ∃ host ∈ settings.hosts, ¬Compiles scripts listener host
  · refine iff_of_true ?_ (.inl fails)
    obtain ⟨host, member, fails⟩ := fails
    have never : ∀ order : SettingsCompiled, order.hosts.Perm settings.hosts → ∀ result,
          compileHosts scripts listener none order.hosts ≠ .ok result := by
      intro order permutation result compiled
      exact fails ((compileHosts_eq_ok_iff.mp compiled).1 host (permutation.mem_iff.mpr member))
    intro first second firstPerm secondPerm
    rw [reload_map, reload_map]
    exact .of_failures (never first firstPerm) (never second secondPerm)
  · rw [or_iff_right fails]
    push Not at fails
    have kinds : settings.hosts.filterMap (hostOn listener) =
        (settings.hosts.filterMap (served scripts listener)).map
          ListenEndpoint.hostKind := by
      rw [map_filterMap]
      exact filterMap_congr fun host member =>
        hostOn_of_compiles (fails host member)
    rw [orderIndependent_iff_endpointsAgree config fails,
      endpointsAgree_iff (distinctHosts_served settings), kinds,
      pairwise_map]
    simp only [mem_map, exists_exists_and_eq_and]

end

/-- An `mcp` host can be followed by an `https2` host, but not the other way
round. -/
theorem https2_beside_mcp_depends_on_order :
    ∃ settings : SettingsCompiled, settings.hosts =
        [("a.com:443".toList, bareHost "https2"), ("b.com:443".toList, bareHost "mcp")] ∧
      ¬OrderIndependent bareScripts (.tcp 443) settings {} := by
  refine ⟨⟨_, by decide⟩, rfl, ?_⟩
  intro independent
  have outcome := independent ⟨[("a.com:443".toList, bareHost "https2"),
      ("b.com:443".toList, bareHost "mcp")], by decide⟩
    ⟨[("b.com:443".toList, bareHost "mcp"), ("a.com:443".toList, bareHost "https2")], by decide⟩
    (.refl _) (.swap _ _ _)
  have differ := outcome.succeeds
  exact absurd differ (by decide)

end ReverseProxy
