import ReverseProxy.H1RemoteConnection.ConnectionKey
import ReverseProxy.Library.Runs
import ReverseProxy.UpstreamPools.PoolRegistry

/-!
# The pools of locations

The collector keeps the pools of every location of the current configuration.
A location that is compiled again takes over the id of a pool with its id
string.  A pool is made by the first request, so there is none before.
-/

namespace ReverseProxy

open Library Function

inductive PoolFamily where
  | h1
  | h2
deriving DecidableEq, Repr

inductive PoolTransport where
  | tcp
  | tls
  | uds
deriving DecidableEq, Repr

/-- One of the registries `h1_tcp_pools` to `h2_uds_pools`. -/
structure PoolKind where
  family : PoolFamily
  transport : PoolTransport
deriving DecidableEq, Repr

/-- `ProxyPassLocationConfig`, as far as pools are concerned. -/
structure PooledLocation where
  id : Int
  idString : Str
  proxyPassTo : ProxyPassToConfig

/-- The locations of each endpoint. -/
inductive PooledListen where
  | http (endpoints : List (List PooledLocation))
  | mcp (endpoints : List (List PooledLocation))
  | tcp

section

variable [RemoteEndpoints]

/-- Where `create_data_source` looks up the pool of a location.  The sources
without a pool include those over SSH. -/
def createDataSource : ProxyPassToConfig → Outcome (Option PoolKind)
  | .http1 (.gateway _ _) | .mcpHttp1 (.gateway _ _) => .panic
  | .http1 (.overSsh _ _) | .mcpHttp1 (.overSsh _ _) => .ret none
  | .http1 (.direct remoteHost) | .mcpHttp1 (.direct remoteHost) =>
    match getScheme remoteHost with
    | none => .panic
    | some .http => .ret (some ⟨.h1, .tcp⟩)
    | some .https => .ret (some ⟨.h1, .tls⟩)
    | some .ws => .ret (some ⟨.h1, .tcp⟩)
    | some .wss => .ret (some ⟨.h1, .tls⟩)
    | some .other => .ret (some ⟨.h1, .uds⟩)
  | .http2 (.gateway _ _) | .mcpHttp2 (.gateway _ _) => .panic
  | .http2 (.overSsh _ _) | .mcpHttp2 (.overSsh _ _) => .ret none
  | .http2 (.direct remoteHost) | .mcpHttp2 (.direct remoteHost) =>
    match getScheme remoteHost with
    | none => .panic
    | some .http => .ret (some ⟨.h2, .tcp⟩)
    | some .https => .ret (some ⟨.h2, .tls⟩)
    | some .ws => .ret (some ⟨.h1, .tcp⟩)
    | some .wss => .ret (some ⟨.h1, .tls⟩)
    | some .other => .ret (some ⟨.h2, .uds⟩)
  | .unixHttp1 (.direct _) => .ret (some ⟨.h1, .uds⟩)
  | .unixHttp2 (.direct _) => .ret (some ⟨.h2, .uds⟩)
  | .unixHttp1 _ | .unixHttp2 _ => .panic
  | .filesPath _ _ | .static _ | .drop | .dynamicProxy _ => .ret none

def absorbRemoteHost (family : PoolFamily) : MyReverseProxyRemoteEndpoint → Option PoolKind
  | .direct remoteHost =>
    match family, getScheme remoteHost with
    | _, none => none
    | .h1, some .http | .h1, some .ws => some ⟨.h1, .tcp⟩
    | .h1, some .https | .h1, some .wss => some ⟨.h1, .tls⟩
    | .h1, some .other => some ⟨.h1, .uds⟩
    | .h2, some .http => some ⟨.h2, .tcp⟩
    | .h2, some .https => some ⟨.h2, .tls⟩
    | .h2, some .ws => some ⟨.h1, .tcp⟩
    | .h2, some .wss => some ⟨.h1, .tls⟩
    | .h2, some .other => some ⟨.h2, .uds⟩
  | _ => none

/-- The registry `absorb_location` counts a location for. -/
def absorbLocation : ProxyPassToConfig → Option PoolKind
  | .unixHttp1 _ => some ⟨.h1, .uds⟩
  | .unixHttp2 _ => some ⟨.h2, .uds⟩
  | .http1 remoteHost | .mcpHttp1 remoteHost => absorbRemoteHost .h1 remoteHost
  | .http2 remoteHost | .mcpHttp2 remoteHost => absorbRemoteHost .h2 remoteHost
  | _ => none

def PooledListen.locations : PooledListen → List PooledLocation
  | http endpoints | mcp endpoints => endpoints.flatten
  | tcp => []

/-- The ids that are in use in each registry. -/
def collectDesiredKeys (listens : List PooledListen) (kind : PoolKind) (id : Int) : Bool :=
  (listens.flatMap PooledListen.locations).any fun location =>
    absorbLocation location.proxyPassTo = some kind && location.id = id

theorem absorbLocation_of_createDataSource {proxyPassTo : ProxyPassToConfig} {kind : PoolKind}
    (created : createDataSource proxyPassTo = .ret (some kind)) :
    absorbLocation proxyPassTo = some kind := by
  unfold createDataSource at created
  split at created <;> try cases created
  all_goals first
    | rfl
    | split at created <;> cases created <;> simp_all [absorbLocation, absorbRemoteHost]

end

/-! ## Location ids -/

/-- The ids and id strings of the pools of each registry and of every location
compiled so far, and the counter of `get_next_id`. -/
structure LocationIds where
  pools : PoolKind → List (Int × Str) := fun _ => []
  compiled : List (Int × Str) := []
  nextId : Int := 0

namespace LocationIds

def findLocationIdByIdString (ids : LocationIds) (idString : Str) : Option Int :=
  (([⟨.h1, .tcp⟩, ⟨.h1, .tls⟩, ⟨.h1, .uds⟩, ⟨.h2, .tcp⟩, ⟨.h2, .tls⟩, ⟨.h2, .uds⟩].flatMap
    ids.pools).find? (·.2 = idString)).map (·.1)

/-- The id that `ProxyPassLocationConfig::new` gives to a location. -/
def idFor (ids : LocationIds) (idString : Str) : Int :=
  (ids.findLocationIdByIdString idString).getD ids.nextId

inductive Event where
  | compiled (idString : Str)
  | idDrawn
  | ensured (kind : PoolKind) (pool : Int × Str)
  | drained (active : PoolKind → Int → Bool)

/-- The counter is shared with other users. -/
inductive Step : LocationIds → Event → LocationIds → Prop where
  | compiled (ids : LocationIds) (idString : Str) :
      Step ids (.compiled idString)
        { ids with
          compiled := (ids.idFor idString, idString) :: ids.compiled
          nextId := if (ids.findLocationIdByIdString idString).isSome then ids.nextId
            else ids.nextId + 1 }
  | idDrawn (ids : LocationIds) : Step ids .idDrawn { ids with nextId := ids.nextId + 1 }
  | ensured (ids : LocationIds) (kind : PoolKind) {pool : Int × Str}
      (location : pool ∈ ids.compiled) (missing : ∀ other ∈ ids.pools kind, other.1 ≠ pool.1) :
      Step ids (.ensured kind pool)
        { ids with pools := update ids.pools kind (pool :: ids.pools kind) }
  | drained (ids : LocationIds) (active : PoolKind → Int → Bool) :
      Step ids (.drained active)
        { ids with pools := fun kind => (ids.pools kind).filter (active kind ·.1) }

/-- Pools belong to locations, and every id to one id string. -/
structure Sound (ids : LocationIds) : Prop where
  pools : ∀ kind, ∀ pool ∈ ids.pools kind, pool ∈ ids.compiled
  drawn : ∀ location ∈ ids.compiled, location.1 < ids.nextId
  one : ∀ location ∈ ids.compiled, ∀ other ∈ ids.compiled,
    location.1 = other.1 → location.2 = other.2

variable {ids next : LocationIds} {event : Event} {idString : Str}

theorem exists_pool_of_find {id : Int} (found : ids.findLocationIdByIdString idString = some id) :
    ∃ kind, (id, idString) ∈ ids.pools kind := by
  obtain ⟨pool, first, rfl⟩ := Option.map_eq_some_iff.mp found
  obtain ⟨kind, _, member⟩ := List.mem_flatMap.mp (List.mem_of_find?_eq_some first)
  have same : pool.2 = idString := by simpa using List.find?_some first
  exact ⟨kind, same ▸ member⟩

theorem find_ne_none {kind : PoolKind} {pool : Int × Str} (member : pool ∈ ids.pools kind) :
    ids.findLocationIdByIdString pool.2 ≠ none := by
  intro missing
  have all := List.find?_eq_none.mp (Option.map_eq_none_iff.mp missing) pool
    (List.mem_flatMap.mpr ⟨kind, by rcases kind with ⟨_ | _, _ | _ | _⟩ <;> simp, member⟩)
  simp at all

theorem Sound.step (sound : ids.Sound) (stepped : Step ids event next) : next.Sound := by
  obtain ⟨pools, drawn, one⟩ := sound
  cases stepped with
  | compiled idString =>
    cases found : ids.findLocationIdByIdString idString with
    | none => constructor <;> simp only [idFor, found] <;> grind
    | some id =>
      obtain ⟨kind, member⟩ := exists_pool_of_find found
      have known := pools kind _ member
      constructor <;> simp only [idFor, found] <;> grind
  | idDrawn => exact ⟨pools, fun location member => Int.lt_add_one_of_le (drawn _ member).le, one⟩
  | ensured kind location missing =>
    refine ⟨fun other pool member => ?_, drawn, one⟩
    by_cases same : other = kind
    · subst same
      simp only [update_self, List.mem_cons] at member
      rcases member with rfl | member
      · exact location
      · exact pools _ _ member
    · exact pools other _ (update_of_ne same _ ids.pools ▸ member)
  | drained active =>
    exact ⟨fun kind pool member => pools kind pool (List.mem_of_mem_filter member), drawn, one⟩

/-- A drain keeps the pools that the locations of the configuration use.  In
every history a location gets an id that was given before exactly if there is a
pool with its id string, and different id strings never share an id. -/
theorem live_pools_kept [RemoteEndpoints] (run : Run Step (fun _ _ => True) {} ids) :
    (∀ (listens : List PooledListen) (kind : PoolKind),
      ∀ location ∈ listens.flatMap PooledListen.locations,
        createDataSource location.proxyPassTo = .ret (some kind) →
          collectDesiredKeys listens kind location.id = true ∧
            ∀ (π : Type) (system : PoolRegistry π) (shutDown : π → π) (number : Nat),
              (location.id, number) ∈ system.registry.items →
                (location.id, number) ∈
                  (system.drainUnused shutDown (collectDesiredKeys listens kind)).registry.items) ∧
      (∀ idString, (∃ location ∈ ids.compiled, location.1 = ids.idFor idString) ↔
        ∃ kind, ∃ pool ∈ ids.pools kind, pool.2 = idString) ∧
      ∀ location ∈ ids.compiled, ∀ other ∈ ids.compiled,
        location.1 = other.1 → location.2 = other.2 := by
  have sound : ids.Sound := by
    refine run.invariant ?_ fun sound _ stepped => sound.step stepped
    constructor <;> simp
  refine ⟨fun listens kind location member created => ?_, fun idString => ⟨?_, ?_⟩, sound.one⟩
  · have desired : collectDesiredKeys listens kind location.id = true := by
      refine List.any_eq_true.mpr ⟨location, member, ?_⟩
      simp [absorbLocation_of_createDataSource created]
    exact ⟨desired, fun π system shutDown number held =>
      (PoolRegistry.mem_drainUnused shutDown _ _).mpr ⟨held, desired⟩⟩
  · rintro ⟨location, member, same⟩
    cases found : ids.findLocationIdByIdString idString with
    | none =>
      have earlier := sound.drawn location member
      simp [same, idFor, found] at earlier
    | some id =>
      obtain ⟨kind, pool⟩ := exists_pool_of_find found
      exact ⟨kind, _, pool, rfl⟩
  · rintro ⟨kind, pool, member, rfl⟩
    obtain ⟨id, found⟩ := Option.ne_none_iff_exists'.mp (find_ne_none member)
    obtain ⟨kind, member⟩ := exists_pool_of_find found
    exact ⟨_, sound.pools kind _ member, by simp [idFor, found]⟩

theorem live_pools_kept_requested :
    ∃ ids, Run Step (fun _ _ => True) {} ids ∧
      ∃ location ∈ ids.compiled, location.1 = ids.idFor ['a'] := by
  have compiled : Run Step (fun _ _ => True) {} _ :=
    .step (.start _) trivial (.compiled _ ['a'])
  have ensured := Run.step compiled trivial (.ensured _ ⟨.h1, .tcp⟩ (List.mem_singleton_self _)
    (fun _ => nofun))
  let _ : RemoteEndpoints := ⟨fun _ => some .http, fun _ => []⟩
  exact ⟨_, ensured, ((live_pools_kept ensured).2.1 ['a']).mpr
    ⟨⟨.h1, .tcp⟩, _, List.mem_singleton_self _, rfl⟩⟩

/-- A location that is compiled again before its first request gets a new id. -/
theorem recompiled_location_renumbered :
    ∃ ids, Run Step (fun _ _ => True) {} ids ∧ ids.compiled = [(1, ['a']), (0, ['a'])] := by
  have compiled : Run Step (fun _ _ => True) {} _ :=
    .step (.start _) trivial (.compiled _ ['a'])
  exact ⟨_, .step compiled trivial (.compiled _ ['a']), rfl⟩

end LocationIds

end ReverseProxy
