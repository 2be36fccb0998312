import ReverseProxy.UpstreamPools.H1PoolRents
import ReverseProxy.UpstreamPools.H2Pool

/-!
# Pools that have been drained

A pool for HTTP/2 looks at its shutdown flag again before it takes a new
connection, so that a drained pool gets none.  A pool for HTTP/1 does not: a
call that connects while its pool is drained pushes its entry afterwards.
-/

namespace ReverseProxy

open Library Function SortedVec Run

/-- What a step does to the registered pools. -/
structure Decommissions {π : Type} (shutdown : π → Bool) (size : π → Nat)
    (before after : PoolRegistry π) (drains : Option (Int → Bool)) :
    Prop where
  staysEmpty : ∀ number < before.made,
    shutdown (before.pools number) = true →
      shutdown (after.pools number) = true ∧ size (after.pools number) = size (before.pools number)
  onePerLocation : ∀ locationId first second,
    (locationId, first) ∈ after.registry.items →
      (locationId, second) ∈ after.registry.items → first = second
  drained : ∀ active, drains = some active →
    (∀ item, item ∈ after.registry.items ↔ item ∈ before.registry.items ∧ active item.1 = true) ∧
      ∀ item ∈ before.registry.items, active item.1 = false → shutdown (after.pools item.2) = true
  kept : drains = none → ∀ item ∈ before.registry.items, item ∈ after.registry.items

namespace Decommissions

variable {π : Type} {shutdown : π → Bool} {size : π → Nat} {system after : PoolRegistry π}

theorem of_pool {number : Nat} {pool : π}
    (same : after = { system with
      pools := update system.pools number pool })
    (stays : shutdown (system.pools number) = true →
      shutdown pool = true ∧ size pool = size (system.pools number)) :
    Decommissions shutdown size system after none := by
  subst same
  refine ⟨?_, fun _ _ _ => value_unique, by simp, fun _ _ member =>
    member⟩
  intro other _ isShut
  dsimp only
  by_cases here : other = number
  · subst here
    rw [update_self]
    exact stays isShut
  · rw [update_of_ne here]
    exact ⟨isShut, rfl⟩

theorem of_ensurePool (locationId : Int) (pool : π) :
    Decommissions shutdown size system (system.ensurePool locationId pool).2
      none := by
  refine ⟨?_, fun _ _ _ => value_unique, by simp,
    fun _ _ member => PoolRegistry.mem_ensurePool_of_mem member⟩
  intro number made isShut
  unfold PoolRegistry.ensurePool
  split
  · exact ⟨isShut, rfl⟩
  · dsimp only
    rw [update_of_ne (Nat.ne_of_lt made)]
    exact ⟨isShut, rfl⟩

theorem of_drainUnused {shutDown : π → π} (active : Int → Bool)
    (shuts : ∀ pool, shutdown (shutDown pool) = true)
    (keeps : ∀ pool, size (shutDown pool) = size pool) :
    Decommissions shutdown size system (system.drainUnused shutDown active) (some active) := by
  refine ⟨?_, fun _ _ _ => value_unique, ?_, by simp⟩
  · intro number _ isShut
    simp only [PoolRegistry.drainUnused]
    split
    · exact ⟨shuts _, keeps _⟩
    · exact ⟨isShut, rfl⟩
  · intro other same
    cases same
    refine ⟨PoolRegistry.mem_drainUnused shutDown active, ?_⟩
    intro item member unused
    rw [PoolRegistry.drainUnused_pools shutDown member unused]
    exact shuts _

theorem registered {drains : Option (Int → Bool)} {item : Int × Nat}
    (step : Decommissions shutdown size system after drains)
    (member : item ∈ system.registry.items)
    (inUse : ∀ active, drains = some active → active item.1 = true) :
    item ∈ after.registry.items := by
  cases same : drains with
  | none => exact step.kept same item member
  | some active =>
    exact ((step.drained active same).1 item).mpr ⟨member, inUse active same⟩

end Decommissions

/-! ## Pools for HTTP/1 -/

namespace H1Pool

variable {pool : H1Pool} {counter : Nat} {stage : Option H1Stage}

/-- Only a call that has connected grows the pool, and it has seen the pool in
use. -/
structure Growth (pool : H1Pool) (stage : Option H1Stage)
    (effect : H1Pool × Nat × List H1Stage) : Prop where
  shutdown : effect.1.shutdown = pool.shutdown
  size : effect.1.clients.length = pool.clients.length ∨ stage = some .growing
  inUse : .growing ∈ effect.2.2 → pool.shutdown = false

theorem growth_enter (expired : Bool) : Growth pool stage (pool.enter counter expired) := by
  have quiet : ∀ next stages, .growing ∉ stages →
      Growth pool stage ({ pool with next }, counter, stages) :=
    fun _ _ notGrowing => ⟨rfl, .inl rfl, fun member =>
      absurd member notGrowing⟩
  unfold enter
  dsimp only
  split
  case isTrue _ => exact quiet _ _ (by simp)
  case isFalse inUse =>
    split
    · exact ⟨rfl, .inl rfl, fun _ => Bool.eq_false_iff.mpr inUse⟩
    split
    · exact quiet _ _ (by simp)
    split
    · refine ⟨rfl, .inl (by simp [tryRent, modifyEntry]), ?_⟩
      split <;> simp
    split
    · exact ⟨rfl, .inl rfl, by simp⟩
    · split
      · exact quiet _ _ (by simp)
      · exact quiet _ _ (by simp)

theorem Moves.growth {event : Event} {effect : H1Pool × Nat × List H1Stage}
    (moves : pool.Moves counter stage event effect) :
    Growth pool stage effect := by
  cases moves.kind with
  | enters expired => exact growth_enter expired
  | grows =>
    refine ⟨?_, .inr rfl, ?_⟩
    · unfold grow
      split <;> rfl
    · unfold grow
      split <;> simp
  | same same _ _ notGrowing =>
    exact ⟨same.shutdown, .inl same.size, fun member => absurd member notGrowing⟩
  | unreserves => exact ⟨rfl, .inl rfl, by simp [unreserve]⟩
  | ticks ticks =>
    exact ⟨ticks.shutdown, .inl ticks.size, fun member => absurd member ticks.notGrowing⟩
  | releases same _ _ _ ticks =>
    refine ⟨ticks.shutdown.trans same.shutdown, .inl (ticks.size.trans ?_),
      fun member => absurd member ticks.notGrowing⟩
    simpa [releaseRent, modifyEntry] using same.size

end H1Pool

namespace H1Pools

def Event.drains : Event → Option (Int → Bool)
  | .drained active => some active
  | _ => none

/-- No call is connecting in order to grow a pool that is shut down. -/
def DrainsIdle (system : H1Pools) : Event → Prop
  | .drained active => ∀ task ∈ system.tasks, task.stage = .growing →
      system.givesUp active task.pool = false
  | _ => True

/-- The calls that grow pools have pools in use. -/
def GrowsInUse (system : H1Pools) : Prop := ∀ task ∈ system.tasks, task.pool < system.made ∧
    (task.stage = .growing → (system.pools task.pool).shutdown = false)

theorem GrowsInUse.apply {system : H1Pools} {number : Nat}
    {stage : Option H1Stage} {effect : H1Pool × Nat × List H1Stage}
    {others : List H1Task} (grows : system.GrowsInUse)
    (made : number < system.made)
    (old : ∀ task ∈ others, task ∈ system.tasks)
    (growth : H1Pool.Growth (system.pools number) stage effect) :
    (system.apply number effect others).GrowsInUse := by
  intro task member
  rcases List.mem_append.mp member with new | other
  · obtain ⟨newStage, started, rfl⟩ := List.mem_map.mp new
    refine ⟨made, ?_⟩
    rintro rfl
    simp only [H1Pools.apply, update_self]
    rw [growth.shutdown]
    exact growth.inUse started
  · have before := grows task (old task other)
    refine ⟨before.1, fun growing => ?_⟩
    have inUse := before.2 growing
    simp only [H1Pools.apply]
    by_cases same : task.pool = number
    · rw [same] at inUse ⊢
      rw [update_self, growth.shutdown]
      exact inUse
    · rw [update_of_ne same]
      exact inUse

theorem GrowsInUse.step {system next : H1Pools} {event : Event}
    (grows : system.GrowsInUse) (idle : system.DrainsIdle event)
    (stepped : Step system event next) :
    next.GrowsInUse ∧ Decommissions (·.shutdown) (·.clients.length)
      system.toPoolRegistry next.toPoolRegistry event.drains := by
  cases stepped with
  | started number made moves =>
    refine ⟨grows.apply made (fun _ member => member) moves.growth, ?_⟩
    refine .of_pool rfl fun isShut => ?_
    exact ⟨moves.growth.shutdown.trans isShut, moves.growth.size.resolve_right (by simp)⟩
  | moved number alive moves =>
    rename_i stage event effect before after
    have member : { pool := number, stage } ∈ system.tasks := by
      rw [alive]
      exact List.mem_append_right _ List.mem_cons_self
    have here := grows _ member
    refine ⟨grows.apply here.1 ?_ moves.growth, .of_pool rfl fun isShut => ?_⟩
    · intro task other
      rw [alive]
      rcases List.mem_append.mp other with first | second
      · exact List.mem_append_left _ first
      · exact List.mem_append_right _ (List.mem_cons_of_mem _ second)
    · refine ⟨moves.growth.shutdown.trans isShut, moves.growth.size.resolve_right ?_⟩
      intro growing
      have inUse := here.2 (Option.some.inj growing)
      dsimp only at inUse
      rw [isShut] at inUse
      exact absurd inUse (by decide)
  | poolEnsured locationId params =>
    refine ⟨?_, .of_ensurePool locationId _⟩
    intro task member
    have before := grows task member
    unfold H1Pools.ensurePool PoolRegistry.ensurePool
    dsimp only
    split
    · exact before
    refine ⟨Nat.lt_succ_of_lt before.1, ?_⟩
    dsimp only
    rw [update_of_ne (Nat.ne_of_lt before.1)]
    exact before.2
  | drained active =>
    have drained : Decommissions (fun pool : H1Pool => pool.shutdown)
        (fun pool => pool.clients.length) system.toPoolRegistry
        (system.toPoolRegistry.drainUnused H1Pool.shutDown active)
        (some active) :=
      .of_drainUnused active (fun _ => rfl) (fun _ => rfl)
    refine ⟨?_, drained⟩
    intro task member
    refine ⟨(grows task member).1, fun growing => ?_⟩
    simp only [H1Pools.drainUnused, PoolRegistry.drainUnused]
    rw [if_neg (by simp [idle task member growing])]
    exact (grows task member).2 growing

end H1Pools

/-! ## Pools for HTTP/2 -/

namespace H2Pool

variable {pool : H2Pool}

/-- A pool that is shut down stays as it is. -/
structure Stays (pool after : H2Pool) : Prop where
  shutdown : after.shutdown = pool.shutdown
  size : pool.shutdown = true → after.clients.length = pool.clients.length

theorem Stays.refl (pool : H2Pool) : pool.Stays pool := ⟨rfl, fun _ => rfl⟩

theorem Stays.trans {middle after : H2Pool} (first : pool.Stays middle)
    (second : middle.Stays after) : pool.Stays after := by
  refine ⟨second.shutdown.trans first.shutdown, fun isShut => ?_⟩
  rw [second.size (first.shutdown.trans isShut), first.size isShut]

theorem stays_modifyEntry (pool : H2Pool) (slot : Nat)
    (change : H2Entry → H2Entry) : pool.Stays (pool.modifyEntry slot change) :=
  ⟨rfl, fun _ => by simp [modifyEntry]⟩

variable (around : H2Surroundings)

theorem stays_spawnRevive (pool : H2Pool)
    (slot : Nat) : pool.Stays (pool.spawnRevive around slot).1 := by
  unfold spawnRevive
  split
  · exact .refl pool
  · exact stays_modifyEntry pool slot _

theorem stays_markAndSpawn (pool : H2Pool) (slot : Nat) :
    pool.Stays ((pool.markDead slot).spawnRevive around slot).1 :=
  (stays_modifyEntry pool slot _).trans (stays_spawnRevive around _ slot)

theorem stays_tryPush (pool : H2Pool) : pool.Stays pool.tryPush.1 := by
  unfold tryPush
  split
  case isTrue _ => exact .refl pool
  case isFalse inUse =>
    split
    · exact .refl pool
    · exact ⟨rfl, fun isShut => absurd isShut inUse⟩

theorem stays_topUp (pool : H2Pool) : pool.Stays pool.topUp.1 := by
  unfold topUp
  split
  · exact .refl pool
  · exact ⟨rfl, fun _ => rfl⟩

theorem stays_scan (pool : H2Pool) (slots : List Nat) : pool.Stays (pool.scan around slots).1 := by
  induction slots generalizing pool with
  | nil => exact .refl pool
  | cons slot rest ih =>
    rw [scan]
    split
    · exact .refl pool
    · exact (stays_markAndSpawn around pool slot).trans (ih _)

theorem stays_tick (pool : H2Pool) (slots : List Nat) : pool.Stays (pool.tick around slots).1 := by
  induction slots generalizing pool with
  | nil => exact .refl pool
  | cons slot rest ih =>
    rw [tick]
    split
    · exact .refl pool
    split
    · exact (stays_markAndSpawn around pool slot).trans (ih _)
    · split
      · exact ih pool
      · exact .refl pool

theorem stays_enter (pool : H2Pool) :
    pool.Stays (pool.enter around).1 := by
  unfold enter
  dsimp only
  split
  · exact .refl pool
  split
  · exact .refl pool
  · have scanned := stays_scan around { pool with next := pool.next + 1 }
      (H1Pool.scanOrder (pool.next.toNat % pool.clients.length) pool.clients.length)
    exact ⟨scanned.shutdown, scanned.size⟩

theorem stays_startTick (pool : H2Pool) :
    pool.Stays (pool.startTick around).1 := by
  unfold startTick
  split
  · exact .refl pool
  refine Stays.trans ?_ (stays_tick around _ _)
  unfold spawnTopUp
  split
  · exact .refl pool
  · exact ⟨rfl, fun _ => rfl⟩

theorem Moves.stays {stage : Option H2Stage} {event : Event}
    {effect : H2Pool × List H2Stage} (moves : pool.Moves stage event effect) :
    pool.Stays effect.1 := by
  cases moves with
  | callStarted around => exact stays_enter around pool
  | grown => exact stays_tryPush pool
  | reviveLocked cooling slot free | revivalStarted slot =>
    split
    · exact stays_modifyEntry pool slot _
    · exact .refl pool
  | reviveSucceeded slot | reviveFailed slot | requestFailed slot =>
    exact stays_modifyEntry pool slot _
  | reviveDropped slot stage =>
    dsimp only
    split
    · exact stays_modifyEntry pool slot _
    · exact .refl pool
  | topUpStarted => exact stays_topUp pool
  | toppedUp =>
    split
    · exact (stays_tryPush pool).trans (stays_topUp _)
    · exact ⟨rfl, fun _ => rfl⟩
  | topUpFailed | topUpDropped connecting => exact ⟨rfl, fun _ => rfl⟩
  | ticked around => exact stays_startTick around pool
  | pinged around alive slot rest =>
    unfold H2Pool.pinged
    split
    · exact stays_tick around pool rest
    · exact (stays_markAndSpawn around pool slot).trans (stays_tick around _ rest)
  | revivalLocked cooling slot free =>
    split
    · exact stays_modifyEntry pool slot _
    · exact stays_modifyEntry pool slot _
  | revivalSucceeded slot | revivalFailed slot =>
    exact (stays_modifyEntry pool slot _).trans (stays_modifyEntry _ slot _)
  | revivalDropped slot stage =>
    dsimp only
    split
    · exact (stays_modifyEntry pool slot _).trans (stays_modifyEntry _ slot _)
    · exact stays_modifyEntry pool slot _
  | _ => exact .refl pool

end H2Pool

namespace H2Pools

def Event.drains : Event → Option (Int → Bool)
  | .drained active => some active
  | _ => none

theorem Step.decommissions {system next : H2Pools} {event : Event}
    (stepped : Step system event next) :
    Decommissions (·.shutdown) (·.clients.length) system.toPoolRegistry
      next.toPoolRegistry event.drains := by
  cases stepped with
  | started number made moves | moved number alive moves =>
    exact .of_pool rfl fun isShut =>
      ⟨moves.stays.shutdown.trans isShut, moves.stays.size isShut⟩
  | poolEnsured locationId params => exact .of_ensurePool locationId _
  | drained active =>
    have drained : Decommissions (fun pool : H2Pool => pool.shutdown)
        (fun pool => pool.clients.length) system.toPoolRegistry
        (system.toPoolRegistry.drainUnused H2Pool.shutDown active)
        (some active) :=
      .of_drainUnused active (fun _ => rfl) (fun _ => rfl)
    exact drained

end H2Pools

/-! ## Both kinds -/

/-- In every run in which no pool for HTTP/1 is drained while a call connects
in order to grow it, and in every run of the pools for HTTP/2, a pool that is
shut down gets no further connection, one pool is registered for a location,
and a drain keeps exactly the pools in use.  A pool that was ensured for a
location stays registered while the location is in use. -/
theorem drained_pools_stay_empty (locationId : Int) :
    (∀ {system next : H1Pools} {event : H1Pools.Event},
      Run H1Pools.Step H1Pools.DrainsIdle {} system →
      system.DrainsIdle event → H1Pools.Step system event next →
        Decommissions (·.shutdown) (·.clients.length) system.toPoolRegistry
          next.toPoolRegistry event.drains) ∧
    (∀ {system next : H2Pools} {event : H2Pools.Event},
      Run H2Pools.Step (fun _ _ => True) {} system →
      H2Pools.Step system event next →
        Decommissions (·.shutdown) (·.clients.length) system.toPoolRegistry
          next.toPoolRegistry event.drains) ∧
    (∀ {system last : H1Pools} {params : H1PoolParams},
      Run H1Pools.Step H1Pools.DrainsIdle {} system →
      Run H1Pools.Step (fun state event => state.DrainsIdle event ∧
          ∀ active, event.drains = some active → active locationId = true)
        (system.ensurePool locationId params).2 last →
      last.registry.get locationId = some (system.ensurePool locationId params).1) ∧
    (∀ {system last : H2Pools} {params : H2PoolParams}, Run H2Pools.Step (fun _ event =>
          ∀ active, event.drains = some active → active locationId = true)
        (system.ensurePool locationId params).2 last →
      last.registry.get locationId = some (system.ensurePool locationId params).1) := by
  have ofH1 : ∀ {system : H1Pools},
      Run H1Pools.Step H1Pools.DrainsIdle {} system → system.GrowsInUse := by
    intro system run
    apply run.invariant
    · simp [H1Pools.GrowsInUse]
    · exact fun grows idle stepped => (grows.step idle stepped).1
  refine ⟨?_, ?_, ?_, ?_⟩
  · intro system next event run idle stepped
    exact ((ofH1 run).step idle stepped).2
  · intro system next event _ stepped
    exact stepped.decommissions
  · intro system last params run further
    have whole : last.GrowsInUse ∧ (locationId, (system.ensurePool locationId params).1) ∈
          last.registry.items := by
      apply further.invariant
      · have ensured := (ofH1 run).step (by trivial) (.poolEnsured system locationId params)
        exact ⟨ensured.1, PoolRegistry.mem_ensurePool locationId _⟩
      · rintro state event next ⟨grows, member⟩ ⟨idle, inUse⟩ stepped
        have step := grows.step idle stepped
        exact ⟨step.1, step.2.registered member inUse⟩
    exact get_eq_some_iff.mpr whole.2
  · intro system last params further
    have member : (locationId, (system.ensurePool locationId params).1) ∈
        last.registry.items := by
      apply further.invariant
      · exact PoolRegistry.mem_ensurePool locationId _
      · intro state event next member inUse stepped
        exact stepped.decommissions.registered member inUse
    exact get_eq_some_iff.mpr member

/-- A pool whose client a call holds is drained, and one for HTTP/2. -/
theorem drained_pools_stay_empty_held :
    (∃ system next : H1Pools, Run H1Pools.Step H1Pools.DrainsIdle {} system ∧
      system.tasks = [{ pool := 0, stage := .reusable 0 }] ∧ (system.pools 0).clients.length = 1 ∧
      system.registry.get 7 = some 0 ∧ H1Pools.Step system (.drained fun _ => false) next ∧
      Decommissions (·.shutdown) (·.clients.length) system.toPoolRegistry
        next.toPoolRegistry (some fun _ => false)) ∧
    ∃ system next : H2Pools, system.registry.get 7 = some 0 ∧
      H2Pools.Step system (.drained fun _ => false) next ∧
      Decommissions (·.shutdown) (·.clients.length) system.toPoolRegistry
        next.toPoolRegistry (some fun _ => false) := by
  constructor
  · have made : Run H1Pools.Step H1Pools.DrainsIdle {} _ :=
      step (start _) (by trivial) (.poolEnsured _ 7 {})
    have growing : Run H1Pools.Step (fun state event => state.DrainsIdle event ∧
        ∀ active, event.drains = some active → active 7 = true) _ _ :=
      step (start (({} : H1Pools).ensurePool 7 {}).2) (by exact ⟨trivial, nofun⟩)
        (.started _ 0 (by decide) (.callStarted false))
    have held := step growing (by exact ⟨trivial, nofun⟩)
      (.moved _ 0 (List.nil_append _).symm .grown)
    have run := made.trans (held.mono And.left)
    refine ⟨_, _, run, rfl, rfl, (drained_pools_stay_empty 7).2.2.1 (start _) held,
      .drained _ _, (drained_pools_stay_empty 7).1 run ?_ (.drained _ _)⟩
    intro task member
    cases List.mem_singleton.mp member
    exact nofun
  · exact ⟨_, _, (drained_pools_stay_empty 7).2.2.2 (start _), .drained _ _,
      (drained_pools_stay_empty 7).2.1
        (step (start _) trivial (.poolEnsured {} 7 {})) (.drained _ _)⟩

/-- A call that was connecting when its pool was drained pushes its entry. -/
theorem drained_h1_pool_grows :
    ∃ system next : H1Pools, Run H1Pools.Step (fun _ _ => True) {} system ∧
      H1Pools.Step system (.pool 0 (some .growing) .connected) next ∧
      (system.pools 0).shutdown = true ∧
      (system.pools 0).clients.length = 0 ∧
      (next.pools 0).clients.length = 1 := by
  have made : Run H1Pools.Step (fun _ _ => True) {} _ :=
    step (start _) trivial (.poolEnsured _ 7 {})
  have growing := step made trivial (.started _ 0 (by decide) (.callStarted false))
  have drained := step growing trivial (.drained _ fun _ => false)
  exact ⟨_, _, drained, .moved _ 0 (List.nil_append _).symm .grown,
    by decide, by decide, by decide⟩

end ReverseProxy
