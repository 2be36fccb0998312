import ReverseProxy.UpstreamPools.H1Pool

/-!
# Rents and reservations of the HTTP/1 pools

The stages a step starts hold as many rents and places in the counters as the
stage it ends gave up and the step took.  Only a call that is dropped while it
revives an entry or connects a disposable client leaves some behind.
-/

namespace ReverseProxy

open Library Function Run List

namespace H1Pool

variable {pool : H1Pool}

theorem isRented_modifyEntry (slot : Nat) {change : H1Entry → H1Entry}
    (keeps : ∀ entry, (change entry).rented = entry.rented) (number : Nat) :
    (pool.modifyEntry slot change).isRented number = pool.isRented number := by
  simp only [isRented, modifyEntry, getElem?_modify]
  cases pool.clients[number]? with
  | none => rfl
  | some entry =>
    by_cases same : slot = number
    · simp [same, keeps]
    · simp [same]

theorem isRented_releaseRent (slot number : Nat) :
    (pool.releaseRent slot).isRented number = (pool.isRented number && number ≠ slot) := by
  simp only [isRented, releaseRent, modifyEntry, getElem?_modify]
  cases pool.clients[number]? with
  | none => rfl
  | some entry =>
    by_cases same : slot = number
    · simp [same]
    · simp [same, Ne.symm same]

theorem isRented_tryRent {slot : Nat} (inside : slot < pool.clients.length) (number : Nat) :
    (pool.tryRent slot).isRented number = (pool.isRented number || number = slot) := by
  simp only [isRented, tryRent, modifyEntry, getElem?_modify]
  by_cases same : slot = number
  · subst same
    simp [inside]
  · cases pool.clients[number]? with
    | none => simp [Ne.symm same]
    | some entry => simp [same, Ne.symm same]

/-- Nothing the accounts depend on has changed. -/
structure SameAccounts (pool after : H1Pool) : Prop where
  params : after.params = pool.params
  shutdown : after.shutdown = pool.shutdown
  size : after.clients.length = pool.clients.length
  rented : ∀ slot, after.isRented slot = pool.isRented slot
  live : after.liveDisposables = pool.liveDisposables

theorem SameAccounts.refl (pool : H1Pool) : pool.SameAccounts pool :=
  ⟨rfl, rfl, rfl, fun _ => rfl, rfl⟩

theorem sameAccounts_modifyEntry (pool : H1Pool) (slot : Nat) {change : H1Entry → H1Entry}
    (keeps : ∀ entry, (change entry).rented = entry.rented) :
    pool.SameAccounts (pool.modifyEntry slot change) :=
  ⟨rfl, rfl, by simp [modifyEntry], isRented_modifyEntry slot keeps, rfl⟩

variable {after : H1Pool}

theorem SameAccounts.trans {middle : H1Pool} (first : pool.SameAccounts middle)
    (second : middle.SameAccounts after) :
    pool.SameAccounts after where
  params := second.params.trans first.params
  shutdown := second.shutdown.trans first.shutdown
  size := second.size.trans first.size
  rented slot := (second.rented slot).trans (first.rented slot)
  live := second.live.trans first.live

theorem sameAccounts_markDead (pool : H1Pool) (slot : Nat) :
    pool.SameAccounts (pool.markDead slot) :=
  sameAccounts_modifyEntry pool slot fun _ => rfl

theorem sameAccounts_lockRevive (pool : H1Pool) (slot : Nat) :
    pool.SameAccounts (pool.lockRevive slot) :=
  sameAccounts_modifyEntry pool slot fun _ => rfl

theorem sameAccounts_unlockRevive (pool : H1Pool) (slot : Nat) :
    pool.SameAccounts (pool.unlockRevive slot) :=
  sameAccounts_modifyEntry pool slot fun _ => rfl

theorem sameAccounts_revived (pool : H1Pool) (slot : Nat) : pool.SameAccounts (pool.revived slot) :=
  sameAccounts_modifyEntry pool slot fun _ => rfl

theorem sameAccounts_clearPending (pool : H1Pool) (slot : Nat) :
    pool.SameAccounts (pool.clearPending slot) :=
  sameAccounts_modifyEntry pool slot fun _ => rfl

theorem sameAccounts_spawnRevive (pool : H1Pool) (slot : Nat) :
    pool.SameAccounts (pool.spawnRevive slot).1 := by
  unfold spawnRevive
  split
  · exact .refl pool
  · exact sameAccounts_modifyEntry pool slot fun _ => rfl

/-- Stages without rents and places, that do not grow the pool either. -/
structure Idle (stages : List H1Stage) : Prop where
  rents : ∀ slot, stages.countP (·.rents slot) = 0
  reserves : stages.countP (·.reserves) = 0
  notGrowing : .growing ∉ stages

theorem idle_spawnRevive (pool : H1Pool) (slot : Nat) : Idle (pool.spawnRevive slot).2 := by
  unfold spawnRevive
  split
  · exact ⟨fun _ => rfl, rfl, by simp⟩
  · exact ⟨fun _ => rfl, rfl, by simp⟩

/-- What the part of a tick between two pings does. -/
structure Ticks (pool : H1Pool) (effect : H1Pool × List H1Stage) : Prop where
  params : effect.1.params = pool.params
  shutdown : effect.1.shutdown = pool.shutdown
  size : effect.1.clients.length = pool.clients.length
  live : effect.1.liveDisposables = pool.liveDisposables
  rents : ∀ slot, effect.2.countP (·.rents slot) +
    (pool.isRented slot).toNat = (effect.1.isRented slot).toNat
  reserves : effect.2.countP (·.reserves) = 0
  notGrowing : .growing ∉ effect.2

theorem Ticks.refl (pool : H1Pool) : pool.Ticks (pool, []) :=
  ⟨rfl, rfl, rfl, rfl, by simp, rfl, by simp⟩

variable {effect : H1Pool × List H1Stage}

theorem SameAccounts.ticks (same : pool.SameAccounts after)
    {spawned : List H1Stage} (idle : Idle spawned)
    (ticks : after.Ticks effect) :
    pool.Ticks (effect.1, spawned ++ effect.2) where
  params := ticks.params.trans same.params
  shutdown := ticks.shutdown.trans same.shutdown
  size := ticks.size.trans same.size
  live := ticks.live.trans same.live
  rents slot := by
    rw [countP_append, idle.rents slot, Nat.zero_add, ← same.rented slot]
    exact ticks.rents slot
  reserves := by
    rw [countP_append, idle.reserves, ticks.reserves]
  notGrowing member := (mem_append.mp member).elim idle.notGrowing ticks.notGrowing

/-- A free slot that exists gets rented by the stage that is started for it. -/
theorem rents_tryRent {slot : Nat} (inside : slot < pool.clients.length)
    (free : pool.isRented slot = false) {stage : H1Stage}
    (rents : ∀ number, stage.rents number = decide (slot = number))
    (number : Nat) :
    [stage].countP (·.rents number) + (pool.isRented number).toNat =
      ((pool.tryRent slot).isRented number).toNat := by
  rw [isRented_tryRent inside]
  by_cases same : number = slot
  · subst same
    simp [rents, free]
  · simp [rents, same, Ne.symm same]

theorem ticks_tick (hot : Nat → Bool) (pool : H1Pool) (rest : List Nat) :
    pool.Ticks (pool.tick hot rest) := by
  induction rest generalizing pool with
  | nil => exact .refl pool
  | cons slot rest ih =>
    rw [tick]
    split
    · exact .refl pool
    split
    case isTrue _ => exact ih pool
    case isFalse inside =>
      split
      · exact (sameAccounts_spawnRevive pool slot).ticks (idle_spawnRevive pool slot) (ih _)
      split
      case isTrue _ => exact ih pool
      case isFalse probes =>
        have free : pool.isRented slot = false := by
          simp only [Bool.or_eq_true, not_or] at probes
          exact Bool.eq_false_iff.mpr probes.2
        refine ⟨rfl, rfl, by simp [tryRent, modifyEntry], rfl, ?_, rfl,
          by simp⟩
        exact rents_tryRent (Nat.lt_of_not_le inside) free fun _ => rfl

/-! ## Steps of one pool -/

/-- A call that is dropped loses what it holds. -/
def Event.loses : Event → Nat → Nat
  | .callDropped, held => held
  | _, _ => 0

/-- The accounts of a step. -/
structure Account (pool : H1Pool) (counter : Nat) (stage : Option H1Stage)
    (event : Event) (effect : H1Pool × Nat × List H1Stage) : Prop where
  params : effect.1.params = pool.params
  shutdown : effect.1.shutdown = pool.shutdown
  size : pool.clients.length ≤ pool.params.poolSize.toNat →
    effect.1.clients.length ≤ pool.params.poolSize.toNat
  rents : ∀ slot, effect.2.2.countP (·.rents slot) + (pool.isRented slot).toNat +
        event.loses (stage.toList.countP (·.rents slot)) =
    stage.toList.countP (·.rents slot) + (effect.1.isRented slot).toNat
  counter : effect.2.2.countP (·.reserves) + counter +
      event.loses (stage.toList.countP (·.reserves)) =
    stage.toList.countP (·.reserves) + effect.2.1
  live : effect.2.2.countP (·.reserves) + pool.liveDisposables +
      event.loses (stage.toList.countP (·.reserves)) =
    stage.toList.countP (·.reserves) + effect.1.liveDisposables

variable {counter : Nat} {stage : Option H1Stage} {event : Event}

theorem Account.of_same {stages : List H1Stage} (same : pool.SameAccounts after)
    (rents : ∀ slot, stages.countP (·.rents slot) +
      event.loses (stage.toList.countP (·.rents slot)) = stage.toList.countP (·.rents slot))
    (reserves : stages.countP (·.reserves) + event.loses (stage.toList.countP (·.reserves)) =
        stage.toList.countP (·.reserves)) :
    Account pool counter stage event (after, counter, stages) where
  params := same.params
  shutdown := same.shutdown
  size := fun bounded => same.size ▸ bounded
  rents slot := by
    have balance := rents slot
    dsimp only
    rw [same.rented slot]
    omega
  counter := by
    dsimp only
    omega
  live := by
    dsimp only
    rw [same.live]
    omega

theorem Account.of_ticks (ticks : pool.Ticks effect) (kind : ∀ held, event.loses held = 0) :
    Account pool counter none event (effect.1, counter, effect.2) where
  params := ticks.params
  shutdown := ticks.shutdown
  size := fun bounded => ticks.size ▸ bounded
  rents slot := by
    have balance := ticks.rents slot
    simpa [kind] using balance
  counter := by simp [kind, ticks.reserves]
  live := by simp [kind, ticks.reserves, ticks.live]

theorem Account.of_release {stage : H1Stage} {slot : Nat}
    (same : pool.SameAccounts after) (rented : pool.isRented slot = true)
    (rents : ∀ number, stage.rents number = decide (slot = number))
    (reserves : stage.reserves = false) (kind : ∀ held, event.loses held = 0)
    (ticks : (after.releaseRent slot).Ticks effect) :
    Account pool counter (some stage) event (effect.1, counter, effect.2) where
  params := ticks.params.trans same.params
  shutdown := ticks.shutdown.trans same.shutdown
  size := by
    have size : effect.1.clients.length = pool.clients.length := by
      rw [ticks.size, ← same.size]
      simp [releaseRent, modifyEntry]
    exact fun bounded => size ▸ bounded
  rents number := by
    have balance := ticks.rents number
    rw [isRented_releaseRent, same.rented number] at balance
    by_cases here : number = slot
    · subst here
      simp [rented] at balance
      simp [kind, rents, rented, balance]
      omega
    · simp [here] at balance
      simpa [kind, rents, Ne.symm here] using balance
  counter := by simp [kind, reserves, ticks.reserves]
  live := by
    have live : effect.1.liveDisposables = pool.liveDisposables := ticks.live.trans same.live
    simp [kind, reserves, ticks.reserves, live]

theorem account_unreserve {stage : H1Stage} (reserves : stage.reserves = true)
    (rents : ∀ slot, stage.rents slot = false)
    (kind : ∀ held, event.loses held = 0)
    (reserved : 0 < counter ∧ 0 < pool.liveDisposables) :
    Account pool counter (some stage) event (pool.unreserve counter) where
  params := rfl
  shutdown := rfl
  size := fun bounded => bounded
  rents slot := by simp [unreserve, rents, kind, isRented]
  counter := by
    simp [unreserve, reserves, kind]
    omega
  live := by
    simp [unreserve, reserves, kind]
    omega

theorem account_grow (kind : ∀ held, event.loses held = 0) :
    Account pool counter (some .growing) event (pool.grow counter) := by
  unfold grow
  split
  case isTrue below =>
    refine ⟨rfl, rfl, ?_, ?_, ?_, ?_⟩
    · intro _
      rw [length_append]
      exact below
    · intro slot
      simp only [isRented, getElem?_append]
      rcases Nat.lt_trichotomy slot pool.clients.length with old | new | none
      · simp [kind, H1Stage.rents, old, Nat.ne_of_gt old]
      · subst new
        simp [kind, H1Stage.rents]
      · have noEntry : slot - pool.clients.length ≠ 0 := by omega
        simp [kind, H1Stage.rents, Nat.not_lt_of_gt none, Nat.ne_of_lt none, noEntry]
    · simp [kind, H1Stage.reserves]
    · simp [kind, H1Stage.reserves]
  case isFalse full =>
    refine ⟨rfl, rfl, fun bounded => bounded, ?_, ?_, ?_⟩
    · intro slot
      simp [kind, H1Stage.rents, isRented]
    all_goals
      simp [kind, H1Stage.reserves]
      omega

theorem mem_scanOrder {start len slot : Nat}
    (member : slot ∈ scanOrder start len) : slot < len := by
  unfold scanOrder at member
  obtain ⟨offset, inside, rfl⟩ := mem_map.mp member
  exact Nat.mod_lt _ (Nat.zero_lt_of_lt (mem_range.mp inside))

theorem account_enter {expired : Bool} {stage : Option H1Stage}
    (rents : ∀ slot, stage.toList.countP (·.rents slot) = 0)
    (reserves : stage.toList.countP (·.reserves) = 0)
    (kind : ∀ held, event.loses held = 0) :
    Account pool counter stage event (pool.enter counter expired) := by
  have quiet : ∀ stages : List H1Stage, (∀ slot, stages.countP (·.rents slot) = 0) →
      stages.countP (·.reserves) = 0 → ∀ next,
        Account pool counter stage event ({ pool with next }, counter, stages) := by
    intro stages noRents noReserves next
    refine .of_same ⟨rfl, rfl, rfl, fun _ => rfl, rfl⟩ ?_ ?_
    · simp [kind, rents, noRents]
    · simp [kind, reserves, noReserves]
  unfold enter
  dsimp only
  split
  · exact quiet [] (by simp) rfl _
  split
  · exact quiet [.growing] (by simp [H1Stage.rents]) rfl _
  split
  · exact quiet [] (by simp) rfl _
  split
  case h_1 slot found =>
    have inside := mem_scanOrder (mem_of_find?_eq_some found)
    have free : pool.isRented slot = false := by
      have notRented := find?_some found
      rw [Bool.not_eq_true'] at notRented
      exact notRented
    refine ⟨rfl, rfl, ?_, ?_, ?_, ?_⟩
    · simp [tryRent, modifyEntry]
    · intro number
      rw [rents number, kind, Nat.zero_add, Nat.add_zero]
      refine rents_tryRent inside free ?_ number
      intro other
      split <;> rfl
    · rw [reserves, kind]
      split <;> simp [H1Stage.reserves]
    · rw [reserves, kind]
      split <;> simp [H1Stage.reserves, tryRent, modifyEntry]
  case h_2 _ =>
    split
    · refine ⟨rfl, rfl, fun bounded => bounded, ?_, ?_, ?_⟩
      · intro slot
        rw [rents slot, kind]
        simp [H1Stage.rents, isRented]
      all_goals
        rw [reserves, kind]
        simp [H1Stage.reserves]
        omega
    · split
      · exact quiet [] (by simp) rfl _
      · exact quiet [.sleeping] (by simp [H1Stage.rents]) rfl _

/-- What a step can do to rents and places. -/
inductive StepKind (pool : H1Pool) (counter : Nat) :
    Option H1Stage → Event → H1Pool × Nat × List H1Stage → Prop where
  | enters {stage : Option H1Stage} {event : Event} (expired : Bool)
      (rents : ∀ slot, stage.toList.countP (·.rents slot) = 0)
      (reserves : stage.toList.countP (·.reserves) = 0) (kind : ∀ held, event.loses held = 0) :
      StepKind pool counter stage event (pool.enter counter expired)
  | grows : StepKind pool counter (some .growing) .connected (pool.grow counter)
  | same {stage : Option H1Stage} {event : Event} {after : H1Pool} {stages : List H1Stage}
      (same : pool.SameAccounts after)
      (rents : ∀ slot, stages.countP (·.rents slot) +
        event.loses (stage.toList.countP (·.rents slot)) = stage.toList.countP (·.rents slot))
      (reserves : stages.countP (·.reserves) + event.loses (stage.toList.countP (·.reserves)) =
        stage.toList.countP (·.reserves))
      (notGrowing : .growing ∉ stages) : StepKind pool counter stage event (after, counter, stages)
  | unreserves {stage : H1Stage} {event : Event} (reserves : stage.reserves = true)
      (rents : ∀ slot, stage.rents slot = false) (kind : ∀ held, event.loses held = 0) :
      StepKind pool counter (some stage) event (pool.unreserve counter)
  | ticks {event : Event} {effect : H1Pool × List H1Stage} (ticks : pool.Ticks effect)
      (kind : ∀ held, event.loses held = 0) :
      StepKind pool counter none event (effect.1, counter, effect.2)
  | releases {stage : H1Stage} {event : Event} {after : H1Pool} {effect : H1Pool × List H1Stage}
      {slot : Nat} (same : pool.SameAccounts after)
      (rents : ∀ number, stage.rents number = decide (slot = number))
      (reserves : stage.reserves = false) (kind : ∀ held, event.loses held = 0)
      (ticks : (after.releaseRent slot).Ticks effect) :
      StepKind pool counter (some stage) event (effect.1, counter, effect.2)

theorem Moves.kind {effect : H1Pool × Nat × List H1Stage}
    (moves : pool.Moves counter stage event effect) : StepKind pool counter stage event effect := by
  cases moves with
  | callStarted expired => exact .enters expired (by simp) rfl fun _ => rfl
  | callResumed expired => exact .enters expired (by simp [H1Stage.rents]) rfl fun _ => rfl
  | grown => exact .grows
  | growFailed | overflowed | growDropped | sleepDropped | overflowDropped =>
    exact .same (.refl _) (fun _ => rfl) rfl (by simp)
  | overflowFailed | disposableDropped => exact .unreserves rfl (fun _ => rfl) fun _ => rfl
  | reviveLocked slot free =>
    split
    · exact .same (sameAccounts_lockRevive pool slot) (fun _ => rfl) rfl (by simp)
    · exact .same (.refl _) (fun _ => rfl) rfl (by simp)
  | reviveSucceeded slot =>
    exact .same (sameAccounts_revived pool slot) (fun _ => rfl) rfl (by simp)
  | reviveFailed slot =>
    exact .releases (sameAccounts_unlockRevive pool slot) (fun _ => rfl) rfl (fun _ => rfl)
      (.refl _)
  | lockDropped slot => exact .same (.refl _) (fun _ => Nat.zero_add _) rfl (by simp)
  | reviveDropped slot =>
    exact .same (sameAccounts_unlockRevive pool slot) (fun _ => Nat.zero_add _) rfl (by simp)
  | requestFailed slot =>
    exact .same (sameAccounts_markDead pool slot) (fun _ => rfl) rfl (by simp)
  | reusableDropped slot | tickDropped slot rest =>
    exact .releases (.refl _) (fun _ => rfl) rfl (fun _ => rfl) (.refl _)
  | ticked hot => exact .ticks (ticks_tick hot pool _) fun _ => rfl
  | pinged hot alive slot rest =>
    unfold H1Pool.pinged
    split
    · exact .releases (.refl _) (fun _ => rfl) rfl (fun _ => rfl) (ticks_tick hot _ rest)
    · exact .releases (sameAccounts_markDead pool slot) (fun _ => rfl) rfl (fun _ => rfl)
        ((sameAccounts_spawnRevive _ slot).ticks (idle_spawnRevive _ slot) (ticks_tick hot _ rest))
  | revivalStarted slot =>
    split
    · exact .same (sameAccounts_clearPending pool slot) (fun _ => rfl) rfl (by simp)
    · exact .same (.refl _) (fun _ => rfl) rfl (by simp)
  | revivalLocked slot free =>
    split
    · exact .same (sameAccounts_lockRevive pool slot) (fun _ => rfl) rfl (by simp)
    · exact .same (sameAccounts_clearPending pool slot) (fun _ => rfl) rfl (by simp)
  | revivalSucceeded slot =>
    exact .same ((sameAccounts_revived pool slot).trans (sameAccounts_clearPending _ slot))
      (fun _ => rfl) rfl (by simp)
  | revivalFailed slot =>
    exact .same ((sameAccounts_unlockRevive pool slot).trans (sameAccounts_clearPending _ slot))
      (fun _ => rfl) rfl (by simp)
  | revivalDropped slot stage =>
    refine .same (SameAccounts.trans ?_ (sameAccounts_clearPending _ slot)) (fun _ => rfl) rfl
      (by simp)
    split
    · exact sameAccounts_unlockRevive pool slot
    · exact .refl pool

/-- Every step keeps accounts, if the stage it starts from holds what it
claims. -/
theorem Moves.account {effect : H1Pool × Nat × List H1Stage}
    (moves : pool.Moves counter stage event effect)
    (rented : ∀ slot, 0 < stage.toList.countP (·.rents slot) → pool.isRented slot = true)
    (reserved : 0 < stage.toList.countP (·.reserves) → 0 < counter ∧ 0 < pool.liveDisposables) :
    Account pool counter stage event effect := by
  cases moves.kind with
  | enters expired rents reserves kind => exact account_enter rents reserves kind
  | grows => exact account_grow fun _ => rfl
  | same same rents reserves _ => exact .of_same same rents reserves
  | unreserves reserves rents kind =>
    exact account_unreserve reserves rents kind (reserved (by simp [reserves]))
  | ticks ticks kind => exact .of_ticks ticks kind
  | @releases _ _ _ _ slot same rents reserves kind ticks =>
    exact .of_release same (rented slot (by simp [rents])) rents reserves kind ticks

end H1Pool

/-! ## All pools -/

/-- What dropped calls have left behind: rents of entries, and places in the
global counter and in those of the pools. -/
structure H1Lost where
  rents : Nat → Nat → Nat := fun _ _ => 0
  counter : Nat := 0
  live : Nat → Nat := fun _ => 0

/-- The losses of a step of one pool. -/
def H1Lost.add (lost : H1Lost) (number : Nat) (stage : Option H1Stage)
    (event : H1Pool.Event) : H1Lost where
  rents := fun other slot => lost.rents other slot +
    if other = number then event.loses (stage.toList.countP (·.rents slot))
    else 0
  counter := lost.counter + event.loses (stage.toList.countP (·.reserves))
  live := fun other => lost.live other +
    if other = number then event.loses (stage.toList.countP (·.reserves))
    else 0

namespace H1Task

def rents (number slot : Nat) (task : H1Task) : Bool := task.pool = number && task.stage.rents slot

def reserves (task : H1Task) : Bool := task.stage.reserves

def reservesOf (number : Nat) (task : H1Task) : Bool := task.pool = number && task.stage.reserves

end H1Task

namespace H1Pools

variable {system next : H1Pools} {lost : H1Lost}

/-- The books of all pools: what is held and what is lost add up to the flags
and the counters. -/
structure Books (system : H1Pools) (lost : H1Lost) : Prop where
  tasksMade : ∀ task ∈ system.tasks, task.pool < system.made
  lostMade : ∀ number, system.made ≤ number →
    lost.live number = 0 ∧ ∀ slot, lost.rents number slot = 0
  size : ∀ number, (system.pools number).clients.length ≤
    (system.pools number).params.poolSize.toNat
  rents : ∀ number slot,
    system.tasks.countP (·.rents number slot) + lost.rents number slot =
      ((system.pools number).isRented slot).toNat
  counter : system.tasks.countP (·.reserves) + lost.counter = system.disposableCounter
  live : ∀ number,
    system.tasks.countP (·.reservesOf number) + lost.live number =
      (system.pools number).liveDisposables

section Applying

variable {number : Nat} {stage : Option H1Stage} {others : List H1Task}

theorem Books.held (books : system.Books lost)
    (tasks : ∀ predicate : H1Task → Bool, system.tasks.countP predicate =
      stage.toList.countP (fun stage => predicate { pool := number, stage }) +
        others.countP predicate) :
    (∀ slot, 0 < stage.toList.countP (·.rents slot) → (system.pools number).isRented slot = true) ∧
      (0 < stage.toList.countP (·.reserves) →
        0 < system.disposableCounter ∧ 0 < (system.pools number).liveDisposables) := by
  constructor
  · intro slot holds
    have balance := books.rents number slot
    rw [tasks] at balance
    simp only [H1Task.rents, decide_true, Bool.true_and] at balance
    cases rented : (system.pools number).isRented slot with
    | true => rfl
    | false =>
      rw [rented] at balance
      simp only [Bool.toNat_false] at balance
      omega
  · intro holds
    have global := books.counter
    have live := books.live number
    rw [tasks] at global live
    simp only [H1Task.reserves] at global
    simp only [H1Task.reservesOf, decide_true, Bool.true_and] at live
    omega

theorem countP_apply_self (effect : H1Pool × Nat × List H1Stage) (predicate : H1Task → Bool) :
    (system.apply number effect others).tasks.countP predicate =
      effect.2.2.countP (fun stage => predicate { pool := number, stage }) +
        others.countP predicate := by
  simp [apply, countP_append, countP_map, comp_def]

theorem Books.apply (books : system.Books lost) {event : H1Pool.Event}
    {effect : H1Pool × Nat × List H1Stage} (made : number < system.made)
    (othersMade : ∀ task ∈ others, task.pool < system.made)
    (tasks : ∀ predicate : H1Task → Bool, system.tasks.countP predicate =
      stage.toList.countP (fun stage => predicate { pool := number, stage }) +
        others.countP predicate)
    (account : H1Pool.Account (system.pools number) system.disposableCounter stage event effect) :
    (system.apply number effect others).Books (lost.add number stage event) where
  tasksMade := by
    intro task member
    rcases mem_append.mp member with new | old
    · obtain ⟨_, _, rfl⟩ := mem_map.mp new
      exact made
    · exact othersMade task old
  lostMade := by
    intro other notMade
    have different : other ≠ number := by
      rintro rfl
      exact absurd made (Nat.not_lt.mpr notMade)
    have before := books.lostMade other notMade
    simpa [H1Lost.add, different] using before
  size := by
    intro other
    by_cases same : other = number
    · subst same
      simp only [H1Pools.apply, update_self, account.params]
      exact account.size (books.size other)
    · simp only [H1Pools.apply, update_of_ne same]
      exact books.size other
  rents := by
    intro other slot
    have before := books.rents other slot
    rw [tasks] at before
    rw [countP_apply_self]
    by_cases same : other = number
    · subst same
      have step := account.rents slot
      simp only [H1Task.rents, decide_true, Bool.true_and] at before ⊢
      simp only [H1Pools.apply, update_self, H1Lost.add, if_true]
      omega
    have different : number ≠ other := Ne.symm same
    simp only [H1Task.rents, different, decide_false, Bool.false_and,
      countP_false] at before ⊢
    simp only [H1Pools.apply, update_of_ne same, H1Lost.add, if_neg same]
    simpa using before
  counter := by
    have before := books.counter
    have step := account.counter
    rw [tasks] at before
    rw [countP_apply_self]
    simp only [H1Task.reserves] at before ⊢
    simp only [H1Pools.apply, H1Lost.add]
    omega
  live := by
    intro other
    have before := books.live other
    rw [tasks] at before
    rw [countP_apply_self]
    by_cases same : other = number
    · subst same
      have step := account.live
      simp only [H1Task.reservesOf, decide_true, Bool.true_and] at before ⊢
      simp only [H1Pools.apply, update_self, H1Lost.add, if_true]
      omega
    have different : number ≠ other := Ne.symm same
    simp only [H1Task.reservesOf, different, decide_false, Bool.false_and,
      countP_false] at before ⊢
    simp only [H1Pools.apply, update_of_ne same, H1Lost.add, if_neg same]
    simpa using before

end Applying

theorem countP_started (number : Nat) (predicate : H1Task → Bool) :
    system.tasks.countP predicate =
      (none : Option H1Stage).toList.countP (fun stage => predicate { pool := number, stage }) +
        system.tasks.countP predicate := by
  simp

theorem countP_moved {number : Nat} {stage : H1Stage} {before after : List H1Task}
    (alive : system.tasks = before ++ { pool := number, stage } :: after)
    (predicate : H1Task → Bool) :
    system.tasks.countP predicate =
      (some stage).toList.countP (fun stage => predicate { pool := number, stage }) +
        (before ++ after).countP predicate := by
  rw [alive]
  simp only [Option.toList_some, countP_append, countP_cons, countP_nil]
  omega

theorem Books.ensurePool (books : system.Books lost) (locationId : Int) (params : H1PoolParams) :
    (system.ensurePool locationId params).2.Books lost := by
  unfold H1Pools.ensurePool PoolRegistry.ensurePool
  dsimp only
  split
  · exact books
  have noTask : ∀ predicate : H1Task → Bool,
      (∀ task, predicate task = true → task.pool = system.made) →
        system.tasks.countP predicate = 0 := by
    intro predicate ofNew
    rw [countP_eq_zero]
    intro task member holds
    have made := books.tasksMade task member
    rw [ofNew task holds] at made
    exact absurd made (Nat.lt_irrefl _)
  have nothingLost := books.lostMade system.made (Nat.le_refl _)
  refine ⟨?_, ?_, ?_, ?_, books.counter, ?_⟩
  · intro task member
    exact Nat.lt_succ_of_lt (books.tasksMade task member)
  · intro number notMade
    exact books.lostMade number (Nat.le_of_succ_le notMade)
  · intro number
    dsimp only
    by_cases same : number = system.made
    · simp [same]
    · rw [update_of_ne same]
      exact books.size number
  · intro number slot
    dsimp only
    by_cases same : number = system.made
    · subst same
      rw [update_self, nothingLost.2 slot, noTask _ ?_]
      · rfl
      · intro task rents
        simp only [H1Task.rents, Bool.and_eq_true, decide_eq_true_eq]
          at rents
        exact rents.1
    · rw [update_of_ne same]
      exact books.rents number slot
  · intro number
    dsimp only
    by_cases same : number = system.made
    · subst same
      rw [update_self, nothingLost.1, noTask _ ?_]
      · intro task reserves
        simp only [H1Task.reservesOf, Bool.and_eq_true, decide_eq_true_eq]
          at reserves
        exact reserves.1
    · rw [update_of_ne same]
      exact books.live number

theorem Books.drainUnused (books : system.Books lost) (active : Int → Bool) :
    (system.drainUnused active).Books lost := by
  have same : ∀ number,
      ((system.drainUnused active).pools number).clients = (system.pools number).clients ∧
        ((system.drainUnused active).pools number).params = (system.pools number).params ∧
        ((system.drainUnused active).pools number).liveDisposables =
          (system.pools number).liveDisposables := by
    intro number
    simp only [H1Pools.drainUnused, PoolRegistry.drainUnused]
    split
    · exact ⟨rfl, rfl, rfl⟩
    · exact ⟨rfl, rfl, rfl⟩
  refine ⟨books.tasksMade, books.lostMade, ?_, ?_, books.counter, ?_⟩
  · intro number
    rw [(same number).1, (same number).2.1]
    exact books.size number
  · intro number slot
    rw [H1Pool.isRented, (same number).1]
    exact books.rents number slot
  · intro number
    rw [(same number).2.2]
    exact books.live number

/-- A call that is dropped while it revives an entry or connects a disposable
client. -/
def Event.Loses : Event → Prop
  | .pool _ (some (.reviving _ _)) .callDropped => True
  | .pool _ (some .overflowing) .callDropped => True
  | _ => False

theorem add_eq_self_of_keeps {pool : H1Pool} {counter number : Nat}
    {stage : Option H1Stage} {event : H1Pool.Event}
    {effect : H1Pool × Nat × List H1Stage} (lost : H1Lost)
    (moves : pool.Moves counter stage event effect)
    (keeps : ¬(Event.pool number stage event).Loses) :
    lost.add number stage event = lost := by
  have nothing : (∀ slot, event.loses (stage.toList.countP (·.rents slot)) = 0) ∧
      event.loses (stage.toList.countP (·.reserves)) = 0 := by
    cases moves <;> first
      | exact ⟨fun _ => rfl, rfl⟩
      | exact absurd trivial keeps
  simp [H1Lost.add, nothing.1, nothing.2]

theorem Books.step {event : Event} (books : system.Books lost) (stepped : Step system event next) :
    ∃ later, next.Books later ∧ (¬event.Loses → later = lost) := by
  cases stepped with
  | started number made moves =>
    have held := books.held (countP_started number)
    exact ⟨_, books.apply made books.tasksMade (countP_started number)
      (moves.account held.1 held.2), add_eq_self_of_keeps lost moves⟩
  | moved number alive moves =>
    have held := books.held (countP_moved alive)
    refine ⟨_, books.apply ?_ ?_ (countP_moved alive)
      (moves.account held.1 held.2), add_eq_self_of_keeps lost moves⟩
    · apply books.tasksMade { pool := _, stage := _ }
      rw [alive]
      exact mem_append_right _ mem_cons_self
    · intro task member
      apply books.tasksMade task
      rw [alive]
      rcases mem_append.mp member with first | second
      · exact mem_append_left _ first
      · exact mem_append_right _ (mem_cons_of_mem _ second)
  | poolEnsured locationId params =>
    exact ⟨lost, books.ensurePool locationId params, fun _ => rfl⟩
  | drained active => exact ⟨lost, books.drainUnused active, fun _ => rfl⟩

theorem books_start : ({} : H1Pools).Books {} := by
  refine ⟨by simp, by simp, by simp, ?_, rfl, ?_⟩
  · simp [H1Pool.isRented]
  · simp

/-- In every run, with calls, ticks and revivals dropped at any await, an entry
is used by at most one request or probe, and no pool grows beyond its size. -/
theorem exclusive_and_bounded (run : Run Step (fun _ _ => True) {} system) (number : Nat) :
    (∀ slot, system.tasks.countP (fun task =>
        task.pool = number && task.stage.uses slot) ≤ 1) ∧
      (system.pools number).clients.length ≤ (system.pools number).params.poolSize.toNat := by
  obtain ⟨lost, books⟩ : ∃ lost, system.Books lost := by
    apply run.invariant
    · exact ⟨{}, books_start⟩
    · rintro state event next ⟨lost, books⟩ _ stepped
      obtain ⟨later, laterBooks, _⟩ := books.step stepped
      exact ⟨later, laterBooks⟩
  refine ⟨?_, books.size number⟩
  intro slot
  have users : system.tasks.countP (fun task =>
        task.pool = number && task.stage.uses slot) ≤
      system.tasks.countP (·.rents number slot) := by
    apply countP_mono_left
    intro task _ uses
    obtain ⟨pool, stage⟩ := task
    cases stage <;> simp_all [H1Stage.uses, H1Task.rents, H1Stage.rents]
  have balance := books.rents number slot
  have flag := Bool.toNat_le ((system.pools number).isRented slot)
  omega

/-- In every run in which no call is dropped while it revives an entry or
connects a disposable client, an entry is rented as often as it is held, and
the counters count the disposable handles and the reservations. -/
theorem nothing_leaks_of_run
    (run : Run Step (fun _ event => ¬event.Loses) {} system) (number : Nat) :
    (∀ slot, system.tasks.countP (fun task =>
        task.pool = number && task.stage.rents slot) =
          ((system.pools number).isRented slot).toNat) ∧
      system.disposableCounter = system.tasks.countP (·.stage.reserves) ∧
      (system.pools number).liveDisposables = system.tasks.countP (fun task =>
          task.pool = number && task.stage.reserves) := by
  have books : system.Books {} := by
    apply run.invariant
    · exact books_start
    · intro state event next books keeps stepped
      obtain ⟨later, laterBooks, same⟩ := books.step stepped
      rw [← same keeps]
      exact laterBooks
  exact ⟨books.rents number, books.counter.symm, (books.live number).symm⟩

private def onePool : H1Pools := (({} : H1Pools).ensurePool 7 { poolSize := 1 }).2

/-- A call has filled the pool of one entry and holds its handle. -/
private def oneHandle : H1Pools :=
  let growing := onePool.apply 0 ((onePool.pools 0).enter 0 false) []
  growing.apply 0 ((growing.pools 0).grow 0) []

private theorem run_oneHandle : Run Step (fun _ event => ¬event.Loses) {} oneHandle := by
  have made : Run Step (fun _ event => ¬event.Loses) {} onePool :=
    step (start _) id (.poolEnsured _ 7 { poolSize := 1 })
  have growing := step made id (.started onePool 0 (by decide) (.callStarted false))
  have alive : (onePool.apply 0 ((onePool.pools 0).enter 0 false) []).tasks =
      [] ++ { pool := 0, stage := .growing } :: [] := rfl
  exact step growing id (.moved _ 0 alive .grown)

/-- A second call finds the entry rented and gets a disposable client. -/
private def twoHandles : H1Pools :=
  let overflowing := oneHandle.apply 0 ((oneHandle.pools 0).enter 0 false) oneHandle.tasks
  overflowing.apply 0 (overflowing.pools 0, overflowing.disposableCounter, [.disposable])
    oneHandle.tasks

private theorem run_twoHandles : Run Step (fun _ event => ¬event.Loses) {} twoHandles := by
  have overflowing := step run_oneHandle id (.started oneHandle 0 (by decide) (.callStarted false))
  have alive : (oneHandle.apply 0 ((oneHandle.pools 0).enter 0 false) oneHandle.tasks).tasks =
      [] ++ { pool := 0, stage := .overflowing } :: oneHandle.tasks := rfl
  have connected := Step.moved _ 0 alive .overflowed
  exact step overflowing id connected

theorem exclusive_and_bounded_twoHandles :
    Run Step (fun _ _ => True) {} twoHandles ∧
      twoHandles.tasks.map (·.stage) = [.disposable, .reusable 0] ∧
      twoHandles.tasks.countP (fun task => task.pool = 0 && task.stage.uses 0) ≤ 1 := by
  have run : Run Step (fun _ _ => True) {} twoHandles := run_twoHandles.mono fun _ => trivial
  exact ⟨run, rfl, (exclusive_and_bounded run 0).1 0⟩

theorem nothing_leaks_of_run_twoHandles :
    Run Step (fun _ event => ¬event.Loses) {} twoHandles ∧ twoHandles.disposableCounter = 1 ∧
      twoHandles.disposableCounter = twoHandles.tasks.countP (·.stage.reserves) :=
  ⟨run_twoHandles, rfl, (nothing_leaks_of_run run_twoHandles 0).2.1⟩

/-- A call that is dropped while it revives an entry leaves the entry rented
for ever. -/
theorem dropped_revive_leaks_rent :
    ∃ system, Run Step (fun _ _ => True) {} system ∧
      (system.pools 0).isRented 0 = true ∧ system.tasks = [] := by
  have handle : oneHandle.tasks = [] ++ { pool := 0, stage := .reusable 0 } :: [] := rfl
  have failed := step (run_oneHandle.mono fun _ => trivial)
    trivial (.moved oneHandle 0 handle (.requestFailed 0))
  have stillHandle : (oneHandle.apply 0
      ((oneHandle.pools 0).markDead 0, 0, [.reusable 0]) []).tasks =
        [] ++ { pool := 0, stage := .reusable 0 } :: [] := rfl
  have released := step failed trivial (.moved _ 0 stillHandle (.reusableDropped 0))
  have reviving := step released trivial (.started _ 0 (by decide) (.callStarted false))
  have dropped := step reviving trivial (.moved _ 0 (nil_append _).symm (.lockDropped 0))
  exact ⟨_, dropped, by decide, rfl⟩

end H1Pools

end ReverseProxy
