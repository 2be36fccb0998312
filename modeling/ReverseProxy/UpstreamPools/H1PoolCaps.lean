import ReverseProxy.UpstreamPools.H1PoolRents

/-!
# The caps of the disposable clients

The overflow phase reserves a place in both counters before it connects.  A
call that loses the race to grow the pool hands its client out without looking
at them.
-/

namespace ReverseProxy

open Library Run Function

namespace H1Pools

variable {system next : H1Pools} {lost : H1Lost}

/-- A client that was connected for a pool that is full by now finds a place in
both counters. -/
def WithinCaps (system : H1Pools) : Event → Prop
  | .pool number (some .growing) .connected =>
    (system.pools number).clients.length < (system.pools number).params.poolSize.toNat ∨
      system.disposableCounter < maxDisposable ∧ (system.pools number).liveDisposables <
          (system.pools number).params.maxDisposables
  | _ => True

/-- A step keeps or lowers both counters, or raises them below the caps. -/
def Capped (pool : H1Pool) (counter : Nat) (effect : H1Pool × Nat × List H1Stage) : Prop :=
  effect.2.1 ≤ counter ∧ effect.1.liveDisposables ≤ pool.liveDisposables ∨ counter < maxDisposable ∧
      pool.liveDisposables < pool.params.maxDisposables ∧
      effect.2.1 = counter + 1 ∧
      effect.1.liveDisposables = pool.liveDisposables + 1

theorem capped_enter (pool : H1Pool) (counter : Nat) (expired : Bool) :
    Capped pool counter (pool.enter counter expired) := by
  have unchanged : ∀ next stages, Capped pool counter ({ pool with next }, counter, stages) :=
    fun _ _ => .inl ⟨Nat.le_refl _, Nat.le_refl _⟩
  unfold H1Pool.enter
  dsimp only
  split
  · exact unchanged _ _
  split
  · exact unchanged _ _
  split
  · exact unchanged _ _
  split
  · exact .inl ⟨Nat.le_refl _, Nat.le_refl _⟩
  split
  case isTrue places => exact .inr ⟨places.1, places.2, rfl, rfl⟩
  case isFalse _ =>
    split
    · exact unchanged _ _
    · exact unchanged _ _

theorem capped_moves {number : Nat} {stage : Option H1Stage}
    {event : H1Pool.Event} {effect : H1Pool × Nat × List H1Stage}
    (moves : (system.pools number).Moves system.disposableCounter stage event effect)
    (within : system.WithinCaps (.pool number stage event)) :
    Capped (system.pools number) system.disposableCounter effect := by
  cases moves.kind with
  | enters expired => exact capped_enter _ _ expired
  | grows =>
    unfold H1Pool.grow
    split
    case isTrue _ => exact .inl ⟨Nat.le_refl _, Nat.le_refl _⟩
    case isFalse full =>
      have places := within.resolve_left full
      exact .inr ⟨places.1, places.2, rfl, rfl⟩
  | same same => exact .inl ⟨Nat.le_refl _, same.live.le⟩
  | unreserves => exact .inl ⟨Nat.sub_le _ _, Nat.sub_le _ _⟩
  | ticks ticks => exact .inl ⟨Nat.le_refl _, ticks.live.le⟩
  | releases same _ _ _ ticks => exact .inl ⟨Nat.le_refl _, (ticks.live.trans same.live).le⟩

/-- The counters are within the caps. -/
structure CountersCapped (system : H1Pools) : Prop where
  counter : system.disposableCounter ≤ maxDisposable
  live : ∀ number, (system.pools number).liveDisposables ≤
    (system.pools number).params.maxDisposables

theorem CountersCapped.apply {number : Nat} {effect : H1Pool × Nat × List H1Stage}
    (caps : system.CountersCapped) (others : List H1Task)
    (params : effect.1.params = (system.pools number).params)
    (capped : Capped (system.pools number) system.disposableCounter effect) :
    (system.apply number effect others).CountersCapped := by
  have counter := caps.counter
  have live := caps.live number
  constructor
  · rcases capped with ⟨lower, _⟩ | ⟨below, _, raised, _⟩
    · exact lower.trans counter
    · simp only [H1Pools.apply]
      omega
  · intro other
    by_cases same : other = number
    · subst same
      simp only [H1Pools.apply, update_self, params]
      rcases capped with ⟨_, lower⟩ | ⟨_, below, _, raised⟩
      · exact lower.trans live
      · omega
    · simp only [H1Pools.apply, update_of_ne same]
      exact caps.live other

theorem CountersCapped.step {event : Event} (caps : system.CountersCapped)
    (books : system.Books lost) (within : system.WithinCaps event)
    (stepped : Step system event next) : next.CountersCapped := by
  cases stepped with
  | started number made moves =>
    have held := books.held (countP_started number)
    exact caps.apply _ (moves.account held.1 held.2).params (capped_moves moves within)
  | moved number alive moves =>
    have held := books.held (countP_moved alive)
    exact caps.apply _ (moves.account held.1 held.2).params (capped_moves moves within)
  | poolEnsured locationId params =>
    unfold H1Pools.ensurePool PoolRegistry.ensurePool
    dsimp only
    split
    · exact caps
    refine ⟨caps.counter, ?_⟩
    intro number
    dsimp only
    by_cases same : number = system.made
    · simp [same]
    · rw [update_of_ne same]
      exact caps.live number
  | drained active =>
    refine ⟨caps.counter, ?_⟩
    intro number
    simp only [H1Pools.drainUnused, PoolRegistry.drainUnused]
    split
    · exact caps.live number
    · exact caps.live number

/-- In every run in which a client that was connected for a pool that is full
by now finds a place in both counters, the disposable handles stay within both
caps. -/
theorem disposables_capped_of_run (run : Run Step WithinCaps {} system) :
    system.tasks.countP (·.stage.isDisposable) ≤ maxDisposable ∧
      ∀ number, system.tasks.countP (fun task =>
          task.pool = number && task.stage.isDisposable) ≤
        (system.pools number).params.maxDisposables := by
  obtain ⟨⟨lost, books⟩, caps⟩ : (∃ lost, system.Books lost) ∧ system.CountersCapped := by
    apply run.invariant
    · exact ⟨⟨{}, books_start⟩, ⟨by decide, by simp⟩⟩
    · rintro state event next ⟨⟨lost, books⟩, caps⟩ within stepped
      obtain ⟨later, laterBooks, _⟩ := books.step stepped
      exact ⟨⟨later, laterBooks⟩, caps.step books within stepped⟩
  have reserved : ∀ stage : H1Stage, stage.isDisposable = true → stage.reserves = true := by
    intro stage disposable
    cases stage <;> simp_all [H1Stage.isDisposable, H1Stage.reserves]
  constructor
  · have handles : system.tasks.countP (·.stage.isDisposable) ≤ system.tasks.countP (·.reserves) :=
      List.countP_mono_left fun task _ => reserved task.stage
    have balance := books.counter
    have cap := caps.counter
    omega
  · intro number
    have handles : system.tasks.countP (fun task =>
          task.pool = number && task.stage.isDisposable) ≤
        system.tasks.countP (·.reservesOf number) := by
      apply List.countP_mono_left
      intro task _
      simp only [H1Task.reservesOf, Bool.and_eq_true]
      exact And.imp_right (reserved task.stage)
    have balance := books.live number
    have cap := caps.live number
    omega

private def narrowPool : H1Pools :=
  (({} : H1Pools).ensurePool 7 { poolSize := 1, maxDisposables := 1 }).2

/-- Three calls have begun to grow a pool of one entry.  One of them has filled
it, the second has taken the only place for a disposable client, and the third
is connected. -/
private theorem contested :
    ∃ system next, Run Step WithinCaps {} system ∧ system.tasks.countP (fun task =>
        task.pool = 0 && task.stage.isDisposable) = 1 ∧
      Step system (.pool 0 (some .growing) .connected) next ∧
      next.tasks.countP (fun task =>
        task.pool = 0 && task.stage.isDisposable) = 2 ∧
      (next.pools 0).params.maxDisposables = 1 := by
  have made : Run Step WithinCaps {} narrowPool := step (start _)
    (by trivial) (.poolEnsured _ 7 { poolSize := 1, maxDisposables := 1 })
  have first := step made (by trivial) (.started narrowPool 0 (by decide) (.callStarted false))
  have second := step first (by trivial) (.started _ 0 (by decide) (.callStarted false))
  have third := step second (by trivial) (.started _ 0 (by decide) (.callStarted false))
  have grown : Run Step WithinCaps {} _ := step third (by exact Or.inl (by decide))
    (.moved _ 0 (List.nil_append _).symm .grown)
  have beside : ∀ task other last : H1Task,
      [task, other, last] = [task] ++ other :: [last] := fun _ _ _ => rfl
  have besides : ∀ task other last : H1Task,
      [task, other, last] = [task, other] ++ last :: [] := fun _ _ _ => rfl
  have lost : Run Step WithinCaps {} _ := step grown
    (by exact Or.inr (by decide)) (.moved _ 0 (beside _ _ _) .grown)
  exact ⟨_, _, lost, by decide, .moved _ 0 (besides _ _ _) .grown, by decide, rfl⟩

theorem disposables_capped_of_run_contested :
    ∃ system, Run Step WithinCaps {} system ∧ system.tasks.countP (fun task =>
        task.pool = 0 && task.stage.isDisposable) = 1 ∧
      system.tasks.countP (·.stage.isDisposable) ≤ maxDisposable := by
  obtain ⟨system, _, run, one, _⟩ := contested
  exact ⟨system, run, one, (disposables_capped_of_run run).1⟩

/-- A call that loses the race to grow the pool hands out a disposable client
beyond the cap of the pool. -/
theorem lost_race_exceeds_cap :
    ∃ system, Run Step (fun _ _ => True) {} system ∧ system.tasks.countP (fun task =>
        task.pool = 0 && task.stage.isDisposable) = 2 ∧
      (system.pools 0).params.maxDisposables = 1 := by
  obtain ⟨_, next, run, _, stepped, two, cap⟩ := contested
  exact ⟨next, .step (run.mono fun _ => trivial) trivial stepped, two, cap⟩

end H1Pools

end ReverseProxy
