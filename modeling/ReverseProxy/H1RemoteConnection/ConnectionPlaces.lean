import ReverseProxy.H1RemoteConnection.PoolHolder

/-!
# Where upstream connections are

A connection is with a worker or in the idle list of a key.  Every change of
the pool takes a connection out, moves one between the two or puts a new one
with a worker, so no connection is ever in two places.
-/

namespace ReverseProxy

open Library Function Numbered

inductive Place (ω : Type) where
  | worker (worker : ω)
  | idle (key : Str) (index : Nat)

/-- The connection in a place, by its id. -/
def PoolState.content {ω : Type} (state : PoolState ω) :
    Place ω → Option Nat
  | .worker worker => (state.workers worker).owned.map (·.connectionId)
  | .idle key index =>
    (state.holder.pools key)[index]?.map (·.connectionId)

namespace PoolState

variable {ω : Type} [DecidableEq ω] {state : PoolState ω}

/-- A worker in another phase changes its own place only. -/
theorem content_worker_ne {worker : ω} {next : WorkerState}
    {place : Place ω} (other : place ≠ .worker worker) :
    PoolState.content
        { state with
          workers := update state.workers worker next } place =
      state.content place := by
  cases place with
  | idle key index => rfl
  | worker second =>
    have different : second ≠ worker := fun same =>
      other (congrArg Place.worker same)
    simp only [content, update_of_ne different]

theorem content_worker_self {worker : ω} {next : WorkerState} :
    PoolState.content
        { state with
          workers := update state.workers worker next }
        (.worker worker) = next.owned.map (·.connectionId) := by
  simp only [content, update_self]

end PoolState

/-! ## Steps keep connections apart -/

/-- Every connection is in one place, under an id that was given out. -/
def PoolState.Apart {ω : Type} (state : PoolState ω) : Prop := Numbered state.content state.nextId

namespace PoolState.Apart

variable {ω : Type} [DecidableEq ω] {state : PoolState ω} {worker : ω}

/-- Giving a connection up, or going on without one. -/
theorem without (apart : state.Apart) {next : WorkerState} (nothing : next.owned = none) :
    PoolState.Apart
      { state with
        workers := update state.workers worker next } := by
  apply remove apart
  intro place number inside
  by_cases own : place = .worker worker
  · rw [own, content_worker_self, nothing] at inside
    cases inside
  · rwa [content_worker_ne own] at inside

/-- Another state of the connection a worker has. -/
theorem same (apart : state.Apart) {next : WorkerState} (sameId : next.owned.map (·.connectionId) =
      (state.workers worker).owned.map (·.connectionId)) :
    PoolState.Apart
      { state with
        workers := update state.workers worker next } := by
  apply remove apart
  intro place number inside
  by_cases own : place = .worker worker
  · rw [own, content_worker_self, sameId] at inside
    rwa [own]
  · rwa [content_worker_ne own] at inside

variable {key : Str} {owned : OwnedUpstream}

omit [DecidableEq ω] in
/-- Dropping the last connection of a list. -/
theorem popped (apart : state.Apart) {holder : H1PoolHolder}
    (popped : state.holder.popIdle key = some (owned, holder)) :
    PoolState.Apart { state with holder } := by
  obtain ⟨idle, whole, rfl⟩ := H1PoolHolder.popIdle_eq_some popped
  apply remove apart
  intro place number inside
  cases place with
  | worker worker => exact inside
  | idle other index =>
    by_cases same : other = key
    · subst same
      simp only [content, update_self, whole, Option.map_eq_some_iff] at inside ⊢
      obtain ⟨found, present, number⟩ := inside
      exact ⟨found, getElem?_of_concat present, number⟩
    · simpa only [content, update_of_ne same] using inside

/-- Handing the last connection of a list to a worker. -/
theorem reused (apart : state.Apart) {target : UpstreamTarget} {holder : H1PoolHolder}
    (popped : state.holder.popIdle key = some (owned, holder)) :
    PoolState.Apart
      { state with
        holder
        workers := update state.workers worker (.holding target owned true) } := by
  obtain ⟨idle, whole, rfl⟩ := H1PoolHolder.popIdle_eq_some popped
  have moved := move apart (show PoolState.content
        { state with
          holder :=
            { state.holder with
              pools := update state.holder.pools key idle }
          workers := update state.workers worker
            (.holding target owned true) } (.worker worker) =
      state.content (.idle key idle.length) by
        simp [content, WorkerState.owned, whole])
  apply moved
  · simp [content]
  · intro place notSource notTarget
    cases place with
    | worker second =>
      have different : second ≠ worker := fun same =>
        notTarget (congrArg Place.worker same)
      simp only [content, update_of_ne different]
    | idle other index =>
      by_cases same : other = key
      · subst same
        have different : index ≠ idle.length := fun sameIndex =>
          notSource (congrArg (Place.idle other) sameIndex)
        simp only [content, update_self, whole, getElem?_concat_ne idle owned different]
      · simp only [content, update_of_ne same]

theorem dialled (apart : state.Apart) {connectionId : Nat}
    {target : UpstreamTarget} {response : List ReadEvent}
    (fresh : state.nextId ≤ connectionId) :
    PoolState.Apart
      { state with
        workers := update state.workers worker
          (.holding target { connectionId, response, dialled := target } false)
        nextId := connectionId + 1 } := by
  have put := put apart fresh (show PoolState.content
        { state with
          workers := update state.workers worker
            (.holding target { connectionId, response, dialled := target } false)
          nextId := connectionId + 1 } (.worker worker) = some connectionId by
      simp [content, WorkerState.owned])
  exact put fun place other => content_worker_ne other

/-- Giving the connection of a worker back, for an entry with its id. -/
theorem released (apart : state.Apart) {kept : OwnedUpstream}
    (holds : (state.workers worker).owned = some owned)
    (sameId : kept.connectionId = owned.connectionId) :
    PoolState.Apart
      { state with
        holder :=
          { state.holder with
            pools := update state.holder.pools key (state.holder.pools key ++ [kept]) }
        workers := update state.workers worker .idle } := by
  have moved := move apart (show PoolState.content
        { state with
          holder :=
            { state.holder with
              pools := update state.holder.pools key (state.holder.pools key ++ [kept]) }
          workers := update state.workers worker .idle }
        (.idle key (state.holder.pools key).length) =
      state.content (.worker worker) by
        simp [content, holds, sameId])
  apply moved
  · simp [content, WorkerState.owned]
  · intro place notSource notTarget
    cases place with
    | worker second =>
      have different : second ≠ worker := fun same =>
        notSource (congrArg Place.worker same)
      simp only [content, update_of_ne different]
    | idle other index =>
      by_cases same : other = key
      · subst same
        have different : index ≠ (state.holder.pools other).length :=
          fun sameIndex => notTarget (congrArg (Place.idle other) sameIndex)
        simp only [content, update_self, getElem?_concat_ne _ kept different]
      · simp only [content, update_of_ne same]

end PoolState.Apart

end ReverseProxy
