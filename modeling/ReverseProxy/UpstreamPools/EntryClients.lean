import Mathlib.Logic.Function.Basic
import ReverseProxy.UpstreamPools.H1Pool

/-!
# The client that kills an entry

An entry is marked dead by a request that failed on its client, and a revival
stores another client meanwhile.  An HTTP/1 entry is rented while a request runs;
an HTTP/2 request compares the clients first.
-/

namespace ReverseProxy

open Library

/-! ## Entries of HTTP/1 pools -/

/-- `H1Entry`; clients are numbered as they are connected. -/
structure RentedEntry where
  client : Nat := 0
  dead : Bool := false
  rented : Bool := false
  reviveLocked : Bool := false
  connected : Nat := 1
deriving DecidableEq, Repr

/-- What a task does with the entry.  A call of `get_connection` (`foreground`)
or a task of `spawn_revive` waits for the lock or connects; a handle makes one
request, `pending` until its result is known. -/
inductive EntryStage where
  | idle
  | reviving (foreground connecting : Bool)
  | handle (client : Nat) (pending : Bool)
  | probing (client : Nat)
deriving DecidableEq, Repr

namespace EntryStage

def rents : EntryStage → Bool
  | reviving foreground _ => foreground
  | handle _ _ => true
  | probing _ => true
  | idle => false

def connects : EntryStage → Bool
  | reviving _ connecting => connecting
  | _ => false

/-- The client whose failure would mark the entry. -/
def failing? : EntryStage → Option Nat
  | handle client pending => if pending then some client else none
  | probing client => some client
  | _ => none

/-- What follows a revival that succeeded. -/
def afterRevival (foreground : Bool) (entry : RentedEntry) : EntryStage :=
  if foreground then .handle entry.client true else .idle

end EntryStage

/-- What a task does with the entry up to its next await. -/
inductive EntryMove (entry : RentedEntry) : EntryStage → RentedEntry → EntryStage → Prop where
  | rented (free : entry.rented = false) (alive : entry.dead = false) :
      EntryMove entry .idle { entry with rented := true } (.handle entry.client true)
  | rentedDead (free : entry.rented = false) (dead : entry.dead = true) :
      EntryMove entry .idle { entry with rented := true } (.reviving true false)
  | spawned (dead : entry.dead = true) : EntryMove entry .idle entry (.reviving false false)
  | lockedDead (foreground : Bool) (free : entry.reviveLocked = false) (dead : entry.dead = true) :
      EntryMove entry (.reviving foreground false)
        { entry with reviveLocked := true } (.reviving foreground true)
  | lockedAlive (foreground : Bool) (free : entry.reviveLocked = false)
      (alive : entry.dead = false) :
      EntryMove entry (.reviving foreground false) entry (.afterRevival foreground entry)
  | revived (foreground : Bool) :
      EntryMove entry (.reviving foreground true)
        { entry with
          client := entry.connected
          connected := entry.connected + 1
          dead := false
          reviveLocked := false }
        (.afterRevival foreground { entry with client := entry.connected })
  | reviveFailed (foreground : Bool) :
      EntryMove entry (.reviving foreground true)
        { entry with
          reviveLocked := false
          rented := entry.rented && !foreground } .idle
  -- The rent of a call that is dropped is not given back.
  | reviveDropped (foreground connecting : Bool) :
      EntryMove entry (.reviving foreground connecting)
        { entry with reviveLocked := entry.reviveLocked && !connecting } .idle
  | requestSucceeded (client : Nat) :
      EntryMove entry (.handle client true) entry (.handle client false)
  | requestFailed (client : Nat) :
      EntryMove entry (.handle client true) { entry with dead := true } (.handle client false)
  | handleDropped (client : Nat) (pending : Bool) :
      EntryMove entry (.handle client pending) { entry with rented := false } .idle
  | probed (alive : entry.dead = false) (free : entry.rented = false) :
      EntryMove entry .idle { entry with rented := true } (.probing entry.client)
  | pinged (client : Nat) (alive : Bool) :
      EntryMove entry (.probing client)
        { entry with dead := entry.dead || !alive, rented := false } .idle
  | tickDropped (client : Nat) :
      EntryMove entry (.probing client) { entry with rented := false } .idle

/-- The pool that has this entry alone. -/
def RentedEntry.pool (entry : RentedEntry) : H1Pool :=
  { params := { poolSize := 1, healthCheckPath := some ['/'] }
    clients :=
      [{ rented := entry.rented
         dead := entry.dead
         reviveLocked := entry.reviveLocked }] }

/-- The stage of the task for that pool. -/
def EntryStage.inPool : EntryStage → Option H1Stage
  | idle => none
  | reviving foreground connecting =>
    let stage := if connecting then ReviveStage.connecting else .locking
    some (if foreground then .reviving 0 stage else .revival 0 stage)
  | handle _ _ => some (.reusable 0)
  | probing _ => some (.probing 0 [])

/-- A move that changes the flags of the entry does what a step of its pool
does from the same stage. -/
theorem EntryMove.moves_pool {entry after : RentedEntry} {stage next : EntryStage}
    (moves : EntryMove entry stage after next) :
    after = entry ∨ ∃ event effect, H1Pool.Moves entry.pool 0 stage.inPool event effect ∧
      effect.1.clients.map ({ · with revivePending := false }) = after.pool.clients := by
  obtain ⟨client, dead, rented, reviveLocked, connected⟩ := entry
  cases moves with
  | spawned | lockedAlive | requestSucceeded => exact Or.inl rfl
  | rented free alive | rentedDead free dead =>
    subst_vars
    exact Or.inr ⟨_, _, .callStarted false, rfl⟩
  | lockedDead foreground free dead =>
    subst_vars
    cases foreground with
    | true => exact Or.inr ⟨_, _, .reviveLocked 0 rfl, rfl⟩
    | false => exact Or.inr ⟨_, _, .revivalLocked 0 rfl, rfl⟩
  | revived foreground =>
    cases foreground with
    | true => exact Or.inr ⟨_, _, .reviveSucceeded 0, rfl⟩
    | false => exact Or.inr ⟨_, _, .revivalSucceeded 0, rfl⟩
  | reviveFailed foreground =>
    cases foreground with
    | true => exact Or.inr ⟨_, _, .reviveFailed 0, by cases rented <;> rfl⟩
    | false => exact Or.inr ⟨_, _, .revivalFailed 0, by cases rented <;> rfl⟩
  | reviveDropped foreground connecting =>
    cases foreground with
    | true =>
      cases connecting with
      | true => exact Or.inr ⟨_, _, .reviveDropped 0, by cases reviveLocked <;> rfl⟩
      | false => exact Or.inr ⟨_, _, .lockDropped 0, by cases reviveLocked <;> rfl⟩
    | false =>
      refine Or.inr ⟨_, _, .revivalDropped 0 _, ?_⟩
      cases connecting <;> cases reviveLocked <;> rfl
  | requestFailed => exact Or.inr ⟨_, _, .requestFailed 0, rfl⟩
  | handleDropped => exact Or.inr ⟨_, _, .reusableDropped 0, rfl⟩
  | probed alive free =>
    subst_vars
    exact Or.inr ⟨_, _, .ticked fun _ => false, rfl⟩
  | pinged client alive =>
    refine Or.inr ⟨_, _, .pinged (fun _ => false) alive 0 [], ?_⟩
    cases alive <;> cases dead <;> rfl
  | tickDropped => exact Or.inr ⟨_, _, .tickDropped 0 [], rfl⟩

structure EntryTasks where
  entry : RentedEntry
  tasks : Nat → EntryStage

/-- `get_connection` has connected the entry for its own handle. -/
def EntryTasks.created : EntryTasks :=
  { entry := { rented := true }
    tasks := fun task => if task = 0 then .handle 0 true else .idle }

inductive EntryStep : EntryTasks → Nat → EntryTasks → Prop where
  | moved {state : EntryTasks} {task : Nat} {entry : RentedEntry} {stage : EntryStage}
      (moves : EntryMove state.entry (state.tasks task) entry stage) :
      EntryStep state task { entry, tasks := Function.update state.tasks task stage }

/-- One task rents the entry, one connects while it is dead, and nobody waits
for a client that was replaced. -/
structure EntryTasks.Sound (state : EntryTasks) : Prop where
  rented : ∀ task, (state.tasks task).rents → state.entry.rented
  oneRents : ∀ task other, (state.tasks task).rents → (state.tasks other).rents → task = other
  locked : ∀ task, (state.tasks task).connects → state.entry.reviveLocked ∧ state.entry.dead
  oneConnects : ∀ task other, (state.tasks task).connects →
    (state.tasks other).connects → task = other
  current : ∀ task client, (state.tasks task).failing? = some client →
    client = state.entry.client ∧ state.entry.dead = false

theorem EntryStage.rents_of_failing {stage : EntryStage}
    (fails : stage.failing? ≠ none) : stage.rents := by
  cases stage <;> simp_all [failing?, rents]

/-- What a move changes for the other tasks: only the task that rents the entry
gives it back, and only one that connects or fails changes client or mark. -/
structure MoveEffect (entry : RentedEntry) (stage : EntryStage)
    (after : RentedEntry) (next : EntryStage) : Prop where
  rents : next.rents → after.rented ∧ entry.rented = false ∨
    stage.rents ∧ after.rented = entry.rented
  rented : entry.rented → after.rented ∨ stage.rents
  connects : next.connects → after.reviveLocked ∧ after.dead ∧
    (stage.connects ∨ entry.reviveLocked = false)
  locked : entry.reviveLocked → entry.dead → after.reviveLocked ∧ after.dead ∨ stage.connects
  failing : ∀ client, next.failing? = some client → client = after.client ∧ after.dead = false
  current : after.client = entry.client ∧ after.dead = entry.dead ∨
    after.dead = false ∧ stage.connects ∨ stage.failing? ≠ none

theorem EntryMove.effect {entry after : RentedEntry} {stage next : EntryStage}
    (moves : EntryMove entry stage after next) :
    MoveEffect entry stage after next := by
  cases moves <;> constructor <;>
    grind [EntryStage.rents, EntryStage.connects, EntryStage.failing?, EntryStage.afterRevival]

namespace EntryTasks

theorem Sound.step {state next : EntryTasks} {task : Nat}
    (sound : state.Sound) (stepped : EntryStep state task next) :
    next.Sound := by
  obtain ⟨rented, oneRents, locked, oneConnects, current⟩ := sound
  have renting : ∀ task, (state.tasks task).failing? ≠ none → (state.tasks task).rents :=
    fun _ => EntryStage.rents_of_failing
  cases stepped with
  | moved moves =>
    obtain ⟨rents, keeps, connects, lock, failing, changes⟩ := moves.effect
    constructor <;> grind [Function.update_apply]

/-- In every run a request that can fail runs on the client of the entry, only
such a failure marks the entry, and a new handle has its client. -/
theorem killed_by_current_client {state next : EntryTasks} {task : Nat}
    (run : Run EntryStep (fun _ _ => True) created state)
    (stepped : EntryStep state task next) :
    (∀ client, (state.tasks task).failing? = some client → client = state.entry.client) ∧
      (next.entry.dead = true → state.entry.dead = false →
        ∃ client, (state.tasks task).failing? = some client) ∧
      ∀ client, next.tasks task = .handle client true → client = next.entry.client := by
  have initially : created.Sound := by
    unfold created
    constructor <;> grind [EntryStage.rents, EntryStage.connects, EntryStage.failing?]
  have sound : state.Sound := run.invariant initially fun sound _ stepped => sound.step stepped
  refine ⟨fun client failing => (sound.current task client failing).1, ?_, fun client held => ?_⟩
  · intro marked alive
    cases stepped with
    | moved moves =>
      apply Option.ne_none_iff_exists'.mp
      grind [moves.effect.current]
  · exact ((sound.step stepped).current task client (by
      rw [held]
      rfl)).1

/-- A second call revives the entry, and its request fails as the first did. -/
theorem killed_by_current_client_revived :
    ∃ state next, Run EntryStep (fun _ _ => True) created state ∧ state.entry.client = 1 ∧
      EntryStep state 1 next ∧ next.entry.dead = true ∧
      ∃ client, (state.tasks 1).failing? = some client ∧ client = state.entry.client := by
  have failed : Run EntryStep (fun _ _ => True) created _ :=
    .step (.start _) trivial (show EntryStep _ 0 _ from .moved (.requestFailed 0))
  have dropped := failed.step trivial
    (show EntryStep _ 0 _ from .moved (.handleDropped 0 false))
  have rented := dropped.step trivial (show EntryStep _ 1 _ from .moved (.rentedDead rfl rfl))
  have locked := rented.step trivial
    (show EntryStep _ 1 _ from .moved (.lockedDead true rfl rfl))
  have revived := locked.step trivial (show EntryStep _ 1 _ from .moved (.revived true))
  obtain ⟨onCurrent, marked, _⟩ := killed_by_current_client revived
    (show EntryStep _ 1 _ from .moved (.requestFailed 1))
  obtain ⟨client, failing⟩ := marked rfl rfl
  exact ⟨_, _, revived, rfl, .moved (.requestFailed 1), rfl, client, failing,
    onCurrent client failing⟩

end EntryTasks

/-! ## Requests over HTTP/2 pools -/

/-- `ProxyPassError`, by what `is_connection_level_error` tells apart. -/
inductive SendError where
  | requestTimeout
  | upgradedToWebSocket
  | clientError
  | other
deriving DecidableEq, Repr

def isConnectionLevelError : SendError → Bool
  | .clientError => true
  | _ => false

/-- `Method::is_idempotent`. -/
def isIdempotent (method : String) : Bool :=
  method ∈ ["GET", "HEAD", "OPTIONS", "TRACE", "PUT", "DELETE"]

structure SharedEntry where
  client : Nat
  dead : Bool
deriving DecidableEq, Repr

/-- How far `execute_pooled_h2` is: it dials a client of its own, asks the pool
with so many attempts left, waits for a result, or has returned. -/
inductive PooledStage where
  | dialling
  | asking (attempts : Nat)
  | waiting (attempts : Nat) (entry : Option Nat) (client : Nat)
  | returned
deriving DecidableEq, Repr

/-- A request and the entries of the pool.  `sends` are the results of what was
sent, the latest in front. -/
structure PooledRequest where
  stage : PooledStage
  entries : Nat → SharedEntry
  sends : List (Option (Except SendError Unit)) := []

namespace PooledRequest

def start (method : String) (isExtendedConnect : Bool)
    (entries : Nat → SharedEntry) : PooledRequest :=
  { stage :=
      if isExtendedConnect then .dialling
      else .asking (if isIdempotent method then 2 else 1)
    entries }

variable (request : PooledRequest)

def send (attempts : Nat) (entry : Option Nat) (client : Nat) : PooledRequest :=
  { request with
    stage := .waiting attempts entry client
    sends := none :: request.sends }

/-- The request is answered, or fails without another attempt. -/
def finish (result : Except SendError Unit) :
    PooledRequest :=
  { request with
    stage := .returned
    sends := some result :: request.sends.tail }

def markDead (entry : Nat) : PooledRequest :=
  { request with
    entries := Function.update request.entries entry { request.entries entry with dead := true } }

/-- Only the current client of an entry may kill it. -/
def markFailed (entry : Option Nat) (client : Nat) :
    PooledRequest :=
  match entry with
  | none => request
  | some entry =>
    if (request.entries entry).client = client then request.markDead entry
    else request

end PooledRequest

/-- A step of the request itself, or of the revivals and the other users of the
entries. -/
inductive PooledStep : PooledRequest → Bool → PooledRequest → Prop where
  | dialled {request : PooledRequest} (dials : request.stage = .dialling)
      (client : Nat) : PooledStep request true (request.send 0 none client)
  | dialFailed {request : PooledRequest} (dials : request.stage = .dialling) :
      PooledStep request true { request with stage := .returned }
  | given {request : PooledRequest} {attempts : Nat}
      (asks : request.stage = .asking (attempts + 1)) (entry : Nat) :
      PooledStep request true (request.send attempts (some entry) (request.entries entry).client)
  | refused {request : PooledRequest} {attempts : Nat} (asks : request.stage = .asking attempts) :
      PooledStep request true { request with stage := .returned }
  | answered {request : PooledRequest} {attempts client : Nat} {entry : Option Nat}
      (waits : request.stage = .waiting attempts entry client)
      (result : Except SendError Unit)
      (ends : ∀ err, result = .error err → isConnectionLevelError err = false) :
      PooledStep request true (request.finish result)
  | lost {request : PooledRequest} {attempts client : Nat} {entry : Option Nat}
      (waits : request.stage = .waiting attempts entry client)
      (err : SendError) (level : isConnectionLevelError err = true) :
      PooledStep request true
        { (request.finish (.error err)).markFailed entry client with
          stage := .asking attempts }
  | revived (request : PooledRequest) (entry client : Nat) :
      PooledStep request false
        { request with
          entries := Function.update request.entries entry { client, dead := false } }
  | marked (request : PooledRequest) (entry : Nat) :
      PooledStep request false (request.markDead entry)

namespace PooledRequest

/-- The attempts that are left. -/
def left (request : PooledRequest) : Nat :=
  match request.stage with
  | .dialling => 1
  | .asking attempts => attempts
  | .waiting attempts _ _ => attempts
  | .returned => 0

def Retryable (result : Option (Except SendError Unit)) : Prop :=
  ∃ err, result = some (.error err) ∧ isConnectionLevelError err = true

/-- Every result before the last is a connection-level error, and so is the
last one before another attempt. -/
structure Bounded (limit : Nat) (request : PooledRequest) : Prop where
  sends : request.sends.length + request.left ≤ limit
  earlier : ∀ result ∈ request.sends.tail, Retryable result
  asking : ∀ attempts, request.stage = .asking attempts → ∀ result ∈ request.sends, Retryable result
  dialling : request.stage = .dialling → request.sends = []
  waiting : ∀ attempts entry client,
    request.stage = .waiting attempts entry client → 0 < request.sends.length

@[simp]
theorem markFailed_sends (request : PooledRequest) (entry : Option Nat) (client : Nat) :
    (request.markFailed entry client).sends = request.sends := by
  unfold markFailed
  split
  · rfl
  · split <;> rfl

theorem entry_of_markFailed {request : PooledRequest} {entry : Option Nat} {client number : Nat}
    (changed : ((request.markFailed entry client).entries number).dead ≠
      (request.entries number).dead) :
    entry = some number ∧ client = (request.entries number).client := by
  cases entry with
  | none => exact absurd rfl changed
  | some entry =>
    by_cases current : (request.entries entry).client = client
    · rw [markFailed, if_pos current] at changed
      by_cases same : number = entry
      · subst same
        exact ⟨rfl, current.symm⟩
      · exact absurd (by simp [markDead, same]) changed
    · rw [markFailed, if_neg current] at changed
      exact absurd rfl changed

theorem Bounded.step {limit : Nat} {request next : PooledRequest} {own : Bool}
    (bounded : request.Bounded limit) (stepped : PooledStep request own next) :
    next.Bounded limit := by
  obtain ⟨sends, earlier, asking, dialling, waiting⟩ := bounded
  cases stepped <;> constructor <;>
    grind [send, finish, left, markDead, markFailed_sends, Retryable]

/-- In every run a request is sent twice only if its method is idempotent and
the first attempt failed with a connection-level error, which a timeout is not;
and it kills an entry only through the client of that entry. -/
theorem retried_after_connection_error (method : String)
    (isExtendedConnect : Bool) (entries : Nat → SharedEntry)
    {request : PooledRequest}
    (run : Run PooledStep (fun _ _ => True) (start method isExtendedConnect entries) request) :
    request.sends.length ≤ 2 ∧ (2 ≤ request.sends.length →
        isIdempotent method = true ∧ ∀ result ∈ request.sends.tail, ∃ err,
            result = some (.error err) ∧ isConnectionLevelError err = true ∧
              err ≠ .requestTimeout) ∧
      ∀ next entry, PooledStep request true next →
        (next.entries entry).dead ≠ (request.entries entry).dead →
          ∃ attempts, request.stage =
            .waiting attempts (some entry) (request.entries entry).client := by
  have bounded : request.Bounded (if isIdempotent method && !isExtendedConnect then 2 else 1) := by
    refine run.invariant ?_ fun bounded _ stepped => bounded.step stepped
    constructor <;> grind [start, left]
  refine ⟨?_, fun twice => ⟨?_, fun result member => ?_⟩, ?_⟩
  · grind [bounded.sends]
  · grind [bounded.sends]
  · obtain ⟨err, same, level⟩ := bounded.earlier result member
    refine ⟨err, same, level, ?_⟩
    rintro rfl
    cases level
  · intro next entry stepped changed
    cases stepped with
    | lost waits err level =>
      obtain ⟨rfl, rfl⟩ := entry_of_markFailed changed
      exact ⟨_, waits⟩
    | _ => exact absurd rfl changed

/-- A GET is sent again after a connection was lost. -/
theorem retried_after_connection_error_get :
    ∃ request, Run PooledStep (fun _ _ => True)
        (start "GET" false fun _ => { client := 0, dead := false }) request ∧
      request.sends = [none, some (.error .clientError)] ∧
      isIdempotent "GET" = true := by
  have given : Run PooledStep (fun _ _ => True) _ _ := Run.step
    (.start (start "GET" false fun _ => { client := 0, dead := false }))
    trivial (.given rfl 0)
  have lost := Run.step given trivial (.lost rfl .clientError rfl)
  have again := Run.step lost trivial (.given rfl 0)
  exact ⟨_, again, rfl, ((retried_after_connection_error "GET" false _
    again).2.1 (Nat.le_refl 2)).1⟩

end PooledRequest

end ReverseProxy
