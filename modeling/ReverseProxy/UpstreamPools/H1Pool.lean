import Mathlib.Data.List.Range
import ReverseProxy.Library.Runs
import ReverseProxy.Rust.Text
import ReverseProxy.UpstreamPools.PoolRegistry

/-!
# HTTP/1 upstream pools

An entry is rented by the handle of a request, by the probe of the supervisor and
by a call that revives it.  When all are rented, a call reserves a place in two
counters and connects a client of its own.

The code of a task between two awaits is one step.  What a task waits for and
holds meanwhile is its stage.  Times are left open.
-/

namespace ReverseProxy

open Library

/-- `H1Entry`; the lock serialises the revivals of the entry. -/
structure H1Entry where
  rented : Bool := false
  dead : Bool := false
  revivePending : Bool := false
  reviveLocked : Bool := false
deriving DecidableEq, Repr

/-- `PoolParams` with its defaults; the timeouts are left out. -/
structure H1PoolParams where
  poolSize : UInt8 := 5
  healthCheckPath : Option Str := none
  maxDisposables : Nat := 50
deriving DecidableEq, Repr

def maxDisposable : Nat := 100

/-- `H1Pool`.  `next` is the counter of the round robin. -/
structure H1Pool where
  params : H1PoolParams := {}
  clients : List H1Entry := []
  next : UInt64 := 0
  shutdown : Bool := false
  liveDisposables : Nat := 0
deriving DecidableEq, Repr

/-- How far the revival of an entry is: its task has not run yet, it waits for
the lock, or it holds the lock and connects. -/
inductive ReviveStage where
  | spawned
  | locking
  | connecting
deriving DecidableEq, Repr

/-- What is alive besides the pool: calls of `get_connection` at an await,
handles, supervisor ticks at the ping of an entry with the entries left to
visit, and tasks of `spawn_revive`. -/
inductive H1Stage where
  | growing
  | reviving (slot : Nat) (stage : ReviveStage)
  | overflowing
  | sleeping
  | reusable (slot : Nat)
  | disposable
  | probing (slot : Nat) (rest : List Nat)
  | revival (slot : Nat) (stage : ReviveStage)
deriving DecidableEq, Repr

namespace H1Stage

/-- The stages that hold the rent of an entry. -/
def rents (slot : Nat) : H1Stage → Bool
  | reviving number _ => number = slot
  | reusable number => number = slot
  | probing number _ => number = slot
  | _ => false

/-- The users of an entry: requests and probes. -/
def uses (slot : Nat) : H1Stage → Bool
  | reusable number => number = slot
  | probing number _ => number = slot
  | _ => false

def isDisposable : H1Stage → Bool
  | disposable => true
  | _ => false

/-- The stages that hold a place in the two counters. -/
def reserves : H1Stage → Bool
  | overflowing => true
  | disposable => true
  | _ => false

end H1Stage

/-- `liveness_path_is_valid`. -/
def livenessPathIsValid (path : Str) : Bool := !path.any fun symbol =>
    symbol = '\r' || symbol = '\n' || symbol = Char.ofNat 0 || symbol = ' '

namespace H1Pool

variable (pool : H1Pool)

def shutDown : H1Pool := { pool with shutdown := true }

variable (slot : Nat)

def modifyEntry (change : H1Entry → H1Entry) :
    H1Pool :=
  { pool with clients := pool.clients.modify slot change }

def tryRent : H1Pool :=
  pool.modifyEntry slot ({ · with rented := true })

def releaseRent : H1Pool :=
  pool.modifyEntry slot ({ · with rented := false })

def markDead : H1Pool :=
  pool.modifyEntry slot ({ · with dead := true })

/-- The flag of the compare-and-exchange of `try_rent`. -/
def isRented : Bool := (pool.clients[slot]?).any (·.rented)

def isDead : Bool := (pool.clients[slot]?).any (·.dead)

def isReviveLocked : Bool := (pool.clients[slot]?).any (·.reviveLocked)

def isRevivePending : Bool :=
  (pool.clients[slot]?).any (·.revivePending)

/-! ## Calls -/

/-- The slots in the order of the scan that begins at `start`. -/
def scanOrder (start len : Nat) : List Nat :=
  (List.range len).map fun offset => (start + offset) % len

/-- One pass of the loop of `get_connection` up to its next await or its end,
with the global counter.  A call that ends without a handle leaves no stage.
The remainder by an empty vector, if the size of the pool is 0, panics. -/
def enter (counter : Nat) (expired : Bool) : H1Pool × Nat × List H1Stage :=
  let len := pool.clients.length
  if pool.shutdown then (pool, counter, [])
  else if len < pool.params.poolSize.toNat then (pool, counter, [.growing])
  else if len = 0 then (pool, counter, [])
  else
    let start := pool.next.toNat % len
    let pool := { pool with next := pool.next + 1 }
    match (scanOrder start len).find? (!pool.isRented ·) with
    | some slot =>
      let stage :=
        if pool.isDead slot then .reviving slot .locking else .reusable slot
      (pool.tryRent slot, counter, [stage])
    | none =>
      if counter < maxDisposable ∧ pool.liveDisposables < pool.params.maxDisposables then
        ({ pool with liveDisposables := pool.liveDisposables + 1 }, counter + 1, [.overflowing])
      else if expired then (pool, counter, [])
      else (pool, counter, [.sleeping])

/-- The client of the first phase is connected.  A pool that has filled up
meanwhile hands it out as a disposable one. -/
def grow (counter : Nat) : H1Pool × Nat × List H1Stage :=
  if pool.clients.length < pool.params.poolSize.toNat then
    ({ pool with clients := pool.clients ++ [{ rented := true }] }, counter,
      [.reusable pool.clients.length])
  else
    ({ pool with liveDisposables := pool.liveDisposables + 1 }, counter + 1, [.disposable])

/-- The two decrements of a failed dial or of a dropped disposable handle. -/
def unreserve (counter : Nat) : H1Pool × Nat × List H1Stage :=
  ({ pool with liveDisposables := pool.liveDisposables - 1 }, counter - 1, [])

/-! ## Revivals -/

def lockRevive : H1Pool :=
  pool.modifyEntry slot ({ · with reviveLocked := true })

def unlockRevive : H1Pool :=
  pool.modifyEntry slot ({ · with reviveLocked := false })

/-- The new client is stored, the entry lives again. -/
def revived : H1Pool :=
  pool.modifyEntry slot ({ · with dead := false, reviveLocked := false })

/-- The drop of `RevivePendingGuard`. -/
def clearPending : H1Pool :=
  pool.modifyEntry slot ({ · with revivePending := false })

def spawnRevive : H1Pool × List H1Stage :=
  if pool.shutdown || !pool.isDead slot || pool.isRevivePending slot then
    (pool, [])
  else
    (pool.modifyEntry slot ({ · with revivePending := true }), [.revival slot .spawned])

/-! ## Supervisor -/

def probes : Bool := pool.params.healthCheckPath.any livenessPathIsValid

/-- `supervisor_tick` from the entries left to visit up to its next ping.
`hot` tells which of them were used a moment ago. -/
def tick (hot : Nat → Bool) : H1Pool → List Nat → H1Pool × List H1Stage
  | pool, [] => (pool, [])
  | pool, slot :: rest =>
    if pool.shutdown then (pool, [])
    -- Entries are never removed: those of the snapshot are still there.
    else if pool.clients.length ≤ slot then tick hot pool rest
    else if pool.isDead slot then
      let (spawning, spawned) := pool.spawnRevive slot
      let (ticked, stages) := tick hot spawning rest
      (ticked, spawned ++ stages)
    else if hot slot || !pool.probes || pool.isRented slot then
      tick hot pool rest
    else (pool.tryRent slot, [.probing slot rest])

/-- The end of a ping: the entry is marked, the rent is released, and the tick
goes on. -/
def pinged (hot : Nat → Bool) (alive : Bool) (pool : H1Pool) (slot : Nat)
    (rest : List Nat) : H1Pool × List H1Stage :=
  if alive then (pool.releaseRent slot).tick hot rest
  else
    let (spawning, spawned) := ((pool.markDead slot).releaseRent slot).spawnRevive slot
    let (ticked, stages) := spawning.tick hot rest
    (ticked, spawned ++ stages)

/-! ## Steps of one pool -/

inductive Event where
  | callStarted (expired : Bool)
  | callResumed (expired : Bool)
  | connected
  | connectFailed
  | reviveLocked
  | reviveSucceeded
  | reviveFailed
  | callDropped
  | requestFailed
  | handleDropped
  | ticked (hot : Nat → Bool)
  | pinged (hot : Nat → Bool) (alive : Bool)
  | tickDropped
  | revivalStarted
  | revivalLocked
  | revivalSucceeded
  | revivalFailed
  | revivalDropped

/-- What a step does to the pool, the global counter and the stage it starts
from. -/
inductive Moves (pool : H1Pool) (counter : Nat) :
    Option H1Stage → Event → H1Pool × Nat × List H1Stage → Prop where
  | callStarted (expired : Bool) :
      Moves pool counter none (.callStarted expired) (pool.enter counter expired)
  | callResumed (expired : Bool) :
      Moves pool counter (some .sleeping) (.callResumed expired) (pool.enter counter expired)
  | grown : Moves pool counter (some .growing) .connected (pool.grow counter)
  | growFailed : Moves pool counter (some .growing) .connectFailed (pool, counter, [])
  | overflowed : Moves pool counter (some .overflowing) .connected (pool, counter, [.disposable])
  | overflowFailed : Moves pool counter (some .overflowing) .connectFailed (pool.unreserve counter)
  -- A parallel revival may have been faster.
  | reviveLocked (slot : Nat) (free : pool.isReviveLocked slot = false) :
      Moves pool counter (some (.reviving slot .locking)) .reviveLocked (if pool.isDead slot then
          (pool.lockRevive slot, counter, [.reviving slot .connecting])
        else (pool, counter, [.reusable slot]))
  | reviveSucceeded (slot : Nat) :
      Moves pool counter (some (.reviving slot .connecting)) .reviveSucceeded
        (pool.revived slot, counter, [.reusable slot])
  | reviveFailed (slot : Nat) :
      Moves pool counter (some (.reviving slot .connecting)) .reviveFailed
        ((pool.unlockRevive slot).releaseRent slot, counter, [])
  -- Nothing but the lock is given back when a call is dropped at an await.
  | growDropped : Moves pool counter (some .growing) .callDropped (pool, counter, [])
  | sleepDropped : Moves pool counter (some .sleeping) .callDropped (pool, counter, [])
  | lockDropped (slot : Nat) :
      Moves pool counter (some (.reviving slot .locking)) .callDropped (pool, counter, [])
  | reviveDropped (slot : Nat) :
      Moves pool counter (some (.reviving slot .connecting)) .callDropped
        (pool.unlockRevive slot, counter, [])
  | overflowDropped : Moves pool counter (some .overflowing) .callDropped (pool, counter, [])
  | requestFailed (slot : Nat) :
      Moves pool counter (some (.reusable slot)) .requestFailed
        (pool.markDead slot, counter, [.reusable slot])
  | reusableDropped (slot : Nat) :
      Moves pool counter (some (.reusable slot)) .handleDropped (pool.releaseRent slot, counter, [])
  | disposableDropped :
      Moves pool counter (some .disposable) .handleDropped (pool.unreserve counter)
  | ticked (hot : Nat → Bool) :
      Moves pool counter none (.ticked hot)
        ((pool.tick hot (List.range pool.clients.length)).1, counter,
          (pool.tick hot (List.range pool.clients.length)).2)
  | pinged (hot : Nat → Bool) (alive : Bool) (slot : Nat) (rest : List Nat) :
      Moves pool counter (some (.probing slot rest)) (.pinged hot alive)
        ((pool.pinged hot alive slot rest).1, counter, (pool.pinged hot alive slot rest).2)
  | tickDropped (slot : Nat) (rest : List Nat) :
      Moves pool counter (some (.probing slot rest)) .tickDropped
        (pool.releaseRent slot, counter, [])
  | revivalStarted (slot : Nat) :
      Moves pool counter (some (.revival slot .spawned)) .revivalStarted
        (if pool.shutdown then (pool.clearPending slot, counter, [])
        else (pool, counter, [.revival slot .locking]))
  | revivalLocked (slot : Nat) (free : pool.isReviveLocked slot = false) :
      Moves pool counter (some (.revival slot .locking)) .revivalLocked (if pool.isDead slot then
          (pool.lockRevive slot, counter, [.revival slot .connecting])
        else (pool.clearPending slot, counter, []))
  | revivalSucceeded (slot : Nat) :
      Moves pool counter (some (.revival slot .connecting)) .revivalSucceeded
        ((pool.revived slot).clearPending slot, counter, [])
  | revivalFailed (slot : Nat) :
      Moves pool counter (some (.revival slot .connecting)) .revivalFailed
        ((pool.unlockRevive slot).clearPending slot, counter, [])
  | revivalDropped (slot : Nat) (stage : ReviveStage) :
      Moves pool counter (some (.revival slot stage)) .revivalDropped
        ((if stage = .connecting then pool.unlockRevive slot
          else pool).clearPending slot, counter, [])

end H1Pool

/-! ## All pools -/

/-- A stage and the number of its pool. -/
structure H1Task where
  pool : Nat
  stage : H1Stage
deriving DecidableEq, Repr

/-- All pools, the counter they share, and what is alive besides. -/
structure H1Pools extends PoolRegistry H1Pool where
  pools := fun _ => {}
  disposableCounter : Nat := 0
  tasks : List H1Task := []

namespace H1Pools

/-- The effect of a step of one pool, beside the tasks it does not touch. -/
def apply (system : H1Pools) (number : Nat)
    (effect : H1Pool × Nat × List H1Stage) (others : List H1Task) : H1Pools :=
  { system with
    pools := Function.update system.pools number effect.1
    disposableCounter := effect.2.1
    tasks := effect.2.2.map ({ pool := number, stage := · }) ++ others }

def ensurePool (system : H1Pools) (locationId : Int) (params : H1PoolParams) : Nat × H1Pools :=
  let ensured := system.toPoolRegistry.ensurePool locationId { params }
  (ensured.1, { system with toPoolRegistry := ensured.2 })

def drainUnused (system : H1Pools) (active : Int → Bool) : H1Pools :=
  { system with
    toPoolRegistry := system.toPoolRegistry.drainUnused H1Pool.shutDown active }

inductive Event where
  | pool (number : Nat) (stage : Option H1Stage) (event : H1Pool.Event)
  | poolEnsured (locationId : Int) (params : H1PoolParams)
  | drained (active : Int → Bool)

inductive Step : H1Pools → Event → H1Pools → Prop where
  | started (system : H1Pools) (number : Nat) {event : H1Pool.Event}
      {effect : H1Pool × Nat × List H1Stage} (made : number < system.made)
      (moves : (system.pools number).Moves system.disposableCounter none event effect) :
      Step system (.pool number none event) (system.apply number effect system.tasks)
  | moved (system : H1Pools) (number : Nat) {stage : H1Stage}
      {event : H1Pool.Event} {effect : H1Pool × Nat × List H1Stage}
      {before after : List H1Task}
      (alive : system.tasks = before ++ { pool := number, stage } :: after)
      (moves : (system.pools number).Moves system.disposableCounter (some stage) event effect) :
      Step system (.pool number (some stage) event) (system.apply number effect (before ++ after))
  | poolEnsured (system : H1Pools) (locationId : Int) (params : H1PoolParams) :
      Step system (.poolEnsured locationId params) (system.ensurePool locationId params).2
  | drained (system : H1Pools) (active : Int → Bool) :
      Step system (.drained active) (system.drainUnused active)

end H1Pools

end ReverseProxy
