import ReverseProxy.UpstreamPools.H1Pool

/-!
# HTTP/2 upstream pools

Streams share a connection, so entries are not rented.  A pool grows by calls and
by the top-up task; both push under a lock that looks at the shutdown flag
again.  Steps and times are as in the pools for HTTP/1.
-/

namespace ReverseProxy

open Library

/-- `H2Entry`. -/
structure H2Entry where
  dead : Bool := false
  revivePending : Bool := false
  reviveLocked : Bool := false
deriving DecidableEq, Repr

structure H2PoolParams where
  poolSize : UInt8 := 5
  healthCheckPath : Option Str := none
deriving DecidableEq, Repr

structure H2Pool where
  params : H2PoolParams := {}
  clients : List H2Entry := []
  next : UInt64 := 0
  shutdown : Bool := false
  topUpPending : Bool := false
deriving DecidableEq, Repr

/-- What is alive besides the pool: calls at an await, the top-up task (not run
yet, or connecting), supervisor ticks at a ping, and tasks of `spawn_revive`. -/
inductive H2Stage where
  | growing
  | reviving (slot : Nat) (stage : ReviveStage)
  | toppingUp (connecting : Bool)
  | probing (slot : Nat) (rest : List Nat)
  | revival (slot : Nat) (stage : ReviveStage)
deriving DecidableEq, Repr

/-- What the clock and the transport say during a step: which entries were used
a moment ago, were dialled a moment ago, and have a live transport. -/
structure H2Surroundings where
  hot : Nat → Bool
  cooling : Nat → Bool
  isAlive : Nat → Bool

namespace H2Pool

variable (pool : H2Pool)

def shutDown : H2Pool := { pool with shutdown := true }

variable (slot : Nat)

def modifyEntry (change : H2Entry → H2Entry) :
    H2Pool :=
  { pool with clients := pool.clients.modify slot change }

def markDead : H2Pool :=
  pool.modifyEntry slot ({ · with dead := true })

def isDead : Bool := (pool.clients[slot]?).any (·.dead)

def isReviveLocked : Bool := (pool.clients[slot]?).any (·.reviveLocked)

def isRevivePending : Bool :=
  (pool.clients[slot]?).any (·.revivePending)

def lockRevive : H2Pool :=
  pool.modifyEntry slot ({ · with reviveLocked := true })

def unlockRevive : H2Pool :=
  pool.modifyEntry slot ({ · with reviveLocked := false })

def revived : H2Pool :=
  pool.modifyEntry slot ({ · with dead := false, reviveLocked := false })

def clearPending : H2Pool :=
  pool.modifyEntry slot ({ · with revivePending := false })

variable (around : H2Surroundings)

/-- Only entries of the vector are revived; all slots are. -/
def spawnRevive (pool : H2Pool) (slot : Nat) : H2Pool × List H2Stage :=
  if pool.shutdown || !pool.isDead slot || around.cooling slot || pool.isRevivePending slot then
    (pool, [])
  else
    (pool.modifyEntry slot ({ · with revivePending := true }), [.revival slot .spawned])

/-- `try_push`: the pool, and whether the entry was pushed. -/
def tryPush : H2Pool × Bool :=
  if pool.shutdown then (pool, false)
  else if pool.params.poolSize.toNat ≤ pool.clients.length then (pool, false)
  else ({ pool with clients := pool.clients ++ [{}] }, true)

/-- The scan of `get_connection` for a live entry: whether there is one, after
the dead ones before it were given to background revivals. -/
def scan (around : H2Surroundings) :
    H2Pool → List Nat → H2Pool × List H2Stage × Bool
  | pool, [] => (pool, [], false)
  | pool, slot :: rest =>
    if !pool.isDead slot && around.isAlive slot then (pool, [], true)
    else
      let (spawning, spawned) := (pool.markDead slot).spawnRevive around slot
      let (scanned, stages, found) := scan around spawning rest
      (scanned, spawned ++ stages, found)

/-- `get_connection` up to its first await or its end.  The remainder by an
empty vector, if the size of the pool is 0, panics. -/
def enter (pool : H2Pool) : H2Pool × List H2Stage :=
  let len := pool.clients.length
  if len < pool.params.poolSize.toNat then (pool, [.growing])
  else if len = 0 then (pool, [])
  else
    let start := pool.next.toNat % len
    let (scanned, stages, found) := { pool with next := pool.next + 1 }.scan around
        (H1Pool.scanOrder start len)
    (scanned, stages ++ if found then [] else [.reviving start .locking])

/-- The loop of the top-up task up to its next dial, or its end. -/
def topUp : H2Pool × List H2Stage :=
  if !pool.shutdown && pool.clients.length < pool.params.poolSize.toNat then
    (pool, [.toppingUp true])
  else ({ pool with topUpPending := false }, [])

def spawnTopUp : H2Pool × List H2Stage :=
  if pool.shutdown || pool.clients.length = 0 || pool.params.poolSize.toNat ≤ pool.clients.length ||
      pool.topUpPending then
    (pool, [])
  else ({ pool with topUpPending := true }, [.toppingUp false])

def probes : Bool := pool.params.healthCheckPath.any livenessPathIsValid

/-- `supervisor_tick` from the entries left to visit up to its next ping. -/
def tick (around : H2Surroundings) :
    H2Pool → List Nat → H2Pool × List H2Stage
  | pool, [] => (pool, [])
  | pool, slot :: rest =>
    if pool.shutdown then (pool, [])
    else if pool.isDead slot || !around.isAlive slot then
      let (spawning, spawned) := (pool.markDead slot).spawnRevive around slot
      let (ticked, stages) := tick around spawning rest
      (ticked, spawned ++ stages)
    else if around.hot slot || !pool.probes then tick around pool rest
    else (pool, [.probing slot rest])

def startTick (pool : H2Pool) : H2Pool × List H2Stage :=
  if pool.shutdown then (pool, [])
  else
    let (topping, spawned) := pool.spawnTopUp
    let (ticked, stages) := topping.tick around (List.range topping.clients.length)
    (ticked, spawned ++ stages)

def pinged (alive : Bool) (pool : H2Pool) (slot : Nat) (rest : List Nat) : H2Pool × List H2Stage :=
  if alive then pool.tick around rest
  else
    let (spawning, spawned) := (pool.markDead slot).spawnRevive around slot
    let (ticked, stages) := spawning.tick around rest
    (ticked, spawned ++ stages)

inductive Event where
  | callStarted (around : H2Surroundings)
  | connected
  | connectFailed
  | reviveLocked (cooling : Bool)
  | reviveGaveUp
  | reviveSucceeded
  | reviveFailed
  | callDropped
  | requestFailed (slot : Nat)
  | topUpStarted
  | topUpDropped
  | ticked (around : H2Surroundings)
  | pinged (around : H2Surroundings) (alive : Bool)
  | tickDropped
  | revivalStarted
  | revivalLocked (cooling : Bool)
  | revivalSucceeded
  | revivalFailed
  | revivalDropped

inductive Moves (pool : H2Pool) : Option H2Stage → Event → H2Pool × List H2Stage → Prop where
  | callStarted (around : H2Surroundings) :
      Moves pool none (.callStarted around) (pool.enter around)
  -- An entry that is not pushed serves this request only.
  | grown : Moves pool (some .growing) .connected (pool.tryPush.1, [])
  | growFailed : Moves pool (some .growing) .connectFailed (pool, [])
  | reviveLocked (cooling : Bool) (slot : Nat) (free : pool.isReviveLocked slot = false) :
      Moves pool (some (.reviving slot .locking)) (.reviveLocked cooling)
        (if pool.isDead slot && !cooling then
          (pool.lockRevive slot, [.reviving slot .connecting])
        else (pool, []))
  | reviveGaveUp (slot : Nat) : Moves pool (some (.reviving slot .locking)) .reviveGaveUp (pool, [])
  | reviveSucceeded (slot : Nat) :
      Moves pool (some (.reviving slot .connecting)) .reviveSucceeded (pool.revived slot, [])
  | reviveFailed (slot : Nat) :
      Moves pool (some (.reviving slot .connecting)) .reviveFailed (pool.unlockRevive slot, [])
  | growDropped : Moves pool (some .growing) .callDropped (pool, [])
  | reviveDropped (slot : Nat) (stage : ReviveStage) :
      Moves pool (some (.reviving slot stage)) .callDropped
        (if stage = .connecting then pool.unlockRevive slot else pool, [])
  | requestFailed (slot : Nat) : Moves pool none (.requestFailed slot) (pool.markDead slot, [])
  | topUpStarted : Moves pool (some (.toppingUp false)) .topUpStarted pool.topUp
  | toppedUp :
      Moves pool (some (.toppingUp true)) .connected (if pool.tryPush.2 then pool.tryPush.1.topUp
        else ({ pool with topUpPending := false }, []))
  | topUpFailed :
      Moves pool (some (.toppingUp true)) .connectFailed ({ pool with topUpPending := false }, [])
  | topUpDropped (connecting : Bool) :
      Moves pool (some (.toppingUp connecting)) .topUpDropped
        ({ pool with topUpPending := false }, [])
  | ticked (around : H2Surroundings) : Moves pool none (.ticked around) (pool.startTick around)
  | pinged (around : H2Surroundings) (alive : Bool) (slot : Nat) (rest : List Nat) :
      Moves pool (some (.probing slot rest)) (.pinged around alive)
        (pool.pinged around alive slot rest)
  | tickDropped (slot : Nat) (rest : List Nat) :
      Moves pool (some (.probing slot rest)) .tickDropped (pool, [])
  | revivalStarted (slot : Nat) :
      Moves pool (some (.revival slot .spawned)) .revivalStarted
        (if pool.shutdown then (pool.clearPending slot, [])
        else (pool, [.revival slot .locking]))
  | revivalLocked (cooling : Bool) (slot : Nat) (free : pool.isReviveLocked slot = false) :
      Moves pool (some (.revival slot .locking)) (.revivalLocked cooling)
        (if pool.isDead slot && !cooling then
          (pool.lockRevive slot, [.revival slot .connecting])
        else (pool.clearPending slot, []))
  | revivalSucceeded (slot : Nat) :
      Moves pool (some (.revival slot .connecting)) .revivalSucceeded
        ((pool.revived slot).clearPending slot, [])
  | revivalFailed (slot : Nat) :
      Moves pool (some (.revival slot .connecting)) .revivalFailed
        ((pool.unlockRevive slot).clearPending slot, [])
  | revivalDropped (slot : Nat) (stage : ReviveStage) :
      Moves pool (some (.revival slot stage)) .revivalDropped
        ((if stage = .connecting then pool.unlockRevive slot
          else pool).clearPending slot, [])

end H2Pool

/-- A stage and the number of its pool. -/
structure H2Task where
  pool : Nat
  stage : H2Stage
deriving DecidableEq, Repr

structure H2Pools extends PoolRegistry H2Pool where
  pools := fun _ => {}
  tasks : List H2Task := []

namespace H2Pools

def apply (system : H2Pools) (number : Nat)
    (effect : H2Pool × List H2Stage) (others : List H2Task) : H2Pools :=
  { system with
    pools := Function.update system.pools number effect.1
    tasks := effect.2.map ({ pool := number, stage := · }) ++ others }

def ensurePool (system : H2Pools) (locationId : Int) (params : H2PoolParams) : Nat × H2Pools :=
  let ensured := system.toPoolRegistry.ensurePool locationId { params }
  (ensured.1, { system with toPoolRegistry := ensured.2 })

def drainUnused (system : H2Pools) (active : Int → Bool) : H2Pools :=
  { system with
    toPoolRegistry := system.toPoolRegistry.drainUnused H2Pool.shutDown active }

inductive Event where
  | pool (number : Nat) (stage : Option H2Stage) (event : H2Pool.Event)
  | poolEnsured (locationId : Int) (params : H2PoolParams)
  | drained (active : Int → Bool)

inductive Step : H2Pools → Event → H2Pools → Prop where
  | started (system : H2Pools) (number : Nat) {event : H2Pool.Event}
      {effect : H2Pool × List H2Stage} (made : number < system.made)
      (moves : (system.pools number).Moves none event effect) :
      Step system (.pool number none event) (system.apply number effect system.tasks)
  | moved (system : H2Pools) (number : Nat) {stage : H2Stage}
      {event : H2Pool.Event} {effect : H2Pool × List H2Stage}
      {before after : List H2Task}
      (alive : system.tasks = before ++ { pool := number, stage } :: after)
      (moves : (system.pools number).Moves (some stage) event effect) :
      Step system (.pool number (some stage) event) (system.apply number effect (before ++ after))
  | poolEnsured (system : H2Pools) (locationId : Int) (params : H2PoolParams) :
      Step system (.poolEnsured locationId params) (system.ensurePool locationId params).2
  | drained (system : H2Pools) (active : Int → Bool) :
      Step system (.drained active) (system.drainUnused active)

end H2Pools

end ReverseProxy
