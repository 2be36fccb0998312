import ReverseProxy.H1ProxyServer.Pipeline.ResponseFraming
import ReverseProxy.H1RemoteConnection.ConnectionKey
import ReverseProxy.Library.Ownership

/-!
# Upstream connections of one client connection

The workers of a client connection share a pool of upstream connections.  A
worker takes or dials one and gives it back behind a response whose end it has
seen.  Every access is one step, in any interleaving.
-/

namespace ReverseProxy

open Library Rfc7230 Http1Headers Function

/-! ## The pool -/

/-- A response that was read from a connection: what the reads of the
connection were going to see, and the reader when the response was relayed. -/
structure Exchange where
  method : Bytes
  events : List ReadEvent
  left : H1Reader

/-- `OwnedUpstream`: a connection with what its reads will see. -/
structure OwnedUpstream where
  connectionId : Nat
  disconnected : Bool := false
  response : List ReadEvent
  /-- The settings it was dialled for. -/
  dialled : UpstreamTarget
  last : Option Exchange := none

structure H1PoolHolder where
  pools : Str → List OwnedUpstream
  maxIdlePerKey : Nat

namespace H1PoolHolder

/-- A new pool; `new_local` keeps one connection per key. -/
def new (maxIdlePerKey : Nat) : H1PoolHolder := { pools := fun _ => [], maxIdlePerKey }

/-- `pools.get_mut(&key).and_then(|idle| idle.pop())`. -/
def popIdle (holder : H1PoolHolder) (key : Str) : Option (OwnedUpstream × H1PoolHolder) :=
  match (holder.pools key).getLast? with
  | none => none
  | some owned =>
    some (owned,
      { holder with
        pools := update holder.pools key (holder.pools key).dropLast })

theorem popIdle_eq_some {holder rest : H1PoolHolder} {key : Str} {owned : OwnedUpstream}
    (popped : holder.popIdle key = some (owned, rest)) :
    ∃ idle, holder.pools key = idle ++ [owned] ∧
      rest = { holder with pools := update holder.pools key idle } := by
  unfold popIdle at popped
  cases last : (holder.pools key).getLast? with
  | none => simp [last] at popped
  | some found =>
    obtain ⟨idle, whole⟩ := List.getLast?_eq_some_iff.mp last
    simp only [last, Option.some.injEq, Prod.mk.injEq] at popped
    obtain ⟨rfl, rfl⟩ := popped
    exact ⟨idle, whole, by rw [whole, List.dropLast_concat]⟩

variable [RemoteEndpoints]

def release (holder : H1PoolHolder) (target : UpstreamTarget)
    (owned : OwnedUpstream) : H1PoolHolder :=
  if owned.disconnected then holder
  else
    let key := connectionKey target
    if (holder.pools key).length < holder.maxIdlePerKey then
      { holder with
        pools := update holder.pools key (holder.pools key ++ [owned]) }
    else holder

theorem popIdle_release {holder : H1PoolHolder} {target : UpstreamTarget}
    {kept : OwnedUpstream} (live : kept.disconnected = false)
    (room : (holder.pools (connectionKey target)).length < holder.maxIdlePerKey) :
    (holder.release target kept).popIdle (connectionKey target) = some (kept, holder) := by
  simp [release, popIdle, live, room]

end H1PoolHolder

/-- `Upstream::connect_owned` can make a connection. -/
def UpstreamTarget.connects (target : UpstreamTarget) : Bool :=
  match target.protocol, target.remoteHost with
  | .h1, _ => true
  | .mcpH1, _ => true
  | .udsH1, .direct _ => true
  | _, _ => false

/-- The response delimits itself and nothing behind it was read. -/
def isReusable (contentLength : HttpContentLength) (left : H1Reader) (disconnected : Bool) : Bool :=
  (match contentLength with
    | .known _ => true
    | .chunked => true
    | .none => false) &&
  left.buffer.contents.isEmpty && !disconnected

/-! ## Workers -/

inductive WorkerState where
  | idle
  /-- In the loop of `acquire`. -/
  | acquiring (target : UpstreamTarget)
  | dialling (target : UpstreamTarget)
  | holding (target : UpstreamTarget) (owned : OwnedUpstream) (reused : Bool)

def WorkerState.owned : WorkerState → Option OwnedUpstream
  | holding _ owned _ => some owned
  | _ => none

structure PoolState (ω : Type) where
  holder : H1PoolHolder
  workers : ω → WorkerState
  /-- The next of the connection ids, which the process shares. -/
  nextId : Nat
  /-- The settings workers have come with. -/
  targets : List UpstreamTarget

def PoolState.new {ω : Type} (maxIdlePerKey nextId : Nat) : PoolState ω :=
  { holder := .new maxIdlePerKey
    workers := fun _ => .idle
    nextId
    targets := [] }

inductive PoolLabel (ω : Type) where
  | start (worker : ω) (target : UpstreamTarget)
  | skip (worker : ω)
  | reuse (worker : ω)
  | miss (worker : ω)
  | dial (worker : ω) (connectionId : Nat) (response : List ReadEvent)
  | fail (worker : ω)
  | disconnect (worker : ω)
  | finish (worker : ω) (request : WorkerRequest)

section

variable {ω : Type} [DecidableEq ω] [SliceOfU8Ext] [StrUtils] [Platform] [RemoteEndpoints]

inductive PoolStep : PoolState ω → PoolLabel ω → PoolState ω → Prop where
  | start {state : PoolState ω} {worker : ω} {target : UpstreamTarget}
      (idle : state.workers worker = .idle) :
      PoolStep state (.start worker target)
        { state with
          workers := update state.workers worker (.acquiring target)
          targets := target :: state.targets }
  /-- A connection that died in the pool is dropped. -/
  | skip {state : PoolState ω} {worker : ω} {target : UpstreamTarget}
      {owned : OwnedUpstream} {holder : H1PoolHolder}
      (acquiring : state.workers worker = .acquiring target)
      (popped : state.holder.popIdle (connectionKey target) =
        some (owned, holder)) (dead : owned.disconnected = true) :
      PoolStep state (.skip worker) { state with holder }
  | reuse {state : PoolState ω} {worker : ω} {target : UpstreamTarget}
      {owned : OwnedUpstream} {holder : H1PoolHolder}
      (acquiring : state.workers worker = .acquiring target)
      (popped : state.holder.popIdle (connectionKey target) =
        some (owned, holder)) (live : owned.disconnected = false) :
      PoolStep state (.reuse worker)
        { state with
          holder
          workers := update state.workers worker (.holding target owned true) }
  | miss {state : PoolState ω} {worker : ω} {target : UpstreamTarget}
      (acquiring : state.workers worker = .acquiring target)
      (none : state.holder.popIdle (connectionKey target) = none) :
      PoolStep state (.miss worker)
        { state with
          workers := update state.workers worker (.dialling target) }
  /-- Ids between the two were given to connections of other clients. -/
  | dial {state : PoolState ω} {worker : ω} {target : UpstreamTarget}
      {connectionId : Nat} {response : List ReadEvent}
      (dialling : state.workers worker = .dialling target)
      (connects : target.connects = true)
      (fresh : state.nextId ≤ connectionId) :
      PoolStep state (.dial worker connectionId response)
        { state with
          workers := update state.workers worker
            (.holding target { connectionId, response, dialled := target } false)
          nextId := connectionId + 1 }
  /-- The connection, or the attempt to make one, is given up. -/
  | fail {state : PoolState ω} {worker : ω} :
      PoolStep state (.fail worker)
        { state with
          workers := update state.workers worker .idle }
  | disconnect {state : PoolState ω} {worker : ω} {target : UpstreamTarget}
      {owned : OwnedUpstream} {reused : Bool}
      (holding : state.workers worker = .holding target owned reused) :
      PoolStep state (.disconnect worker)
        { state with
          workers := update state.workers worker
            (.holding target { owned with disconnected := true } reused) }
  /-- The response was relayed; the connection is kept if it is reusable. -/
  | finish {state : PoolState ω} {worker : ω} {target : UpstreamTarget}
      {owned : OwnedUpstream} {reused : Bool} {request : WorkerRequest}
      {response : UpstreamResponse} {tx sent : ResponseSender}
      {left : H1Reader} {count : Nat}
      (holding : state.workers worker = .holding target owned reused)
      (settings : request.upstream.proxyPassTo.target = some target)
      (read : readResponseHead request owned.response = .ret (.responded, some response))
      (noUpgrade : response.compiled.webSocketUpgrade = false)
      (relayed : response.reader.transferBody tx response.contentLength =
        .ret (left, sent, .ok count)) :
      PoolStep state (.finish worker request)
        { state with
          holder :=
            if isReusable response.contentLength left owned.disconnected then
              state.holder.release target
                { owned with
                  response := left.events
                  last := some
                    { method := requestMethod request.upstream.head
                      events := owned.response
                      left } }
            else state.holder
          workers := update state.workers worker .idle }

end

end ReverseProxy
