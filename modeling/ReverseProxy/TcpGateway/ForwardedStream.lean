import ReverseProxy.TcpGateway.ForwardedSession

/-!
# The byte streams of forwarded connections

In both directions the octets read at one end are a prefix of those produced at
the other, as long as no id is drawn twice, the connection is registered before its first
chunk arrives and its queue has room for every chunk.
-/

namespace ReverseProxy

open Library Outgoing Function Run List

/-! ## Frames of one connection -/

/-- The frames towards the opener that matter to its handler. -/
def isBackward (id : UInt32) : TcpGatewayContract → Bool
  | .connected number => number = id
  | .backwardPayload number _ => number = id
  | _ => false

def backward (id : UInt32) (frames : List SentFrame) :
    List TcpGatewayContract :=
  (frames.map (·.contract)).filter (isBackward id)

def forwardOctets (id : UInt32) : TcpGatewayContract → Bytes
  | .forwardPayload number payload => if number = id then payload else []
  | _ => []

def forward (id : UInt32) (frames : List SentFrame) : Bytes :=
  frames.flatMap fun frame => forwardOctets id frame.contract

@[simp]
theorem backward_append (id : UInt32) (left right : List SentFrame) :
    backward id (left ++ right) = backward id left ++ backward id right := by
  simp [backward]

theorem backward_cons (id : UInt32) (frame : SentFrame) (frames : List SentFrame) :
    backward id (frame :: frames) = backward id [frame] ++ backward id frames :=
  backward_append id [frame] frames

@[simp]
theorem forward_append (id : UInt32) (left right : List SentFrame) :
    forward id (left ++ right) = forward id left ++ forward id right := by
  simp [forward]

theorem forward_cons (id : UInt32) (frame : SentFrame) (frames : List SentFrame) :
    forward id (frame :: frames) = forward id [frame] ++ forward id frames :=
  forward_append id [frame] frames

/-- The status of a handler once these frames have been handled. -/
def statusAfter : Option ProxyStatus → List TcpGatewayContract → Option ProxyStatus
  | status, [] => status
  | status, .connected _ :: rest =>
    statusAfter (status.map .setConnected) rest
  | status, _ :: rest => statusAfter status rest

/-- What a handler with this status takes of a payload. -/
def acceptedOf (status : Option ProxyStatus) (payload : Bytes) : Bytes :=
  if status = some .connected then payload else []

/-- The payload a handler takes from these frames. -/
def arriving : Option ProxyStatus → List TcpGatewayContract → Bytes
  | _, [] => []
  | status, .connected _ :: rest => arriving (status.map .setConnected) rest
  | status, .backwardPayload _ payload :: rest =>
    acceptedOf status payload ++ arriving status rest
  | status, _ :: rest => arriving status rest

@[simp]
theorem statusAfter_none (frames : List TcpGatewayContract) : statusAfter none frames = none := by
  induction frames with
  | nil => rfl
  | cons frame frames ih =>
    cases frame <;> simpa [statusAfter] using ih

@[simp]
theorem arriving_none (frames : List TcpGatewayContract) : arriving none frames = [] := by
  induction frames with
  | nil => rfl
  | cons frame frames ih =>
    cases frame <;> simpa [arriving, acceptedOf] using ih

section

variable (status : Option ProxyStatus) (frames : List TcpGatewayContract)

theorem statusAfter_backwardPayload (id : UInt32) (payload : Bytes) :
    statusAfter status (frames ++ [.backwardPayload id payload]) =
      statusAfter status frames := by
  induction frames generalizing status with
  | nil => rfl
  | cons frame frames ih =>
    cases frame <;> exact ih _

theorem arriving_backwardPayload (id : UInt32) (payload : Bytes) :
    arriving status (frames ++ [.backwardPayload id payload]) =
      arriving status frames ++ acceptedOf (statusAfter status frames) payload := by
  induction frames generalizing status with
  | nil => simp [arriving, statusAfter]
  | cons frame frames ih =>
    cases frame <;>
      simp only [cons_append, arriving, statusAfter, ih, append_assoc]

end

namespace RawWriter

theorem taken_received {raw : RawWriter} {payload : Bytes}
    {rest : List Bytes} (queued : raw.queue = payload :: rest) :
    { raw with queue := rest, buffer := raw.buffer ++ payload }.taken =
      raw.taken := by
  simp [taken, queued]

theorem taken_written (raw : RawWriter) (count : Nat) :
    { raw with
      written := raw.written ++ raw.buffer.take count
      buffer := raw.buffer.drop count }.taken = raw.taken := by
  simp only [taken, append_assoc]
  rw [← append_assoc (raw.buffer.take count), take_append_drop]

end RawWriter

namespace ForwardedConnection

/-- What has reached the opener. -/
def received (connection : ForwardedConnection) : Bytes :=
  connection.consumed ++ connection.receiveBuffer

/-- How a connection fits the frames on their way: the frames towards the
opener, whether its peer can still queue some, and the octets towards the
remote service. -/
structure Flows (connection : ForwardedConnection)
    (backwards : List TcpGatewayContract) (open_ : Bool) (forwards : Bytes) :
    Prop where
  /-- Before the acknowledgement there is nothing on the way to the opener. -/
  unread : connection.stage = .absent ∨ connection.stage = .connecting →
    backwards = [] ∧ connection.produced = [] ∧ connection.received = [] ∧ connection.chunk = []
  readingStage : connection.reading = true →
    connection.stage = .started ∨ connection.stage = .registered ∨ connection.stage = .removed
  delivered : connection.received ++ arriving connection.handler backwards <+: connection.produced
  /-- While further payload can arrive, nothing is missing before it. -/
  next : statusAfter connection.handler backwards = some .connected →
    open_ = true →
      connection.received ++ arriving connection.handler backwards ++
          connection.chunk <+: connection.produced ∧
        (connection.stage ≠ .removed →
          connection.received ++ arriving connection.handler backwards ++
            connection.chunk = connection.produced)
  untaken : connection.stage.Early → connection.raw.taken = []
  taken : connection.raw.taken <+: connection.sent
  /-- While further payload is handed on, nothing is missing before it. -/
  handsOn : connection.stage.Early ∨
      connection.stage = .registered ∧ connection.raw.isConnected = true →
    connection.raw.taken ++ forwards = connection.sent

/-- A connection whose id has not been drawn. -/
structure Unopened (connection : ForwardedConnection) : Prop where
  stage : connection.stage = .absent
  handler : connection.handler = none
  hasStream : connection.hasStream = false
  sent : connection.sent = []

namespace Unopened

variable {connection : ForwardedConnection}

variable (unopened : connection.Unopened)

include unopened

theorem early : connection.stage.Early := by
  rw [unopened.stage]
  trivial

theorem elim {stage : ForwardStage} {goal : Prop}
    (reached : connection.stage = stage) (later : stage ≠ .absent) : goal :=
  absurd (reached.symm.trans unopened.stage) later

theorem dropHandler :
    connection.dropHandler.Unopened := by
  unfold ForwardedConnection.dropHandler
  rw [unopened.handler]
  exact unopened

theorem dropForward :
    connection.dropForward.Unopened := by
  rw [ForwardedConnection.dropForward, if_neg (by simp [unopened.stage])]
  exact unopened

theorem removeForward :
    connection.removeForward.Unopened := by
  rw [ForwardedConnection.removeForward, if_neg (by simp [unopened.stage])]
  exact unopened

theorem notifyAccepted :
    connection.notifyAccepted.Unopened := by
  refine { unopened with handler := ?_ }
  simp [ForwardedConnection.notifyAccepted, unopened.handler]

theorem incomingPayload (payload : Bytes) :
    (connection.incomingPayload payload).Unopened := by
  rw [ForwardedConnection.incomingPayload, if_neg (by simp [unopened.handler])]
  exact unopened

end Unopened

namespace Flows

variable {connection : ForwardedConnection}
  {backwards : List TcpGatewayContract} {open_ : Bool} {forwards : Bytes}

section

variable (flows : connection.Flows backwards open_ forwards)

include flows

theorem mono {stillOpen : Bool} (was : stillOpen = true → open_ = true) :
    connection.Flows backwards stillOpen forwards :=
  { flows with
    next := fun connected isOpen => flows.next connected (was isOpen) }

theorem withoutHandler :
    { connection with handler := none }.Flows backwards open_ forwards := by
  refine { flows with delivered := ?_, next := ?_ }
  · rw [arriving_none, append_nil]
    exact (prefix_append _ _).trans flows.delivered
  · intro connected
    simp at connected

theorem dropHandler :
    connection.dropHandler.Flows backwards open_ forwards := by
  unfold ForwardedConnection.dropHandler
  split
  · exact flows
  · exact { flows.withoutHandler with }

theorem disconnectRaw :
    { connection with raw := connection.raw.disconnect }.Flows backwards open_
      forwards := by
  refine { flows with handsOn := ?_ }
  rintro (early | ⟨_, connected⟩)
  · exact flows.handsOn (.inl early)
  · simp [RawWriter.disconnect] at connected

/-- A connection that leaves the map, or never gets there, takes no more. -/
theorem withStageRemoved :
    { connection with stage := .removed }.Flows backwards open_ forwards where
  unread := by simp
  readingStage _ := by simp
  delivered := flows.delivered
  next connected isOpen := by
    exact ⟨(flows.next connected isOpen).1, fun other => absurd rfl other⟩
  untaken early := early.elim
  taken := flows.taken
  handsOn := by
    rintro (early | ⟨registered, _⟩)
    · exact early.elim
    · simp at registered

theorem removeForward :
    connection.removeForward.Flows backwards open_ forwards := by
  unfold ForwardedConnection.removeForward
  split
  · exact flows.withStageRemoved
  · exact flows

theorem dropForward :
    connection.dropForward.Flows backwards open_ forwards := by
  unfold ForwardedConnection.dropForward
  split
  · exact flows.disconnectRaw.withStageRemoved
  · exact flows

/-- A connection that is not in the map yet comes nearer to it. -/
theorem proceed (early : connection.stage.Early) {stage : ForwardStage} {reading : Bool}
    (unread : stage = .absent ∨ stage = .connecting →
      connection.stage = .absent ∨ connection.stage = .connecting)
    (readingStage : reading = true → stage = .started ∨ stage = .registered ∨ stage = .removed) :
    { connection with stage, reading }.Flows backwards open_ forwards where
  unread before := flows.unread (unread before)
  readingStage
  delivered := flows.delivered
  next connected isOpen := by
    have before := flows.next connected isOpen
    refine ⟨before.1, fun _ => before.2 ?_⟩
    intro removed
    rw [removed] at early
    exact early
  untaken _ := flows.untaken early
  taken := flows.taken
  handsOn _ := flows.handsOn (.inl early)

/-- Nothing was on the way before the id was drawn. -/
theorem opened (unopened : connection.Unopened) :
    connection.openHandler.Flows backwards open_ forwards := by
  obtain ⟨nothing, unproduced, _, noChunk⟩ := flows.unread (.inl unopened.stage)
  have untaken := flows.untaken unopened.early
  have unsent := flows.handsOn (.inl unopened.early)
  rw [unopened.sent, untaken, nil_append] at unsent
  subst nothing unsent
  refine { flows with unread := ?_, delivered := ?_, next := ?_, taken := ?_, handsOn := ?_ }
  all_goals simp [ForwardedConnection.openHandler, received, arriving, statusAfter, unproduced,
    noChunk, untaken]

/-- A chunk of a connection that is in the map, or has left it, comes behind
everything before. -/
theorem readChunk (payload : Bytes) (nothing : connection.chunk = [])
    (stage : connection.stage = .registered ∨ connection.stage = .removed) :
    (connection.readChunk payload).Flows backwards open_ forwards := by
  refine { flows with unread := ?_, delivered := ?_, next := ?_ }
  · intro before
    rcases stage with stage | stage <;>
      simp [ForwardedConnection.readChunk, stage] at before
  · exact flows.delivered.trans (prefix_append _ _)
  · intro connected isOpen
    have before := flows.next connected isOpen
    rw [nothing, append_nil] at before
    rcases stage with stage | stage
    · have whole := before.2 (by simp [stage])
      have now : connection.received ++ arriving connection.handler backwards
          ++ (connection.readChunk payload).chunk = connection.produced ++ payload := by
        simp [ForwardedConnection.readChunk, stage, whole]
      exact ⟨now ▸ prefix_rfl, fun _ => now⟩
    constructor
    · simp only [ForwardedConnection.readChunk, stage]
      rw [if_neg (by decide), append_nil]
      exact before.1.trans (prefix_append _ _)
    · intro other
      exact absurd stage other

theorem consume (limit : Nat) :
    { connection with
      consumed := connection.consumed ++ connection.receiveBuffer.take limit
      receiveBuffer := connection.receiveBuffer.drop limit }.Flows backwards
        open_ forwards := by
  have same : { connection with
      consumed := connection.consumed ++ connection.receiveBuffer.take limit
      receiveBuffer := connection.receiveBuffer.drop limit }.received =
        connection.received := by
    simp [received]
  refine { flows with unread := ?_, delivered := ?_, next := ?_ }
  · rw [same]
    exact flows.unread
  · rw [same]
    exact flows.delivered
  · rw [same]
    exact flows.next

/-- The raw writer moves what it has taken, or drops the end of it once it
takes nothing more. -/
theorem withRaw (raw : RawWriter) (shorter : raw.taken <+: connection.raw.taken)
    (whole : raw.isConnected = true → connection.raw.isConnected = true ∧
      raw.taken = connection.raw.taken) :
    { connection with raw }.Flows backwards open_ forwards where
  unread := flows.unread
  readingStage := flows.readingStage
  delivered := flows.delivered
  next := flows.next
  untaken early := by
    have before := flows.untaken early
    rw [before] at shorter
    exact prefix_nil.mp shorter
  taken := shorter.trans flows.taken
  handsOn := by
    rintro (early | ⟨registered, connected⟩)
    · have before := flows.untaken early
      have now : raw.taken = [] := by
        rw [before] at shorter
        exact prefix_nil.mp shorter
      have all := flows.handsOn (.inl early)
      rw [before] at all
      rw [now]
      exact all
    · rw [(whole connected).2]
      exact flows.handsOn (.inr ⟨registered, (whole connected).1⟩)

end

/-! ### Frames -/

theorem acknowledge {id : UInt32}
    (flows : connection.Flows (.connected id :: backwards) open_ forwards) :
    connection.notifyAccepted.Flows backwards open_ forwards :=
  { flows with
    unread := fun before => absurd (flows.unread before).1 (by simp) }

theorem arrive {id : UInt32} {payload : Bytes}
    (flows : connection.Flows (.backwardPayload id payload :: backwards) open_ forwards) :
    (connection.incomingPayload payload).Flows backwards open_ forwards := by
  have notBefore : ¬(connection.stage = .absent ∨ connection.stage = .connecting) :=
    fun before => absurd (flows.unread before).1 (by simp)
  unfold ForwardedConnection.incomingPayload
  by_cases connected : connection.handler = some .connected
  · rw [if_pos connected]
    have same : { connection with
          receiveBuffer := connection.receiveBuffer ++ payload }.received ++
            arriving connection.handler backwards =
        connection.received ++ arriving connection.handler
          (.backwardPayload id payload :: backwards) := by
      simp [received, arriving, acceptedOf, connected]
    refine { flows with
      unread := fun before => absurd before notBefore
      delivered := ?_
      next := ?_ }
    · rw [same]
      exact flows.delivered
    · rw [same]
      exact flows.next
  · rw [if_neg connected]
    have same : arriving connection.handler (.backwardPayload id payload :: backwards) =
        arriving connection.handler backwards := by
      simp [arriving, acceptedOf, connected]
    refine { flows with
      unread := fun before => absurd before notBefore
      delivered := same ▸ flows.delivered
      next := ?_ }
    have before := flows.next
    rw [same] at before
    exact before

theorem handOn {payload : Bytes} (flows : connection.Flows backwards open_ (payload ++ forwards))
    (registered : connection.stage = .registered)
    (connected : connection.raw.isConnected = true) :
    { connection with
      raw.queue := connection.raw.queue ++ [payload] }.Flows backwards open_
        forwards := by
  have all := flows.handsOn (.inr ⟨registered, connected⟩)
  have grown : { connection.raw with
      queue := connection.raw.queue ++ [payload] }.taken = connection.raw.taken ++ payload := by
    simp [RawWriter.taken]
  refine { flows with untaken := ?_, taken := ?_, handsOn := ?_ }
  · intro early
    rw [registered] at early
    exact early.elim
  · rw [grown, ← all, ← append_assoc]
    exact prefix_append _ _
  · intro _
    rw [grown, append_assoc]
    exact all

/-- Payload that is not handed on is the last that could be. -/
theorem discard {payload : Bytes} (flows : connection.Flows backwards open_ (payload ++ forwards))
    (late : ¬connection.stage.Early)
    (stopped : connection.stage = .registered → connection.raw.isConnected = false) :
    connection.Flows backwards open_ forwards := by
  refine { flows with handsOn := ?_ }
  rintro (early | ⟨registered, connected⟩)
  · exact absurd early late
  · rw [stopped registered] at connected
    exact absurd connected (by decide)

theorem write (flows : connection.Flows backwards open_ forwards) (payload : Bytes) :
    { connection with sent := connection.sent ++ payload }.Flows backwards
      open_ (forwards ++ payload) := by
  refine { flows with taken := ?_, handsOn := ?_ }
  · exact flows.taken.trans (prefix_append _ _)
  · intro takes
    rw [← append_assoc, flows.handsOn takes]

/-- A connection attempt succeeds; the acknowledgement is on its way or lost. -/
theorem succeed (flows : connection.Flows backwards open_ forwards)
    (connecting : connection.stage = .connecting)
    {acknowledgement : List TcpGatewayContract}
    (noPayload : ∀ status, arriving status acknowledgement = []) :
    { connection with stage := .acknowledged, raw := {} }.Flows
      (backwards ++ acknowledgement) open_ forwards := by
  obtain ⟨nothing, unproduced, unreceived, noChunk⟩ := flows.unread (.inr connecting)
  have early : connection.stage.Early := by
    simp [connecting, ForwardStage.Early]
  have whole := flows.handsOn (.inl early)
  rw [flows.untaken early] at whole
  have empty : connection.received ++ arriving connection.handler
      (backwards ++ acknowledgement) = connection.produced := by
    rw [nothing, nil_append, noPayload, unreceived, unproduced]
    rfl
  constructor
  · simp
  · intro reading
    have stage := flows.readingStage reading
    simp [connecting] at stage
  · exact empty ▸ prefix_rfl
  · intro _ _
    have now : connection.received ++ arriving connection.handler
        (backwards ++ acknowledgement) ++ connection.chunk =
          connection.produced := by
      rw [empty, noChunk, append_nil]
    exact ⟨now ▸ prefix_rfl, fun _ => now⟩
  · intro _
    rfl
  · exact nil_prefix
  · intro _
    exact whole

theorem sendChunk (flows : connection.Flows backwards true forwards)
    (id : UInt32) (some : connection.chunk ≠ []) :
    { connection with chunk := [] }.Flows (backwards ++
        [TcpGatewayContract.backwardPayload id connection.chunk])
      true forwards := by
  have notBefore : ¬(connection.stage = .absent ∨ connection.stage = .connecting) :=
    fun before => absurd (flows.unread before).2.2.2 some
  have arrives := arriving_backwardPayload connection.handler backwards id connection.chunk
  refine { flows with
    unread := fun before => absurd before notBefore
    delivered := ?_
    next := ?_ }
  · change connection.received ++ arriving connection.handler _ <+: _
    rw [arrives, acceptedOf, ← append_assoc]
    split
    case isTrue connected => exact (flows.next connected rfl).1
    case isFalse _ =>
      rw [append_nil]
      exact flows.delivered
  · intro connected _
    change statusAfter connection.handler _ = _ at connected
    rw [statusAfter_backwardPayload] at connected
    have before := flows.next connected rfl
    have same : connection.received ++ arriving connection.handler (backwards
          ++ [.backwardPayload id connection.chunk]) ++ [] =
        connection.received ++ arriving connection.handler backwards ++
          connection.chunk := by
      rw [arrives, acceptedOf, if_pos connected, append_nil, append_assoc]
    change connection.received ++ arriving connection.handler _ ++ [] <+: _ ∧
      (_ → connection.received ++ arriving connection.handler _ ++ [] = _)
    rw [same]
    exact before

theorem loseChunk (flows : connection.Flows backwards false forwards)
    (some : connection.chunk ≠ []) :
    { connection with chunk := [] }.Flows backwards false forwards := by
  refine { flows with unread := ?_, next := ?_ }
  · intro before
    exact absurd (flows.unread before).2.2.2 some
  · intro _ isOpen
    exact absurd isOpen (by decide)

end Flows

end ForwardedConnection

/-! ## Sessions -/

namespace GatewaySession

structure InOrder (session : GatewaySession) : Prop where
  flows : ∀ opener id, (session.connections opener id).Flows
    (backward id (session.outgoing opener.other).pending)
    (session.outgoing opener.other).isConnected
    (forward id (session.outgoing opener).pending)
  unopened : ∀ peer id, session.nextConnectionId peer ≤ id.toNat →
    (session.connections peer id).Unopened
  /-- A connection is requested by the peer that has drawn its id. -/
  requested : ∀ peer, ∀ frame ∈ (session.outgoing peer).pending,
    ∀ id timeout remoteHost,
      frame.contract = .connect id timeout remoteHost → id.toNat < session.nextConnectionId peer

namespace InOrder

variable {session : GatewaySession} {opener peer : Peer} {id : UInt32}
  {change : ForwardedConnection → ForwardedConnection} {outgoing : Outgoing}

section

variable (ordered : session.InOrder)

include ordered

theorem update (backwards : ∀ number, ¬(peer = opener.other ∧ number = id) →
      backward number outgoing.pending = backward number (session.outgoing peer).pending)
    (forwards : ∀ number, ¬(peer = opener ∧ number = id) →
      forward number outgoing.pending = forward number (session.outgoing peer).pending)
    (connected : outgoing.isConnected = true → (session.outgoing peer).isConnected = true)
    (requested : ∀ frame ∈ outgoing.pending, ∀ id timeout remoteHost,
      frame.contract = .connect id timeout remoteHost → id.toNat < session.nextConnectionId peer)
    (unopened : session.nextConnectionId opener ≤ id.toNat →
      (session.connections opener id).Unopened → (change (session.connections opener id)).Unopened)
    (flows : (change (session.connections opener id)).Flows
      (backward id ((session.setOutgoing peer outgoing).outgoing opener.other).pending)
      ((session.setOutgoing peer outgoing).outgoing opener.other).isConnected
      (forward id ((session.setOutgoing peer outgoing).outgoing opener).pending)) :
    ((session.setOutgoing peer outgoing).modify opener id change).InOrder where
  flows := by
    intro other number
    by_cases same : other = opener ∧ number = id
    · obtain ⟨rfl, rfl⟩ := same
      rw [modify_connections_self]
      exact flows
    rw [modify_connections_of_ne same]
    have before := ordered.flows other number
    have sameBackwards : backward number ((session.setOutgoing peer
          outgoing).outgoing other.other).pending =
        backward number (session.outgoing other.other).pending := by
      by_cases here : other.other = peer
      · subst here
        rw [setOutgoing_outgoing, update_self]
        apply backwards
        rintro ⟨samePeer, sameId⟩
        refine same ⟨?_, sameId⟩
        simpa using congrArg Peer.other samePeer
      · rw [setOutgoing_outgoing, update_of_ne here]
    have sameForwards : forward number ((session.setOutgoing peer
          outgoing).outgoing other).pending =
        forward number (session.outgoing other).pending := by
      by_cases here : other = peer
      · subst here
        rw [setOutgoing_outgoing, update_self]
        exact forwards number same
      · rw [setOutgoing_outgoing, update_of_ne here]
    rw [modify_outgoing, sameBackwards, sameForwards]
    refine before.mono ?_
    by_cases here : other.other = peer
    · subst here
      rw [setOutgoing_outgoing, update_self]
      exact connected
    · rw [setOutgoing_outgoing, update_of_ne here]
      exact fun isConnected => isConnected
  unopened := by
    intro other number notDrawn
    by_cases same : other = opener ∧ number = id
    · obtain ⟨rfl, rfl⟩ := same
      rw [modify_connections_self]
      exact unopened notDrawn (ordered.unopened other number notDrawn)
    · rw [modify_connections_of_ne same]
      exact ordered.unopened other number notDrawn
  requested := by
    intro other frame member
    rw [modify_outgoing, setOutgoing_outgoing] at member
    by_cases here : other = peer
    · subst here
      rw [update_self] at member
      exact requested frame member
    · rw [update_of_ne here] at member
      exact ordered.requested other frame member

theorem modify (unopened : session.nextConnectionId opener ≤ id.toNat →
      (session.connections opener id).Unopened → (change (session.connections opener id)).Unopened)
    (flows : ∀ {backwards isOpen forwards},
      (session.connections opener id).Flows backwards isOpen forwards →
        (change (session.connections opener id)).Flows backwards isOpen forwards) :
    (session.modify opener id change).InOrder := by
  have same : session.setOutgoing opener (session.outgoing opener) =
      session := by
    simp [setOutgoing]
  rw [← same]
  refine ordered.update (fun _ _ => rfl) (fun _ _ => rfl) (fun now => now)
    (ordered.requested opener) unopened ?_
  rw [same]
  exact flows (ordered.flows opener id)

theorem modifyRaw {raw : ForwardedConnection → RawWriter}
    (shorter : (raw (session.connections opener id)).taken <+:
      (session.connections opener id).raw.taken)
    (whole : (raw (session.connections opener id)).isConnected = true →
      (session.connections opener id).raw.isConnected = true ∧
        (raw (session.connections opener id)).taken = (session.connections opener id).raw.taken) :
    (session.modify opener id fun connection =>
      { connection with raw := raw connection }).InOrder :=
  ordered.modify (fun _ unopened => { unopened with }) fun flows => flows.withRaw _ shorter whole

/-- A queue whose changes do not matter to any connection. -/
theorem setOutgoing (backwards : ∀ number, backward number outgoing.pending =
      backward number (session.outgoing peer).pending)
    (forwards : ∀ number, forward number outgoing.pending =
      forward number (session.outgoing peer).pending)
    (connected : outgoing.isConnected = true → (session.outgoing peer).isConnected = true)
    (requested : ∀ frame ∈ outgoing.pending, ∀ id timeout remoteHost,
      frame.contract = .connect id timeout remoteHost → id.toNat < session.nextConnectionId peer) :
    (session.setOutgoing peer outgoing).InOrder := by
  have updated : ((session.setOutgoing peer outgoing).modify peer 0
      fun connection => connection).InOrder := by
    refine ordered.update (fun number _ => backwards number)
      (fun number _ => forwards number) connected requested
      (fun _ unopened => unopened) ?_
    have before := ordered.flows peer 0
    rw [setOutgoing_outgoing, update_self, forwards,
      update_of_ne (Peer.other_ne peer)]
    exact before
  have same : ((session.setOutgoing peer outgoing).modify peer 0
      fun connection => connection) = session.setOutgoing peer outgoing := by
    simp [GatewaySession.modify, GatewaySession.setOutgoing]
  rwa [same] at updated

/-- Connect requests, errors and frames about other things. -/
theorem sendPayload {frame : SentFrame} (notBackward : ∀ id, isBackward id frame.contract = false)
    (notForward : ∀ id, forwardOctets id frame.contract = []) (requested : ∀ id timeout remoteHost,
      frame.contract = .connect id timeout remoteHost → id.toNat < session.nextConnectionId peer) :
    (session.sendPayload peer frame).InOrder := by
  refine ordered.setOutgoing ?_ ?_ ?_ ?_
  · intro number
    rw [sendPayload_pending]
    split <;> simp [backward, notBackward]
  · intro number
    rw [sendPayload_pending]
    split <;> simp [forward, notForward]
  · rw [sendPayload_isConnected]
    exact fun now => now
  · intro other member
    rw [sendPayload_pending] at member
    rcases mem_append.mp member with old | new
    · exact ordered.requested peer other old
    split at new
    · rw [mem_singleton.mp new]
      exact requested
    · simp at new

theorem sendConnectionError (error : Str) (sendForce : Bool) :
    (session.sendConnectionError opener id error sendForce).InOrder := by
  have removed : (session.modify opener id .removeForward).InOrder :=
    ordered.modify (fun _ => .removeForward) .removeForward
  unfold GatewaySession.sendConnectionError
  split
  · exact removed.sendPayload (fun _ => rfl) (fun _ => rfl) (by simp)
  · exact removed

end

section Handling

variable {sender : Peer} {frame : SentFrame} {rest : List SentFrame}

variable (ordered : session.InOrder)

include ordered

/-- A frame is handled by changing the one connection it is for. -/
theorem handle (arrived : (session.outgoing sender).wire = frame :: rest)
    (backwards : ∀ number, ¬(sender = opener.other ∧ number = id) → backward number [frame] = [])
    (forwards : ∀ number, ¬(sender = opener ∧ number = id) → forward number [frame] = [])
    (unopened : session.nextConnectionId opener ≤ id.toNat →
      (session.connections opener id).Unopened → (change (session.connections opener id)).Unopened)
    (flows : ∀ {back isOpen forth},
      (session.connections opener id).Flows
        ((if sender = opener.other then backward id [frame] else []) ++ back) isOpen
        ((if sender = opener then forward id [frame] else []) ++ forth) →
      (change (session.connections opener id)).Flows back isOpen forth) :
    ((session.setOutgoing sender (session.outgoing sender).popWire).modify opener id
        change).InOrder := by
  have pending := pending_of_arrived arrived
  refine ordered.update ?_ ?_ (fun now => now) ?_ unopened (flows ?_)
  · intro number other
    rw [pending, backward_cons, backwards number other, nil_append]
  · intro number other
    rw [pending, forward_cons, forwards number other, nil_append]
  · intro other member
    apply ordered.requested sender other
    rw [pending]
    exact mem_cons_of_mem frame member
  · have before := ordered.flows opener id
    rcases Peer.eq_or_eq_other sender opener with rfl | rfl
    · rw [pending, forward_cons] at before
      simpa using before
    · rw [pending, backward_cons] at before
      simpa using before

theorem skip (arrived : (session.outgoing sender).wire = frame :: rest)
    (notBackward : ∀ id, isBackward id frame.contract = false)
    (notForward : ∀ id, forwardOctets id frame.contract = []) :
    (session.setOutgoing sender (session.outgoing sender).popWire).InOrder := by
  have pending := pending_of_arrived arrived
  refine ordered.setOutgoing ?_ ?_ (fun now => now) ?_
  · intro number
    rw [pending]
    simp [backward, notBackward]
  · intro number
    rw [pending]
    simp [forward, notForward]
  · intro other member
    apply ordered.requested sender other
    rw [pending]
    exact mem_cons_of_mem frame member

theorem handleForwardConnect (drawn : id.toNat < session.nextConnectionId opener) :
    (session.handleForwardConnect opener id).InOrder := by
  unfold GatewaySession.handleForwardConnect
  split
  case h_1 => exact ordered.sendConnectionError _ _
  case h_2 absent =>
    refine ordered.modify (fun notDrawn => absurd drawn (by omega)) ?_
    intro back isOpen forth flows
    refine flows.proceed (by simp [absent, ForwardStage.Early]) (fun _ => .inl absent) ?_
    intro reading
    have stage := flows.readingStage reading
    simp [absent] at stage
  case h_3 => exact ordered

theorem handleConnectionError :
    ((session.modify sender.other id .dropHandler).modify sender id .dropForward).InOrder := by
  have withoutHandler : (session.modify sender.other id .dropHandler).InOrder :=
    ordered.modify (fun _ => .dropHandler) .dropHandler
  exact withoutHandler.modify (fun _ => .dropForward) .dropForward

/-- Payload for the remote service, once the connection has been registered. -/
theorem handleForwardPayload {payload : Bytes}
    (arrived : (session.outgoing sender).wire = frame :: rest)
    (carries : frame.contract = .forwardPayload id payload)
    (late : ¬(session.connections sender id).stage.Early) :
    ((session.setOutgoing sender (session.outgoing sender).popWire
      ).forwardPayload sender id payload).InOrder := by
  have notBackward : ∀ number, backward number [frame] = [] := by
    simp [backward, carries, isBackward]
  have toOther : ∀ number, ¬(sender = sender ∧ number = id) → forward number [frame] = [] := by
    intro number other
    have different : id ≠ number := fun same => other ⟨rfl, same.symm⟩
    simp [forward, carries, forwardOctets, different]
  have carried : forward id [frame] = payload := by
    simp [forward, carries, forwardOctets]
  have drawn : ¬(session.connections sender id).Unopened := fun unopened => late unopened.early
  unfold GatewaySession.forwardPayload
  rw [setOutgoing_connections]
  by_cases registered : (session.connections sender id).stage = .registered
  · rw [if_pos registered]
    by_cases accepts : (session.connections sender id).raw.accepts = true
    · rw [if_pos accepts]
      refine ordered.handle arrived (fun number _ => notBackward number)
        toOther (fun _ unopened => absurd unopened drawn) ?_
      intro back isOpen forth flows
      have isConnected : (session.connections sender id).raw.isConnected =
          true := by
        simp only [RawWriter.accepts, Bool.and_eq_true] at accepts
        exact accepts.1
      rw [if_neg (Peer.ne_other sender), if_pos rfl, carried, nil_append] at flows
      exact flows.handOn registered isConnected
    · rw [if_neg accepts]
      apply InOrder.sendConnectionError
      refine ordered.handle arrived (fun number _ => notBackward number)
        toOther (fun _ unopened => absurd unopened drawn) ?_
      intro back isOpen forth flows
      rw [if_neg (Peer.ne_other sender), if_pos rfl, carried, nil_append] at flows
      exact flows.disconnectRaw.discard late (fun _ => rfl)
  · rw [if_neg registered]
    have same : ((session.setOutgoing sender (session.outgoing sender).popWire).modify sender id
            fun connection => connection) =
        session.setOutgoing sender (session.outgoing sender).popWire := by
      simp [GatewaySession.modify, GatewaySession.setOutgoing]
    rw [← same]
    refine ordered.handle arrived (fun number _ => notBackward number)
      toOther (fun _ unopened => unopened) ?_
    intro back isOpen forth flows
    rw [if_neg (Peer.ne_other sender), if_pos rfl, carried, nil_append] at flows
    exact flows.discard late (fun now => absurd now registered)

theorem handleBackward (arrived : (session.outgoing sender).wire = frame :: rest)
    (notForward : ∀ number, forwardOctets number frame.contract = [])
    (only : ∀ number, number ≠ id → isBackward number frame.contract = false)
    (concerns : isBackward id frame.contract = true)
    (unopened : (session.connections sender.other id).Unopened →
      (change (session.connections sender.other id)).Unopened)
    (flows : ∀ {back isOpen forth},
      (session.connections sender.other id).Flows (frame.contract :: back) isOpen forth →
      (change (session.connections sender.other id)).Flows back isOpen forth) :
    ((session.setOutgoing sender (session.outgoing sender).popWire
      ).modify sender.other id change).InOrder := by
  refine ordered.handle arrived ?_ ?_ (fun _ => unopened) ?_
  · intro number other
    have different : number ≠ id := fun same => other ⟨by simp, same⟩
    simp [backward, only number different]
  · simp [forward, notForward]
  · intro back isOpen forth before
    apply flows
    simpa [backward, concerns, Peer.ne_other] using before

theorem handlePacket (arrived : (session.outgoing sender).wire = frame :: rest)
    (late : ∀ id payload, frame.contract = .forwardPayload id payload →
      ¬(session.connections sender id).stage.Early) :
    ((session.setOutgoing sender (session.outgoing sender).popWire
      ).handlePacket sender frame.contract).InOrder := by
  cases carries : frame.contract with
  | connect id timeout remoteHost =>
    have skipped := ordered.skip arrived (by simp [carries, isBackward])
      (by simp [carries, forwardOctets])
    have drawn := ordered.requested sender frame
      (by simp [pending, arrived]) id timeout remoteHost carries
    rw [GatewaySession.handlePacket]
    split
    · exact skipped.sendConnectionError _ _
    · exact skipped.handleForwardConnect drawn
  | connected id =>
    refine ordered.handleBackward arrived (by simp [carries, forwardOctets])
      ?_ (by simp [carries, isBackward]) ?_ ?_
    · intro number different
      simp [carries, isBackward, Ne.symm different]
    · exact ForwardedConnection.Unopened.notifyAccepted
    · intro back isOpen forth flows
      rw [carries] at flows
      exact flows.acknowledge
  | connectionError id error =>
    exact (ordered.skip arrived (by simp [carries, isBackward])
      (by simp [carries, forwardOctets])).handleConnectionError
  | forwardPayload id payload =>
    exact ordered.handleForwardPayload arrived carries (late id payload carries)
  | backwardPayload id payload =>
    refine ordered.handleBackward arrived (by simp [carries, forwardOctets])
      ?_ (by simp [carries, isBackward]) ?_ ?_
    · intro number different
      simp [carries, isBackward, Ne.symm different]
    · exact fun unopened => unopened.incomingPayload payload
    · intro back isOpen forth flows
      rw [carries] at flows
      exact flows.arrive
  | _ =>
    exact ordered.skip arrived (by simp [carries, isBackward]) (by simp [carries, forwardOctets])

end Handling

/-! ### Steps -/

theorem drawConnectionId (ordered : session.InOrder) (peer : Peer) :
    (session.drawConnectionId peer).InOrder := by
  have later : ∀ other, session.nextConnectionId other ≤
      (session.drawConnectionId peer).nextConnectionId other := by
    intro other
    by_cases same : other = peer
    · subst same
      simp [GatewaySession.drawConnectionId]
    · simp [GatewaySession.drawConnectionId, same]
  refine ⟨ordered.flows, ?_, ?_⟩
  · intro other number notDrawn
    exact ordered.unopened other number ((later other).trans notDrawn)
  · intro other frame member number timeout remoteHost carries
    exact (ordered.requested other frame member number timeout remoteHost
      carries).trans_le (later other)

theorem openConnection (ordered : session.InOrder) (timeout : Duration)
    (remoteHost : Str) (inRange : session.nextConnectionId peer < 2 ^ 32) :
    (session.openConnection peer timeout remoteHost).InOrder := by
  have number : (UInt32.ofNat (session.nextConnectionId peer)).toNat =
      session.nextConnectionId peer := UInt32.toNat_ofNat_of_lt' inRange
  have drawn : (session.drawConnectionId peer).nextConnectionId peer =
      session.nextConnectionId peer + 1 := by
    simp [GatewaySession.drawConnectionId]
  have unopened := ordered.unopened peer (UInt32.ofNat (session.nextConnectionId peer)) number.ge
  apply InOrder.sendPayload
  · refine (ordered.drawConnectionId peer).modify ?_ ?_
    · intro notDrawn
      omega
    · exact fun flows => flows.opened unopened
  · simp [isBackward]
  · simp [forwardOctets]
  · intro id otherTimeout otherHost carries
    cases carries
    rw [modify_nextConnectionId, number, drawn]
    exact Nat.lt_succ_self _

theorem send (ordered : session.InOrder) {frame : SentFrame} (noRequest : ∀ id timeout remoteHost,
      frame.contract ≠ .connect id timeout remoteHost)
    (backwards : ∀ number, ¬(peer = opener.other ∧ number = id) → backward number [frame] = [])
    (forwards : ∀ number, ¬(peer = opener ∧ number = id) → forward number [frame] = [])
    (unopened : (session.connections opener id).Unopened →
      (change (session.connections opener id)).Unopened)
    (flows : (change (session.connections opener id)).Flows
      (backward id (session.outgoing opener.other).pending ++
        if peer = opener.other ∧ (session.outgoing peer).accepts then
          backward id [frame]
        else [])
      (session.outgoing opener.other).isConnected
      (forward id (session.outgoing opener).pending ++
        if peer = opener ∧ (session.outgoing peer).accepts then
          forward id [frame]
        else [])) :
    ((session.modify opener id change).sendPayload peer frame).InOrder := by
  have pending := (session.outgoing peer).sendPayload_pending frame
  refine ordered.update ?_ ?_ ?_ ?_ (fun _ => unopened) ?_
  · intro number other
    rw [modify_outgoing, pending, backward_append]
    split
    · rw [backwards number other, append_nil]
    · exact append_nil _
  · intro number other
    rw [modify_outgoing, pending, forward_append]
    split
    · rw [forwards number other, append_nil]
    · exact append_nil _
  · rw [sendPayload_isConnected]
    exact fun now => now
  · intro other member
    rw [modify_outgoing, pending] at member
    rcases mem_append.mp member with old | new
    · exact ordered.requested peer other old
    split at new
    · rw [mem_singleton.mp new]
      intro number timeout remoteHost carries
      exact absurd carries (noRequest number timeout remoteHost)
    · simp at new
  · by_cases accepts : (session.outgoing peer).accepts = true
    all_goals
      rcases Peer.eq_or_eq_other peer opener with rfl | rfl
      all_goals simpa [pending, accepts] using flows

end InOrder

/-- The counter of ids has not wrapped around, the connection is registered
before its first chunk arrives from either side, and the queue has room for the
chunks of the remote service. -/
def KeepsOrder (session : GatewaySession) : Event → Prop
  | .opened peer _ _ => session.nextConnectionId peer < 2 ^ 32
  | .chunkRead opener id _ => (session.connections opener id).stage ≠ .started
  | .chunkSent opener _ =>
    (session.outgoing opener.other).isConnected = true →
      (session.outgoing opener.other).queue.length < writeChannelCapacity
  | .frameHandled sender =>
    ∀ frame ∈ (session.outgoing sender).wire.head?, ∀ id payload,
      frame.contract = .forwardPayload id payload → ¬(session.connections sender id).stage.Early
  | _ => True

theorem InOrder.step {session next : GatewaySession} {event : Event}
    (ordered : session.InOrder) (keeps : session.KeepsOrder event)
    (stepped : Step session event next) : next.InOrder := by
  cases stepped with
  | idDrawnElsewhere peer => exact ordered.drawConnectionId peer
  | opened peer timeout remoteHost => exact ordered.openConnection timeout remoteHost keeps
  | acknowledged opener id connected =>
    refine ordered.modify ?_ (fun flows => { flows with })
    intro _ unopened
    rw [unopened.handler] at connected
    exact absurd connected (by simp)
  | gaveUp opener id noStream lost =>
    exact ordered.modify (fun _ unopened => { unopened with handler := rfl }) .withoutHandler
  | consumerWrote opener id payload stream accepts =>
    refine ordered.send (by simp) (by simp [backward, isBackward]) ?_ ?_ ?_
    · intro number other
      have different : id ≠ number := fun same => other ⟨rfl, same.symm⟩
      simp [forward, forwardOctets, different]
    · intro unopened
      rw [unopened.hasStream] at stream
      exact absurd stream (by decide)
    · have written := (ordered.flows opener id).write payload
      simpa [accepts, forward, forwardOctets] using written
  | consumerRead opener id limit stream connected =>
    exact ordered.modify (fun _ unopened => { unopened with }) (fun flows => flows.consume limit)
  | consumerClosed opener id stream connected =>
    refine InOrder.sendPayload ?_ (fun _ => rfl) (fun _ => rfl) (by simp)
    exact ordered.modify (fun _ unopened => { unopened with }) (fun flows => { flows with })
  | cleanedUp opener id cleansUp =>
    exact ordered.modify (fun _ unopened => { unopened with handler := rfl })
      (fun flows => { flows.withoutHandler with })
  | connectFailed opener id error connecting =>
    apply InOrder.sendConnectionError
    exact ordered.modify (fun _ unopened => unopened.elim connecting (by decide)) .withStageRemoved
  | connectSucceeded opener id connecting =>
    have notForward : ¬(opener.other = opener ∧
        (session.outgoing opener.other).accepts = true) := by
      simp
    refine ordered.send (by simp) ?_ (by simp [forward, forwardOctets])
      (fun unopened => unopened.elim connecting (by decide)) ?_
    · intro number other
      have different : id ≠ number := fun same => other ⟨rfl, same.symm⟩
      simp [backward, isBackward, different]
    · rw [if_neg notForward, append_nil]
      refine (ordered.flows opener id).succeed connecting ?_
      intro status
      split <;> simp [backward, isBackward, arriving]
  | readLoopStarted opener id acknowledged =>
    refine ordered.modify (fun _ unopened => unopened.elim acknowledged (by decide)) ?_
    intro back isOpen forth flows
    exact flows.proceed (by simp [acknowledged, ForwardStage.Early]) (by simp) (by simp)
  | forwardRegistered opener id started =>
    refine ordered.modify (fun _ unopened => unopened.elim started (by decide)) ?_
    intro back isOpen forth flows
    exact flows.proceed (by simp [started, ForwardStage.Early]) (by simp) (by simp)
  | chunkRead opener id payload reading works nothing nonempty =>
    refine ordered.modify (fun _ unopened => { unopened with }) ?_
    intro back isOpen forth flows
    apply flows.readChunk payload nothing
    exact (flows.readingStage reading).resolve_left keeps
  | chunkSent opener id some =>
    have notForward : ¬(opener.other = opener ∧
        (session.outgoing opener.other).accepts = true) := by
      simp
    refine ordered.send (by simp) ?_ (by simp [forward, forwardOctets])
      (fun unopened => { unopened with }) ?_
    · intro number other
      have different : id ≠ number := fun same => other ⟨rfl, same.symm⟩
      simp [backward, isBackward, different]
    · rw [if_neg notForward, append_nil]
      have flows := ordered.flows opener id
      cases isOpen : (session.outgoing opener.other).isConnected with
      | true =>
        have accepts : (session.outgoing opener.other).accepts = true := by
          simp [accepts, isOpen, keeps isOpen]
        rw [isOpen] at flows
        rw [if_pos ⟨rfl, accepts⟩]
        simpa [backward, isBackward] using flows.sendChunk id some
      | false =>
        have refuses : (session.outgoing opener.other).accepts = false := by
          simp [accepts, isOpen]
        rw [isOpen] at flows
        rw [if_neg (by simp [refuses]), append_nil]
        exact flows.loseChunk some
  | readFailed opener id reading nothing =>
    exact ordered.modify (fun _ unopened => { unopened with })
      (fun flows => { flows.disconnectRaw with })
  | readLoopEnded opener id error reading nothing =>
    apply InOrder.sendConnectionError
    refine ordered.modify (fun _ unopened => { unopened with }) ?_
    intro back isOpen forth flows
    exact { flows with readingStage := by simp }
  | rawReceived opener id queued =>
    have same := RawWriter.taken_received queued
    exact ordered.modifyRaw (same ▸ prefix_rfl) (fun connected => ⟨connected, same⟩)
  | rawWritten opener id count =>
    have same := (session.connections opener id).raw.taken_written count
    exact ordered.modifyRaw (same ▸ prefix_rfl) (fun connected => ⟨connected, same⟩)
  | rawStopped opener id closed drained =>
    refine ordered.modifyRaw ?_ (fun connected => ?_)
    · simp [RawWriter.taken, drained]
    · exact absurd (closed.symm.trans connected) (by decide)
  | rawFailed opener id runs =>
    refine ordered.modifyRaw ?_ (fun connected => absurd connected Bool.false_ne_true)
    simp [RawWriter.taken]
  | unrelatedQueued peer contract unrelated =>
    apply ordered.sendPayload
    · cases contract <;> first | exact unrelated.elim | exact fun _ => rfl
    · cases contract <;> first | exact unrelated.elim | exact fun _ => rfl
    · rintro number timeout remoteHost rfl
      exact unrelated.elim
  | frameTaken peer queued =>
    have same := take_pending queued
    exact ordered.setOutgoing (fun _ => by rw [same]) (fun _ => by rw [same])
      (fun now => now) (same ▸ ordered.requested peer)
  | frameHandled sender arrived =>
    refine ordered.handlePacket arrived ?_
    exact keeps _ (by simp [arrived])
  | gatewayDisconnected peer =>
    refine ordered.setOutgoing (fun _ => rfl) (fun _ => rfl) ?_ (ordered.requested peer)
    exact fun connected => absurd connected Bool.false_ne_true

/-- In every run that keeps the order, what either end of a connection has read
is a prefix of what the other end has produced. -/
theorem streams_prefix_of_run {allowsIncoming : Bool} {session : GatewaySession}
    (run : Run Step KeepsOrder { allowsIncoming } session)
    (opener : Peer) (id : UInt32) :
    (session.connections opener id).consumed <+: (session.connections opener id).produced ∧
      (session.connections opener id).raw.written <+: (session.connections opener id).sent := by
  have ordered : session.InOrder := by
    apply run.invariant
    · constructor
      · intro opener id
        constructor <;> simp [ForwardedConnection.received, RawWriter.taken,
          pending, backward, forward]
      · exact fun _ _ _ => ⟨rfl, rfl, rfl, rfl⟩
      · simp [pending]
    · exact fun ordered keeps stepped => ordered.step keeps stepped
  have flows := ordered.flows opener id
  constructor
  · refine List.IsPrefix.trans ?_ flows.delivered
    exact (prefix_append _ _).trans (prefix_append _ _)
  · exact (prefix_append _ _).trans flows.taken

private def requested : GatewaySession :=
  let opened := ({} : GatewaySession).openConnection .client { nanos := 0 } []
  opened.setOutgoing .client ((opened.outgoing .client).take
    { contract := .connect 0 { nanos := 0 } [], opener := .client })

/-- A connection of the client whose read loop has just been started. -/
private def started : GatewaySession :=
  ((((requested.setOutgoing .client (requested.outgoing .client).popWire
    ).handlePacket .client (.connect 0 { nanos := 0 } [])).modify .client 0
      ({ · with stage := .acknowledged, raw := {} })).sendPayload .server
        { contract := .connected 0, opener := .client }).modify .client 0
          ({ · with stage := .started, reading := true })

private theorem run_started : Run Step KeepsOrder {} started := by
  have opened : Run Step KeepsOrder {} _ := step (start _)
    (by exact Nat.two_pow_pos 32) (.opened _ .client { nanos := 0 } [])
  have taken : Run Step KeepsOrder {} requested :=
    step opened (by trivial) (.frameTaken _ .client rfl)
  have connecting : Run Step KeepsOrder {} _ := step taken (by
      intro frame first id payload carries
      cases first
      cases carries)
    (.frameHandled _ .client rfl)
  have connected := step connecting (by trivial) (.connectSucceeded _ .client 0 rfl)
  exact step connected (by trivial) (.readLoopStarted _ .client 0 rfl)

private def reading (produced : Bytes) : ForwardedConnection :=
  { handler := some .acknowledgingConnection
    stage := .started
    reading := true
    produced }

private theorem started_reading : started.connections .client 0 = reading [] :=
  rfl

/-- What the remote service sends once the connection is registered is read by
the consumer, whatever it has sent before. -/
private theorem run_delivered (before : Bytes) :
    ∃ session, Run Step KeepsOrder (started.modify .client 0 fun _ => reading before) session ∧
      (session.connections .client 0).consumed = [1] ∧
      (session.connections .client 0).produced = before ++ [1, 2] := by
  have registered : Run Step KeepsOrder _ _ := step
    (start (started.modify .client 0 fun _ => reading before))
    (by trivial) (.forwardRegistered _ .client 0 rfl)
  have taken := step registered (by trivial) (.frameTaken _ .server rfl)
  have acknowledged : Run Step KeepsOrder _ _ := step taken (by
      intro frame first id payload carries
      cases first
      cases carries)
    (.frameHandled _ .server rfl)
  have stream := step acknowledged (by trivial) (.acknowledged _ .client 0 rfl)
  have read : Run Step KeepsOrder _ _ := step stream (by
      change ForwardStage.registered ≠ ForwardStage.started
      decide)
    (.chunkRead _ .client 0 [1, 2] rfl rfl rfl (by decide))
  have sent : Run Step KeepsOrder _ _ := step read (by
      intro _
      change 0 < 1024
      decide)
    (.chunkSent _ .client 0 (cons_ne_nil _ _))
  have arrived := step sent (by trivial) (.frameTaken _ .server rfl)
  have received : Run Step KeepsOrder _ _ := step arrived (by
      intro frame first id payload carries
      cases first
      cases carries)
    (.frameHandled _ .server rfl)
  have consumed := step received (by trivial) (.consumerRead _ .client 0 1 rfl rfl)
  exact ⟨_, consumed, rfl, rfl⟩

theorem streams_prefix_of_run_delivered :
    ∃ session, Run Step KeepsOrder {} session ∧ (session.connections .client 0).consumed = [1] ∧
      (session.connections .client 0).consumed <+: (session.connections .client 0).produced := by
  obtain ⟨session, run, consumed, _⟩ := run_delivered []
  have same : started.modify .client 0 (fun _ => reading []) = started := by
    unfold modify
    rw [← started_reading, update_eq_self, update_eq_self]
  rw [same] at run
  have whole : Run Step KeepsOrder {} session := run_started.trans run
  exact ⟨session, whole, consumed, (streams_prefix_of_run whole .client 0).1⟩

/-- A chunk that arrives before the connection is registered is lost, the next
one is delivered. -/
theorem chunk_before_registration_lost :
    ∃ session, Run Step (fun _ _ => True) {} session ∧
      (session.connections .client 0).consumed = [1] ∧
      (session.connections .client 0).produced = [0, 1, 2] := by
  obtain ⟨session, run, consumed, produced⟩ := run_delivered [0]
  have early : Run Step (fun _ _ => True) {} _ := step
    (run_started.mono fun _ => trivial) trivial
    (.chunkRead _ .client 0 [0] rfl rfl rfl (by decide))
  have same : started.modify .client 0 (·.readChunk [0]) =
      started.modify .client 0 fun _ => reading [0] := by
    unfold modify
    rw [started_reading]
    rfl
  rw [same] at early
  have whole : Run Step (fun _ _ => True) {} session := early.trans (run.mono fun _ => trivial)
  exact ⟨session, whole, consumed, produced⟩

end GatewaySession

end ReverseProxy
