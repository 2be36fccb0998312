import ReverseProxy.TcpGateway.ForwardedSession

/-!
# Ids of the two peers

Each peer draws ids from its own counter.  Requests, acknowledgements and payload
say by their type which peer opened the connection.  An error does not: its
receiver tears down both connections of that number.
-/

namespace ReverseProxy

open Library Run ForwardedConnection Outgoing Peer

namespace TcpGatewayContract

/-- The connection a frame is about. -/
def connectionId : TcpGatewayContract → Option UInt32
  | connect id _ _ => some id
  | connected id => some id
  | connectionError id _ => some id
  | forwardPayload id _ => some id
  | backwardPayload id _ => some id
  | _ => none

end TcpGatewayContract

namespace SentFrame

/-- The peer that opened the connection a frame of this peer is about, as far
as the type of the frame tells. -/
def FitsType (frame : SentFrame) (sender : Peer) : Prop :=
  match frame.contract with
  | .connect .. | .forwardPayload .. => frame.opener = sender
  | .connected _ | .backwardPayload .. => frame.opener = sender.other
  | _ => True

end SentFrame

namespace GatewaySession

def FramesFitType (session : GatewaySession) : Prop :=
  ∀ peer, ∀ frame ∈ (session.outgoing peer).pending, frame.FitsType peer

/-- The handling of a frame leaves every other connection as it was. -/
def TouchesOnly (session next : GatewaySession) (opener : Peer) (id : UInt32) : Prop :=
  ∀ peer number, ¬(peer = opener ∧ number = id) →
    next.connections peer number = session.connections peer number

/-- When an error arrives, the connection of the same number that the other
peer opened is not in the receiver's maps. -/
def NoTwin (session : GatewaySession) (sender : Peer) (frame : SentFrame) :
    Prop :=
  match frame.contract with
  | .connectionError id _ =>
    if frame.opener = sender then
      (session.connections sender.other id).handler = none
    else (session.connections sender id).stage ≠ .registered
  | _ => True

theorem dropHandler_eq_self_iff (connection : ForwardedConnection) :
    connection.dropHandler = connection ↔ connection.handler = none := by
  unfold dropHandler
  split
  · simp_all
  case h_2 status registered =>
    constructor
    · intro same
      have gone := congrArg handler same
      exact gone.symm
    · intro none
      rw [none] at registered
      exact absurd registered (by simp)

theorem dropForward_eq_self_iff (connection : ForwardedConnection) :
    connection.dropForward = connection ↔ connection.stage ≠ .registered := by
  unfold dropForward
  split
  case isTrue registered =>
    constructor
    · intro same
      have removed := congrArg stage same
      rw [registered] at removed
      simp at removed
    · exact fun other => absurd registered other
  case isFalse other => exact iff_of_true rfl other

variable {session next : GatewaySession} {sender opener : Peer} {id : UInt32}

theorem touchesOnly_modify (change : ForwardedConnection → ForwardedConnection) :
    session.TouchesOnly (session.modify opener id change) opener id :=
  fun _ _ different => modify_connections_of_ne different

theorem TouchesOnly.trans {middle : GatewaySession} (first : session.TouchesOnly middle opener id)
    (second : middle.TouchesOnly next opener id) :
    session.TouchesOnly next opener id :=
  fun peer number different =>
    (second peer number different).trans (first peer number different)

theorem touchesOnly_sendConnectionError (error : Str) (sendForce : Bool) :
    session.TouchesOnly (session.sendConnectionError opener id error sendForce)
      opener id := by
  intro peer number different
  unfold sendConnectionError
  split
  all_goals exact modify_connections_of_ne different

theorem touchesOnly_handleForwardConnect :
    session.TouchesOnly (session.handleForwardConnect opener id) opener id := by
  unfold handleForwardConnect
  split
  · exact touchesOnly_sendConnectionError _ _
  · exact touchesOnly_modify _
  · exact fun _ _ _ => rfl

theorem touchesOnly_forwardPayload (payload : Bytes) :
    session.TouchesOnly (session.forwardPayload opener id payload) opener
      id := by
  unfold forwardPayload
  split
  · split
    · exact touchesOnly_modify _
    · exact (touchesOnly_modify _).trans (touchesOnly_sendConnectionError _ _)
  · exact fun _ _ _ => rfl

/-- An error tears down both connections of its number. -/
theorem touchesOnly_connectionError_iff (error : Str) :
    session.TouchesOnly (session.handlePacket sender (.connectionError id error)) opener id ↔
      session.NoTwin sender { contract := .connectionError id error, opener } := by
  have ofReceiver :
      (session.handlePacket sender (.connectionError id error)).connections sender.other id =
        (session.connections sender.other id).dropHandler := by
    rw [handlePacket, modify_connections_of_ne (by simp), modify_connections_self]
  have ofSender :
      (session.handlePacket sender (.connectionError id error)).connections sender id =
        (session.connections sender id).dropForward := by
    rw [handlePacket, modify_connections_self, modify_connections_of_ne (by simp)]
  have ofOthers : ∀ peer number, number ≠ id →
      (session.handlePacket sender (.connectionError id error)
        ).connections peer number = session.connections peer number := by
    intro peer number different
    rw [handlePacket, modify_connections_of_ne (by simp [different]),
      modify_connections_of_ne (by simp [different])]
  have twin : session.TouchesOnly
        (session.handlePacket sender (.connectionError id error)) opener id ↔
      (session.handlePacket sender (.connectionError id error)).connections
        opener.other id = session.connections opener.other id := by
    constructor
    · intro touches
      exact touches opener.other id (by simp)
    · intro same peer number different
      by_cases sameId : number = id
      · subst sameId
        rcases eq_or_eq_other peer opener with rfl | rfl
        · exact absurd ⟨rfl, rfl⟩ different
        · exact same
      · exact ofOthers peer number sameId
  rw [twin]
  simp only [NoTwin]
  rcases eq_or_eq_other opener sender with rfl | rfl
  · rw [if_pos rfl, ofReceiver, dropHandler_eq_self_iff]
  · rw [if_neg (other_ne sender), other_other, ofSender, dropForward_eq_self_iff]

/-! ## The types of the frames on their way -/

section

variable (fits : session.FramesFitType)

include fits

theorem FramesFitType.setOutgoing {peer : Peer} {outgoing : Outgoing}
    (new : ∀ frame ∈ outgoing.pending, frame.FitsType peer) :
    (session.setOutgoing peer outgoing).FramesFitType := by
  intro other frame member
  rw [setOutgoing_outgoing] at member
  by_cases same : other = peer
  · subst same
    rw [Function.update_self] at member
    exact new frame member
  · rw [Function.update_of_ne same] at member
    exact fits other frame member

theorem FramesFitType.sendPayload {peer : Peer} {frame : SentFrame} (new : frame.FitsType peer) :
    (session.sendPayload peer frame).FramesFitType := by
  apply fits.setOutgoing
  intro other member
  rw [sendPayload_pending] at member
  rcases List.mem_append.mp member with old | added
  · exact fits peer other old
  split at added
  · rw [List.mem_singleton.mp added]
    exact new
  · simp at added

theorem FramesFitType.modify (change : ForwardedConnection → ForwardedConnection) :
    (session.modify opener id change).FramesFitType :=
  fits

theorem FramesFitType.sendConnectionError (error : Str) (sendForce : Bool) :
    (session.sendConnectionError opener id error sendForce).FramesFitType := by
  unfold GatewaySession.sendConnectionError
  split
  · exact (fits.modify _).sendPayload trivial
  · exact fits.modify _

theorem FramesFitType.handlePacket (contract : TcpGatewayContract) :
    (session.handlePacket sender contract).FramesFitType := by
  cases contract with
  | connect id timeout remoteHost =>
    rw [GatewaySession.handlePacket]
    split
    · exact fits.sendConnectionError _ _
    unfold handleForwardConnect
    split
    · exact fits.sendConnectionError _ _
    · exact fits.modify _
    · exact fits
  | forwardPayload id payload =>
    rw [GatewaySession.handlePacket, GatewaySession.forwardPayload]
    split
    · split
      · exact fits.modify _
      · exact (fits.modify _).sendConnectionError _ _
    · exact fits
  | _ => exact fits

theorem FramesFitType.step {event : Event}
    (stepped : Step session event next) : next.FramesFitType := by
  cases stepped with
  | opened peer timeout remoteHost =>
    exact FramesFitType.sendPayload (fits : _) rfl
  | consumerWrote opener id payload stream accepts =>
    exact (fits.modify _).sendPayload rfl
  | consumerClosed opener id stream connected =>
    exact (fits.modify _).sendPayload trivial
  | connectFailed opener id error connecting | readLoopEnded opener id error reading nothing =>
    exact (fits.modify _).sendConnectionError _ _
  | connectSucceeded opener id connecting | chunkSent opener id some =>
    exact (fits.modify _).sendPayload (other_other opener).symm
  | unrelatedQueued peer contract unrelated =>
    apply fits.sendPayload
    cases contract <;> first | exact unrelated.elim | exact trivial
  | frameTaken peer queued =>
    apply fits.setOutgoing
    rw [take_pending queued]
    exact fits peer
  | frameHandled sender arrived =>
    apply FramesFitType.handlePacket
    apply fits.setOutgoing
    intro frame member
    apply fits sender frame
    rw [pending_of_arrived arrived]
    exact List.mem_cons_of_mem _ member
  | gatewayDisconnected peer =>
    exact fits.setOutgoing (fits peer)
  | _ => exact fits

end

/-- In every run, a frame about a connection touches only the connection its
opener has opened, unless it is an error and the connection of the same number
that the other peer opened is in the maps of the receiver. -/
theorem touchesOnly_iff_noTwin {allowsIncoming : Bool}
    (run : Run Step (fun _ _ => True) { allowsIncoming } session)
    {frame : SentFrame} {rest : List SentFrame}
    (arrived : (session.outgoing sender).wire = frame :: rest)
    (about : frame.contract.connectionId = some id)
    (stepped : Step session (.frameHandled sender) next) :
    session.TouchesOnly next frame.opener id ↔
      session.NoTwin sender frame := by
  have fits : session.FramesFitType := by
    apply run.invariant
    · simp [FramesFitType, pending]
    · exact fun fits _ stepped => fits.step stepped
  have fitsType := fits sender frame (by simp [pending, arrived])
  obtain ⟨contract, opener⟩ := frame
  cases stepped with
  | frameHandled sender handled =>
    rw [arrived] at handled
    cases handled
    have before : ∀ next, session.TouchesOnly next opener id ↔
        (session.setOutgoing sender (session.outgoing sender).popWire
          ).TouchesOnly next opener id := fun _ => Iff.rfl
    rw [before]
    cases contract with
    | connect number timeout remoteHost =>
      cases about
      cases fitsType
      refine iff_of_true ?_ trivial
      rw [handlePacket]
      split
      · exact touchesOnly_sendConnectionError _ _
      · exact touchesOnly_handleForwardConnect
    | connected number =>
      cases about
      cases fitsType
      exact iff_of_true (touchesOnly_modify _) trivial
    | connectionError number error =>
      cases about
      exact touchesOnly_connectionError_iff error
    | forwardPayload number payload =>
      cases about
      cases fitsType
      exact iff_of_true (touchesOnly_forwardPayload payload) trivial
    | backwardPayload number payload =>
      cases about
      cases fitsType
      exact iff_of_true (touchesOnly_modify _) trivial
    | _ => cases about

/-- The refusal of a connection of the client, while the server has opened none
of that number. -/
theorem touchesOnly_iff_noTwin_refused :
    ∃ session next, Run Step (fun _ _ => True) {} session ∧
      Step session (.frameHandled .server) next ∧
      (session.outgoing .server).wire = [{ contract := .connectionError 0 [], opener := .client }] ∧
      session.TouchesOnly next .client 0 := by
  have opened : Run Step (fun _ _ => True) {} _ := step (start _) trivial
    (.opened _ .client { nanos := 0 } [])
  have taken := step opened trivial (.frameTaken _ .client rfl)
  have handled := step taken trivial (.frameHandled _ .client rfl)
  have failed := step handled trivial (.connectFailed _ .client 0 [] rfl)
  have refused := step failed trivial (.frameTaken _ .server rfl)
  refine ⟨_, _, refused, .frameHandled _ .server rfl, rfl, ?_⟩
  refine (touchesOnly_iff_noTwin refused rfl rfl (.frameHandled _ .server rfl)).mpr ?_
  exact ForwardStage.noConfusion

/-- The refusal of a connection of the client tears down the registered
connection of the server. -/
theorem error_tears_down_twin :
    ∃ session next, Run Step (fun _ _ => True) {} session ∧
      Step session (.frameHandled .server) next ∧
      (session.outgoing .server).wire = [{ contract := .connectionError 0 [], opener := .client }] ∧
      (session.connections .server 0).stage = .registered ∧
      (next.connections .server 0).stage = .removed := by
  have server : Run Step (fun _ _ => True) {} _ := step (start _)
    trivial (.opened _ .server { nanos := 0 } [])
  have client := step server trivial (.opened _ .client { nanos := 0 } [])
  have serverTaken := step client trivial (.frameTaken _ .server rfl)
  have serverHandled := step serverTaken trivial (.frameHandled _ .server rfl)
  have clientTaken := step serverHandled trivial (.frameTaken _ .client rfl)
  have clientHandled := step clientTaken trivial (.frameHandled _ .client rfl)
  have connected := step clientHandled trivial (.connectSucceeded _ .server 0 rfl)
  have started := step connected trivial (.readLoopStarted _ .server 0 rfl)
  have registered := step started trivial (.forwardRegistered _ .server 0 rfl)
  have failed := step registered trivial (.connectFailed _ .client 0 [] rfl)
  have refused := step failed trivial (.frameTaken _ .server rfl)
  exact ⟨_, _, refused, .frameHandled _ .server rfl, rfl, rfl, rfl⟩

end GatewaySession

end ReverseProxy
