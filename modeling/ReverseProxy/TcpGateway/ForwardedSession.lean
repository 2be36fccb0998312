import ReverseProxy.Library.Runs
import ReverseProxy.TcpGateway.GatewayContracts

/-!
# Forwarded connections of a gateway session

The peer that opens a connection keeps a handler with a receive buffer, the other
peer a forwarded connection with a read loop and a raw writer.  Frames arrive in
the order in which they were queued.

Locks make each packet handler one step.  The tasks of a connection interleave
with the handlers of both peers.
-/

namespace ReverseProxy

open Library Function

inductive Peer where
  | server
  | client
deriving DecidableEq, Repr

namespace Peer

def other : Peer → Peer
  | server => client
  | client => server

@[simp]
theorem other_other (peer : Peer) : peer.other.other = peer := by
  cases peer <;> rfl

@[simp]
theorem other_ne (peer : Peer) : peer.other ≠ peer := by
  cases peer <;> decide

@[simp]
theorem ne_other (peer : Peer) : peer ≠ peer.other := (other_ne peer).symm

theorem eq_or_eq_other (peer reference : Peer) : peer = reference ∨ peer = reference.other := by
  cases peer <;> cases reference <;> decide

end Peer

/-- A contract on its way, with the peer that opened the connection it is
about.  The receiver sees the contract only. -/
structure SentFrame where
  contract : TcpGatewayContract
  opener : Peer
deriving DecidableEq, Repr

/-- `TcpGatewayProxyForwardedConnectionStatus` of a registered handler.  The
status `Disconnected` is only given to a handler that has left the map. -/
inductive ProxyStatus where
  | acknowledgingConnection
  | connected
deriving DecidableEq, Repr

def ProxyStatus.setConnected : ProxyStatus → ProxyStatus
  | acknowledgingConnection => connected
  | connected => connected

/-- How far the peer of the opener is with a connection.  It is in the map of
forwarded connections while it is `registered`. -/
inductive ForwardStage where
  | absent
  | connecting
  | acknowledged
  | started
  | registered
  | removed
deriving DecidableEq, Repr

/-- The stages before the connection gets into the map. -/
def ForwardStage.Early : ForwardStage → Prop
  | absent | connecting | acknowledged | started => True
  | registered | removed => False

def writeChannelCapacity : Nat := 1024

/-- `raw_write_loop` with its channel: the octets in the buffer were received
from the channel, the written ones have reached the remote service. -/
structure RawWriter where
  queue : List Bytes := []
  buffer : Bytes := []
  written : Bytes := []
  isConnected : Bool := true
deriving DecidableEq, Repr

namespace RawWriter

def accepts (raw : RawWriter) : Bool := raw.isConnected && raw.queue.length < writeChannelCapacity

def disconnect (raw : RawWriter) : RawWriter := { raw with isConnected := false }

/-- The octets handed to the writer that it has not discarded. -/
def taken (raw : RawWriter) : Bytes := raw.written ++ (raw.buffer ++ raw.queue.flatten)

end RawWriter

/-- A connection.  The fields up to `sent` belong to the opener, the others to
its peer. -/
structure ForwardedConnection where
  handler : Option ProxyStatus := none
  receiveBuffer : Bytes := []
  disconnected : Bool := false
  hasStream : Bool := false
  cleansUp : Bool := false
  /-- What the consumer has read from its stream. -/
  consumed : Bytes := []
  /-- What the consumer has written to its stream without an error. -/
  sent : Bytes := []
  stage : ForwardStage := .absent
  reading : Bool := false
  failed : Bool := false
  /-- A chunk between the look into the map and the queue. -/
  chunk : Bytes := []
  raw : RawWriter := {}
  /-- What the read loop has read from the remote service. -/
  produced : Bytes := []
deriving DecidableEq, Repr

namespace ForwardedConnection

variable (connection : ForwardedConnection)

/-- A new handler takes the place of the opener's part. -/
def openHandler : ForwardedConnection :=
  { connection with
    handler := some .acknowledgingConnection
    receiveBuffer := []
    disconnected := false
    hasStream := false
    cleansUp := false
    consumed := []
    sent := [] }

/-- The opener's part of `disconnect_forward_proxy_connection`. -/
def dropHandler : ForwardedConnection :=
  match connection.handler with
  | none => connection
  | some _ => { connection with handler := none, disconnected := true }

/-- The other part of `disconnect_forward_proxy_connection`. -/
def dropForward : ForwardedConnection :=
  if connection.stage = .registered then
    { connection with stage := .removed, raw := connection.raw.disconnect }
  else connection

def removeForward : ForwardedConnection :=
  if connection.stage = .registered then { connection with stage := .removed }
  else connection

def notifyAccepted : ForwardedConnection :=
  { connection with handler := connection.handler.map .setConnected }

def incomingPayload (payload : Bytes) :
    ForwardedConnection :=
  if connection.handler = some .connected then
    { connection with receiveBuffer := connection.receiveBuffer ++ payload }
  else connection

/-- A chunk the read loop has read is dropped unless the connection is in the
map. -/
def readChunk (payload : Bytes) :
    ForwardedConnection :=
  { connection with
    produced := connection.produced ++ payload
    chunk := if connection.stage = .registered then payload else [] }

end ForwardedConnection

/-- The writer of one peer: its channel and the frames that have left it. -/
structure Outgoing where
  queue : List SentFrame := []
  wire : List SentFrame := []
  isConnected : Bool := true
deriving DecidableEq, Repr

namespace Outgoing

variable (outgoing : Outgoing)

def accepts : Bool :=
  outgoing.isConnected && outgoing.queue.length < writeChannelCapacity

/-- `try_send`. -/
def sendPayload (frame : SentFrame) : Outgoing :=
  if outgoing.accepts then
    { outgoing with queue := outgoing.queue ++ [frame] }
  else outgoing

/-- The write loop receives the frame in front from the channel. -/
def take (frame : SentFrame) : Outgoing :=
  { outgoing with
    queue := outgoing.queue.tail
    wire := outgoing.wire ++ [frame] }

def popWire : Outgoing := { outgoing with wire := outgoing.wire.tail }

/-- The frames that have not been handled yet, the oldest in front. -/
def pending : List SentFrame := outgoing.wire ++ outgoing.queue

theorem sendPayload_pending (frame : SentFrame) :
    (outgoing.sendPayload frame).pending =
      outgoing.pending ++ if outgoing.accepts then [frame] else [] := by
  unfold sendPayload pending
  split <;> simp

@[simp]
theorem sendPayload_isConnected (frame : SentFrame) :
    (outgoing.sendPayload frame).isConnected = outgoing.isConnected := by
  unfold sendPayload
  split <;> rfl

theorem take_pending {outgoing : Outgoing} {frame : SentFrame}
    {rest : List SentFrame} (queued : outgoing.queue = frame :: rest) :
    (outgoing.take frame).pending = outgoing.pending := by
  simp [pending, take, queued]

@[simp]
theorem popWire_isConnected :
    outgoing.popWire.isConnected = outgoing.isConnected :=
  rfl

theorem pending_of_arrived {outgoing : Outgoing} {frame : SentFrame}
    {rest : List SentFrame} (arrived : outgoing.wire = frame :: rest) :
    outgoing.pending = frame :: outgoing.popWire.pending := by
  simp [pending, popWire, arrived]

end Outgoing

structure GatewaySession where
  outgoing : Peer → Outgoing := fun _ => {}
  connections : Peer → UInt32 → ForwardedConnection := fun _ _ => {}
  nextConnectionId : Peer → Nat := fun _ => 0
  /-- `allow_incoming_forward_connection` of the client. -/
  allowsIncoming : Bool := true

namespace GatewaySession

def setOutgoing (session : GatewaySession) (peer : Peer) (outgoing : Outgoing) : GatewaySession :=
  { session with outgoing := update session.outgoing peer outgoing }

def sendPayload (session : GatewaySession) (peer : Peer) (frame : SentFrame) :
    GatewaySession :=
  session.setOutgoing peer ((session.outgoing peer).sendPayload frame)

/-- `get_next_connection_id`. -/
def drawConnectionId (session : GatewaySession) (peer : Peer) :
    GatewaySession :=
  { session with
    nextConnectionId := update session.nextConnectionId peer
      (session.nextConnectionId peer + 1) }

def modify (session : GatewaySession) (opener : Peer) (id : UInt32)
    (change : ForwardedConnection → ForwardedConnection) : GatewaySession :=
  { session with
    connections := update session.connections opener
      (update (session.connections opener) id (change (session.connections opener id))) }

section Lookups

variable (session : GatewaySession) (peer opener : Peer) (id : UInt32)
  (outgoing : Outgoing) (frame : SentFrame)
  (change : ForwardedConnection → ForwardedConnection)

@[simp]
theorem setOutgoing_connections :
    (session.setOutgoing peer outgoing).connections = session.connections :=
  rfl

@[simp]
theorem setOutgoing_outgoing :
    (session.setOutgoing peer outgoing).outgoing =
      update session.outgoing peer outgoing :=
  rfl

@[simp]
theorem modify_outgoing : (session.modify opener id change).outgoing = session.outgoing :=
  rfl

@[simp]
theorem modify_nextConnectionId :
    (session.modify opener id change).nextConnectionId =
      session.nextConnectionId :=
  rfl

@[simp]
theorem modify_connections_self :
    (session.modify opener id change).connections opener id =
      change (session.connections opener id) := by
  simp [modify]

theorem modify_connections_of_ne {session : GatewaySession}
    {peer opener : Peer} {number id : UInt32}
    {change : ForwardedConnection → ForwardedConnection}
    (different : ¬(peer = opener ∧ number = id)) :
    (session.modify opener id change).connections peer number =
      session.connections peer number := by
  unfold modify
  by_cases samePeer : peer = opener
  · subst samePeer
    have sameId : number ≠ id := fun same => different ⟨rfl, same⟩
    simp [sameId]
  · simp [samePeer]

end Lookups

/-- `connect_to_forward_proxy_connection` up to the acknowledgement.  A handler
registered under the same number is overwritten. -/
def openConnection (session : GatewaySession) (peer : Peer)
    (timeout : Duration) (remoteHost : Str) : GatewaySession :=
  ((session.drawConnectionId peer).modify peer
      (UInt32.ofNat (session.nextConnectionId peer)) .openHandler).sendPayload peer
    { contract := .connect (UInt32.ofNat (session.nextConnectionId peer))
        timeout remoteHost
      opener := peer }

/-- `send_connection_error` at the peer of the opener. -/
def sendConnectionError (session : GatewaySession) (opener : Peer)
    (id : UInt32) (error : Str) (sendForce : Bool) : GatewaySession :=
  if sendForce ∨ (session.connections opener id).stage = .registered then
    (session.modify opener id .removeForward).sendPayload opener.other
      { contract := .connectionError id error, opener }
  else session.modify opener id .removeForward

/-- `handle_forward_connect` up to the connection attempt.  Until the counter
wraps, an id is requested once, so that no other attempt for it is under way. -/
def handleForwardConnect (session : GatewaySession) (opener : Peer)
    (id : UInt32) : GatewaySession :=
  match (session.connections opener id).stage with
  | .registered =>
    session.sendConnectionError opener id
      ("Attempt to establish client forward connection is fail. ".toList ++
        "ConnectionId ".toList ++ (toString id.toNat).toList ++
        " is already has a connection".toList)
      true
  | .absent => session.modify opener id ({ · with stage := .connecting })
  | _ => session

/-- `forward_payload` at the peer of the opener. -/
def forwardPayload (session : GatewaySession) (opener : Peer) (id : UInt32)
    (payload : Bytes) : GatewaySession :=
  if (session.connections opener id).stage = .registered then
    if (session.connections opener id).raw.accepts then
      session.modify opener id fun connection =>
        { connection with raw.queue := connection.raw.queue ++ [payload] }
    else
      (session.modify opener id fun connection =>
          { connection with raw := connection.raw.disconnect }
        ).sendConnectionError opener id "Disconnected".toList false
  else session

/-- `handle_packet` of the peer that receives a frame.  The other contracts do
not concern forwarded connections. -/
def handlePacket (session : GatewaySession) (sender : Peer) :
    TcpGatewayContract → GatewaySession
  | .connect id _ _ =>
    if sender = .server ∧ !session.allowsIncoming then
      session.sendConnectionError sender id
        "Forward connections are disabled this way to gateway".toList true
    else session.handleForwardConnect sender id
  | .connected id => session.modify sender.other id .notifyAccepted
  | .connectionError id _ =>
    (session.modify sender.other id .dropHandler).modify sender id .dropForward
  | .forwardPayload id payload => session.forwardPayload sender id payload
  | .backwardPayload id payload =>
    session.modify sender.other id (·.incomingPayload payload)
  | _ => session

/-- Frames of the handlers and tasks that are not about forwarded connections:
pings, files and certificates. -/
def Unrelated : TcpGatewayContract → Prop
  | .connect .. | .connected _ | .connectionError .. | .forwardPayload ..
  | .backwardPayload .. => False
  | _ => True

/-- What happens next.  The peer of an event about a connection is the one that
opened it. -/
inductive Event where
  | idDrawnElsewhere (peer : Peer)
  | opened (peer : Peer) (timeout : Duration) (remoteHost : Str)
  | acknowledged (opener : Peer) (id : UInt32)
  | gaveUp (opener : Peer) (id : UInt32)
  | consumerWrote (opener : Peer) (id : UInt32) (payload : Bytes)
  | consumerRead (opener : Peer) (id : UInt32) (limit : Nat)
  | consumerClosed (opener : Peer) (id : UInt32)
  | cleanedUp (opener : Peer) (id : UInt32)
  | connectFailed (opener : Peer) (id : UInt32) (error : Str)
  | connectSucceeded (opener : Peer) (id : UInt32)
  | readLoopStarted (opener : Peer) (id : UInt32)
  | forwardRegistered (opener : Peer) (id : UInt32)
  | chunkRead (opener : Peer) (id : UInt32) (payload : Bytes)
  | chunkSent (opener : Peer) (id : UInt32)
  | readFailed (opener : Peer) (id : UInt32)
  | readLoopEnded (opener : Peer) (id : UInt32) (error : Str)
  | rawReceived (opener : Peer) (id : UInt32)
  | rawWritten (opener : Peer) (id : UInt32) (count : Nat)
  | rawStopped (opener : Peer) (id : UInt32)
  | rawFailed (opener : Peer) (id : UInt32)
  | unrelatedQueued (peer : Peer) (contract : TcpGatewayContract)
  | frameTaken (peer : Peer)
  | frameHandled (sender : Peer)
  | gatewayDisconnected (peer : Peer)

/-- Ids are drawn from a counter of the peer that other sessions share. -/
inductive Step : GatewaySession → Event → GatewaySession → Prop where
  | idDrawnElsewhere (session : GatewaySession) (peer : Peer) :
      Step session (.idDrawnElsewhere peer) (session.drawConnectionId peer)
  | opened (session : GatewaySession) (peer : Peer) (timeout : Duration)
      (remoteHost : Str) :
      Step session (.opened peer timeout remoteHost)
        (session.openConnection peer timeout remoteHost)
  | acknowledged (session : GatewaySession) (opener : Peer) (id : UInt32)
      (connected : (session.connections opener id).handler = some .connected) :
      Step session (.acknowledged opener id)
        (session.modify opener id ({ · with hasStream := true }))
  -- `ack_connection` fails when the session is lost; the handler is removed.
  | gaveUp (session : GatewaySession) (opener : Peer) (id : UInt32)
      (noStream : (session.connections opener id).hasStream = false)
      (lost : (session.outgoing opener).isConnected = false) :
      Step session (.gaveUp opener id) (session.modify opener id ({ · with handler := none }))
  -- A write that finds the queue full or closed is an error to the consumer.
  | consumerWrote (session : GatewaySession) (opener : Peer) (id : UInt32) (payload : Bytes)
      (stream : (session.connections opener id).hasStream = true)
      (accepts : (session.outgoing opener).accepts = true) :
      Step session (.consumerWrote opener id payload) ((session.modify opener id fun connection =>
            { connection with sent := connection.sent ++ payload }).sendPayload
          opener { contract := .forwardPayload id payload, opener })
  | consumerRead (session : GatewaySession) (opener : Peer) (id : UInt32) (limit : Nat)
      (stream : (session.connections opener id).hasStream = true)
      (connected : (session.connections opener id).disconnected = false) :
      Step session (.consumerRead opener id limit) (session.modify opener id fun connection =>
          { connection with
            consumed := connection.consumed ++ connection.receiveBuffer.take limit
            receiveBuffer := connection.receiveBuffer.drop limit })
  | consumerClosed (session : GatewaySession) (opener : Peer) (id : UInt32)
      (stream : (session.connections opener id).hasStream = true)
      (connected : (session.connections opener id).disconnected = false) :
      Step session (.consumerClosed opener id) ((session.modify opener id
            ({ · with disconnected := true, cleansUp := true })).sendPayload
          opener { contract := .connectionError id [], opener })
  | cleanedUp (session : GatewaySession) (opener : Peer) (id : UInt32)
      (cleansUp : (session.connections opener id).cleansUp = true) :
      Step session (.cleanedUp opener id) (session.modify opener id
          ({ · with handler := none, cleansUp := false }))
  | connectFailed (session : GatewaySession) (opener : Peer) (id : UInt32) (error : Str)
      (connecting : (session.connections opener id).stage = .connecting) :
      Step session (.connectFailed opener id error)
        ((session.modify opener id ({ · with stage := .removed })
          ).sendConnectionError opener id error true)
  -- The acknowledgement is queued first; whether the queue took it is ignored.
  | connectSucceeded (session : GatewaySession) (opener : Peer) (id : UInt32)
      (connecting : (session.connections opener id).stage = .connecting) :
      Step session (.connectSucceeded opener id) ((session.modify opener id
            ({ · with stage := .acknowledged, raw := {} })).sendPayload
          opener.other { contract := .connected id, opener })
  | readLoopStarted (session : GatewaySession) (opener : Peer) (id : UInt32)
      (acknowledged : (session.connections opener id).stage = .acknowledged) :
      Step session (.readLoopStarted opener id) (session.modify opener id
          ({ · with stage := .started, reading := true }))
  | forwardRegistered (session : GatewaySession) (opener : Peer) (id : UInt32)
      (started : (session.connections opener id).stage = .started) :
      Step session (.forwardRegistered opener id)
        (session.modify opener id ({ · with stage := .registered }))
  | chunkRead (session : GatewaySession) (opener : Peer) (id : UInt32) (payload : Bytes)
      (reading : (session.connections opener id).reading = true)
      (works : (session.connections opener id).failed = false)
      (nothing : (session.connections opener id).chunk = [])
      (nonempty : payload ≠ []) :
      Step session (.chunkRead opener id payload) (session.modify opener id (·.readChunk payload))
  -- Whether the queue took the chunk is ignored.
  | chunkSent (session : GatewaySession) (opener : Peer) (id : UInt32)
      (some : (session.connections opener id).chunk ≠ []) :
      Step session (.chunkSent opener id)
        ((session.modify opener id ({ · with chunk := [] })).sendPayload opener.other
          { contract := .backwardPayload id
              (session.connections opener id).chunk
            opener })
  | readFailed (session : GatewaySession) (opener : Peer) (id : UInt32)
      (reading : (session.connections opener id).reading = true)
      (nothing : (session.connections opener id).chunk = []) :
      Step session (.readFailed opener id) (session.modify opener id fun connection =>
          { connection with
            failed := true
            raw := connection.raw.disconnect })
  | readLoopEnded (session : GatewaySession) (opener : Peer) (id : UInt32) (error : Str)
      (reading : (session.connections opener id).reading = true)
      (nothing : (session.connections opener id).chunk = []) :
      Step session (.readLoopEnded opener id error)
        ((session.modify opener id ({ · with reading := false })
          ).sendConnectionError opener id error false)
  | rawReceived (session : GatewaySession) (opener : Peer) (id : UInt32)
      {payload : Bytes} {rest : List Bytes}
      (queued : (session.connections opener id).raw.queue = payload :: rest) :
      Step session (.rawReceived opener id) (session.modify opener id fun connection =>
          { connection with
            raw.queue := rest
            raw.buffer := connection.raw.buffer ++ payload })
  | rawWritten (session : GatewaySession) (opener : Peer) (id : UInt32) (count : Nat) :
      Step session (.rawWritten opener id count) (session.modify opener id fun connection =>
          { connection with
            raw.written := connection.raw.written ++ connection.raw.buffer.take count
            raw.buffer := connection.raw.buffer.drop count })
  -- When the channel is closed, what is left in the buffer is dropped.
  | rawStopped (session : GatewaySession) (opener : Peer) (id : UInt32)
      (closed : (session.connections opener id).raw.isConnected = false)
      (drained : (session.connections opener id).raw.queue = []) :
      Step session (.rawStopped opener id) (session.modify opener id ({ · with raw.buffer := [] }))
  | rawFailed (session : GatewaySession) (opener : Peer) (id : UInt32)
      (runs : (session.connections opener id).stage ≠ .absent ∧
        (session.connections opener id).stage ≠ .connecting) :
      Step session (.rawFailed opener id)
        (session.modify opener id ({ · with
          raw.queue := [], raw.buffer := [], raw.isConnected := false }))
  | unrelatedQueued (session : GatewaySession) (peer : Peer)
      (contract : TcpGatewayContract) (unrelated : Unrelated contract) :
      Step session (.unrelatedQueued peer contract)
        (session.sendPayload peer { contract, opener := peer })
  | frameTaken (session : GatewaySession) (peer : Peer) {frame : SentFrame} {rest : List SentFrame}
      (queued : (session.outgoing peer).queue = frame :: rest) :
      Step session (.frameTaken peer)
        (session.setOutgoing peer ((session.outgoing peer).take frame))
  | frameHandled (session : GatewaySession) (sender : Peer)
      {frame : SentFrame} {rest : List SentFrame}
      (arrived : (session.outgoing sender).wire = frame :: rest) :
      Step session (.frameHandled sender) ((session.setOutgoing sender
            (session.outgoing sender).popWire).handlePacket sender
          frame.contract)
  | gatewayDisconnected (session : GatewaySession) (peer : Peer) :
      Step session (.gatewayDisconnected peer) (session.setOutgoing peer
          { session.outgoing peer with isConnected := false })

end GatewaySession

end ReverseProxy
