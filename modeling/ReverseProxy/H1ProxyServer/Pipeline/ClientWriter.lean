import Mathlib.Logic.Relation
import ReverseProxy.H1ProxyServer.Pipeline.Reader
import ReverseProxy.Library.Channel

/-!
# The tasks of one client connection

The reader puts one response slot per request on a bounded queue, a producer
sends events into the slot, and the client writer drains one slot after the
other onto the socket.  A step is one action of one task between two awaits; a
task may stop or be dropped at any of them.

The reader of the source sends its own answers before it goes on to the next
request; the relation also lets it go on earlier.
-/

namespace ReverseProxy

open Library

inductive ResponseEvent where
  | chunk (bytes : Bytes)
  | done
  | abort
deriving DecidableEq, Repr

def responseQueueCapacity : Nat := 1

def responseChannelCapacity : Nat := 4

/-- A place in the output order: the number of its request on the connection,
what its producer still wants to send, and the channel. -/
structure ResponseSlot where
  request : Nat
  toSend : List ResponseEvent
  events : Channel ResponseEvent

/-- What the producer of a queued slot sends: the answer itself, or whatever
the worker produces. -/
def Queued.producer (templates : ErrorTemplate → Bytes) (queued : Queued)
    (workerEvents : List ResponseEvent) :
    Option (Nat × List ResponseEvent) :=
  match queued with
  | .nothing => none
  | .page (.template name) => some (2, [.chunk (templates name), .done])
  | .page (.payload content) => some (2, [.chunk content, .done])
  | .response bytes => some (2, [.chunk bytes, .done])
  | .upstream _ => some (responseChannelCapacity, workerEvents)

def ResponseSlot.fresh (request : Nat) (capacity : Nat)
    (toSend : List ResponseEvent) : ResponseSlot :=
  { request, toSend, events := { capacity } }

/-- Where `run_client_writer` stands. -/
inductive ClientWriter where
  /-- In `queue.recv()`. -/
  | waiting
  /-- In `slot.events.recv()`. -/
  | draining (slot : ResponseSlot)
  /-- In `write_all_with_timeout`, with the rest of the chunk. -/
  | writing (slot : ResponseSlot) (rest : Bytes)
  /-- Returned `None`, or was dropped, while it had a slot. -/
  | broken (slot : ResponseSlot)
  /-- Returned `Some(write_part)`, or was dropped between two slots. -/
  | finished

namespace ClientWriter

/-- The slot the writer has taken off the queue and not completed. -/
def slot : ClientWriter → Option ResponseSlot
  | waiting => none
  | draining slot => some slot
  | writing slot _ => some slot
  | broken slot => some slot
  | finished => none

/-- The receiving end of the queue still exists. -/
def isAlive : ClientWriter → Bool
  | waiting => true
  | draining _ => true
  | writing _ _ => true
  | broken _ => false
  | finished => false

end ClientWriter

structure ClientConnection where
  /-- Number of slots put on the queue so far. -/
  issued : Nat := 0
  /-- Slots the writer has completed, oldest first. -/
  completed : List ResponseSlot := []
  writer : ClientWriter := .waiting
  queue : List ResponseSlot := []
  /-- The reader holds the sending end of the queue. -/
  queueOpen : Bool := true
  /-- Bytes on the client socket. -/
  written : Bytes := []

/-- One action of the producer of a slot. -/
inductive ProducerStep : ResponseSlot → ResponseSlot → Prop where
  | send {slot : ResponseSlot} {event : ResponseEvent}
      {rest : List ResponseEvent} (next : slot.toSend = event :: rest)
      (holds : slot.events.senderOpen = true) (room : slot.events.hasRoom) :
      ProducerStep slot { slot with toSend := rest, events := slot.events.push event }
  | stop (slot : ResponseSlot) :
      ProducerStep slot { slot with toSend := [], events := slot.events.closeSender }

namespace ClientConnection

inductive Step : ClientConnection → ClientConnection → Prop where
  | pushSlot {connection : ClientConnection} {queued : Queued}
      {templates : ErrorTemplate → Bytes} {workerEvents toSend : List ResponseEvent}
      {capacity : Nat} (holds : connection.queueOpen = true)
      (alive : connection.writer.isAlive = true)
      (room : connection.queue.length < responseQueueCapacity)
      (producer : queued.producer templates workerEvents = some (capacity, toSend)) :
      Step connection
        { connection with
          issued := connection.issued + 1
          queue := connection.queue ++ [.fresh connection.issued capacity toSend] }
  | closeQueue (connection : ClientConnection) :
      Step connection { connection with queueOpen := false }
  | produceQueued {connection : ClientConnection}
      {before after : List ResponseSlot} {slot next : ResponseSlot}
      (queued : connection.queue = before ++ slot :: after)
      (produced : ProducerStep slot next) :
      Step connection { connection with queue := before ++ next :: after }
  | produceDraining {connection : ClientConnection} {slot next : ResponseSlot}
      (stands : connection.writer = .draining slot)
      (produced : ProducerStep slot next) :
      Step connection { connection with writer := .draining next }
  | produceWriting {connection : ClientConnection} {slot next : ResponseSlot}
      {rest : Bytes} (stands : connection.writer = .writing slot rest)
      (produced : ProducerStep slot next) :
      Step connection { connection with writer := .writing next rest }
  | takeSlot {connection : ClientConnection} {slot : ResponseSlot}
      {others : List ResponseSlot} (stands : connection.writer = .waiting)
      (queued : connection.queue = slot :: others) :
      Step connection { connection with writer := .draining slot, queue := others }
  | queueEnds {connection : ClientConnection}
      (stands : connection.writer = .waiting) (empty : connection.queue = [])
      (closed : connection.queueOpen = false) :
      Step connection { connection with writer := .finished }
  | receiveChunk {connection : ClientConnection} {slot : ResponseSlot}
      {bytes : Bytes} {events : Channel ResponseEvent}
      (stands : connection.writer = .draining slot)
      (received : slot.events.recv = some (.chunk bytes, events)) :
      Step connection { connection with writer := .writing { slot with events } bytes }
  | receiveDone {connection : ClientConnection} {slot : ResponseSlot}
      {events : Channel ResponseEvent}
      (stands : connection.writer = .draining slot)
      (received : slot.events.recv = some (.done, events)) :
      Step connection
        { connection with
          writer := .waiting
          completed := connection.completed ++ [{ slot with events }] }
  | receiveAbort {connection : ClientConnection} {slot : ResponseSlot}
      {events : Channel ResponseEvent}
      (stands : connection.writer = .draining slot)
      (received : slot.events.recv = some (.abort, events)) :
      Step connection { connection with writer := .broken { slot with events } }
  | slotEnds {connection : ClientConnection} {slot : ResponseSlot}
      (stands : connection.writer = .draining slot)
      (ended : slot.events.ended) :
      Step connection { connection with writer := .broken slot }
  | writeSome {connection : ClientConnection} {slot : ResponseSlot} {piece rest : Bytes}
      (stands : connection.writer = .writing slot (piece ++ rest)) :
      Step connection
        { connection with
          writer := .writing slot rest
          written := connection.written ++ piece }
  | writeReturns {connection : ClientConnection} {slot : ResponseSlot}
      (stands : connection.writer = .writing slot []) :
      Step connection { connection with writer := .draining slot }
  | writeFails {connection : ClientConnection} {slot : ResponseSlot}
      {rest : Bytes} (stands : connection.writer = .writing slot rest) :
      Step connection { connection with writer := .broken slot }
  | dropDraining {connection : ClientConnection} {slot : ResponseSlot}
      (stands : connection.writer = .draining slot) :
      Step connection { connection with writer := .broken slot }
  | dropWaiting {connection : ClientConnection} (stands : connection.writer = .waiting) :
      Step connection { connection with writer := .finished }

/-- What any interleaving of the tasks leads to. -/
abbrev Steps : ClientConnection → ClientConnection → Prop := Relation.ReflTransGen Step

/-- The slots of the connection in the order of their requests. -/
def slots (connection : ClientConnection) : List ResponseSlot :=
  connection.completed ++ connection.writer.slot.toList ++ connection.queue

end ClientConnection

end ReverseProxy
