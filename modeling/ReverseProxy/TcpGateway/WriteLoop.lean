import ReverseProxy.Library.Runs
import ReverseProxy.TcpGateway.GatewayContracts

/-!
# Writing to a gateway

Producers queue plain frames.  The writer collects them while a write is in
flight and then sends them frame by frame or as one compressed batch.  AES and
zstd enter as classes with their laws.
-/

namespace ReverseProxy

open Library

/-- AES in CBC mode with the key of a session: padding adds at least one octet
and at most a block. -/
class Aes (Key : Type) where
  encrypt : Key → Bytes → Bytes
  decrypt : Key → Bytes → Option Bytes
  decrypt_encrypt : ∀ key body, decrypt key (encrypt key body) = some body
  length_lt_encrypt : ∀ key body, body.length < (encrypt key body).length
  length_encrypt_le : ∀ key body, (encrypt key body).length ≤ body.length + 16

/-- `ZSTD_COMPRESSBOUND`: the size of a compressed text in the worst case. -/
def compressBound (size : Nat) : Nat :=
  size + size / 256 + if size < 131072 then (131072 - size) / 2048 else 0

/-- `zstd::stream` at the level of the write loop. -/
class Zstd where
  encodeAll : Bytes → Except String Bytes
  decodeAll : Bytes → Except String Bytes
  decodeAll_encodeAll : ∀ plaintext compressed,
    encodeAll plaintext = .ok compressed → decodeAll compressed = .ok plaintext
  length_encodeAll : ∀ plaintext compressed,
    encodeAll plaintext = .ok compressed → compressed.length ≤ compressBound plaintext.length

def compressionAlgoZstd : UInt8 := 0

section

variable {Key : Type} [Aes Key]

def encryptFrame (body : Bytes) (key : Key) : Bytes := frame (Aes.encrypt key body)

/-- Whatever stands behind the last whole frame is dropped. -/
def encodeIndividualFrames (plaintext : Bytes) (key : Key) : Bytes :=
  (splitFrames plaintext).1.flatMap fun body => encryptFrame body key

/-- The body of the frame around a compressed batch. -/
def batchBody (compressed : Bytes) : Bytes :=
  compressedBatchPacketId :: compressionAlgoZstd :: compressed

variable [Zstd]

/-- A batch that does not compress goes out as individual frames. -/
def encodeCompressedBatch (plaintext : Bytes) (key : Key) : Bytes :=
  match Zstd.encodeAll plaintext with
  | .ok compressed => encryptFrame (batchBody compressed) key
  | .error _ => encodeIndividualFrames plaintext key

def buildWire (plaintext : Bytes) (key : Key) (compressOutbound : Bool) :
    Bytes :=
  if compressOutbound then encodeCompressedBatch plaintext key
  else encodeIndividualFrames plaintext key

end

/-! ## The writer task -/

/-- The plain frames of contracts. -/
def plainFrames (contracts : List TcpGatewayContract) : Bytes :=
  contracts.flatMap TcpGatewayContract.toPlainFrame

/-- The writer between two turns of its loop.  `pending` names the contracts
whose frames stand in the buffer, and `flushes` those of every write. -/
structure WriteLoop where
  buffer : Bytes := []
  writing : Option Bytes := none
  written : Bytes := []
  pending : List TcpGatewayContract := []
  flushes : List (List TcpGatewayContract) := []

inductive WriteEvent where
  | received (contract : TcpGatewayContract)
  | writeFinished
deriving DecidableEq, Repr

namespace WriteLoop

/-- What was handed to the socket, the write in flight included. -/
def wire (loop : WriteLoop) : Bytes := loop.written ++ loop.writing.getD []

/-- What was taken from the queue. -/
def received (loop : WriteLoop) : List TcpGatewayContract := loop.flushes.flatten ++ loop.pending

section

variable {Key : Type} [Aes Key] [Zstd]

/-- The top of the loop: an idle writer sends what it has collected. -/
def flush (key : Key) (compressOutbound : Bool) (loop : WriteLoop) :
    WriteLoop :=
  if loop.writing.isNone && !loop.buffer.isEmpty then
    { loop with
      buffer := []
      writing := some (buildWire loop.buffer key compressOutbound)
      pending := []
      flushes := loop.flushes ++ [loop.pending] }
  else loop

/-- One turn: a frame comes from the queue or the write in flight is done,
and then the loop is at its top again. -/
inductive Step (key : Key) (compressOutbound : Bool) :
    WriteLoop → WriteEvent → WriteLoop → Prop where
  | received (loop : WriteLoop) (contract : TcpGatewayContract) :
      Step key compressOutbound loop (.received contract) (flush key compressOutbound
          { loop with
            buffer := loop.buffer ++ contract.toPlainFrame
            pending := loop.pending ++ [contract] })
  | writeFinished (loop : WriteLoop) {bytes : Bytes} (inFlight : loop.writing = some bytes) :
      Step key compressOutbound loop .writeFinished (flush key compressOutbound
          { loop with
            writing := none
            written := loop.written ++ bytes })

/-- The state names what stands in the buffer and went over the wire. -/
structure Consistent (key : Key) (compressOutbound : Bool) (loop : WriteLoop) : Prop where
  buffer : loop.buffer = plainFrames loop.pending
  wire : loop.wire = loop.flushes.flatMap fun contracts =>
    buildWire (plainFrames contracts) key compressOutbound

variable {key : Key} {compressOutbound : Bool} {loop : WriteLoop}

section

variable (consistent : Consistent key compressOutbound loop)

include consistent

theorem Consistent.flush :
    Consistent key compressOutbound (WriteLoop.flush key compressOutbound loop) := by
  unfold WriteLoop.flush
  split
  · rename_i idle
    have none : loop.writing = none := by
      simpa using (Bool.and_eq_true_iff.mp idle).1
    have sent := consistent.wire
    rw [WriteLoop.wire, none, Option.getD_none, List.append_nil] at sent
    constructor
    · rfl
    · simp only [WriteLoop.wire, Option.getD_some, sent, consistent.buffer,
        List.flatMap_append, List.flatMap_singleton]
  · exact consistent

theorem Consistent.receive (contract : TcpGatewayContract) :
    Consistent key compressOutbound
      { loop with
        buffer := loop.buffer ++ contract.toPlainFrame
        pending := loop.pending ++ [contract] } := by
  constructor
  · simp only [consistent.buffer, plainFrames, List.flatMap_append, List.flatMap_singleton]
  · exact consistent.wire

theorem Consistent.finish {bytes : Bytes} (inFlight : loop.writing = some bytes) :
    Consistent key compressOutbound
      { loop with
        writing := none
        written := loop.written ++ bytes } := by
  constructor
  · exact consistent.buffer
  · rw [← consistent.wire]
    simp only [WriteLoop.wire, inFlight, Option.getD_none, Option.getD_some, List.append_nil]

theorem Consistent.step {next : WriteLoop} {event : WriteEvent}
    (stepped : Step key compressOutbound loop event next) :
    Consistent key compressOutbound next := by
  cases stepped with
  | received contract => exact (consistent.receive contract).flush
  | writeFinished inFlight => exact (consistent.finish inFlight).flush

end

theorem consistent_of_run {Meets : WriteLoop → WriteEvent → Prop}
    (run : Run (Step key compressOutbound) Meets {} loop) :
    Consistent key compressOutbound loop := by
  apply run.invariant
  · exact { buffer := rfl, wire := rfl }
  · intro state event next consistent _ stepped
    exact consistent.step stepped

end

end WriteLoop

end ReverseProxy
