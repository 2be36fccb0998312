import ReverseProxy.H1ProxyServer.CompileHeaders
import ReverseProxy.TcpUtils.LoopBuffer

/-!
# Relaying a message body

A body moves from a socket through the loop buffer into a sink.  A socket is the
list of what its reads will see; a read never returns more than the free part of
the buffer.
-/

namespace ReverseProxy

/-! ## Reading from a socket -/

inductive ReadEvent where
  | data (bytes : Bytes)
  | timeout (duration : Nat)
  | ioError (text : Str)
deriving DecidableEq, Repr

/-- `read_with_timeout` into a slice of `size` bytes.  A read of no bytes is
the end of the stream, and so is the end of the list. -/
def readWithTimeout (size : Nat) :
    List ReadEvent → Except NetworkError Bytes × List ReadEvent
  | [] => (.error .disconnected, [])
  | .data bytes :: events =>
    if bytes = [] then (.error .disconnected, events)
    else if bytes.length ≤ size then (.ok bytes, events)
    else (.ok (bytes.take size), .data (bytes.drop size) :: events)
  | .timeout duration :: events => (.error (.timeout duration), events)
  | .ioError text :: events => (.error (.ioError text), events)

/-! ## Sinks -/

class H1Writer (σ : Type) where
  writeHttpPayload : σ → Bytes → σ × Except NetworkError Unit

export H1Writer (writeHttpPayload)

/-- A body in transfer: the socket it comes from, the buffer it passes through
and the sink it goes to. -/
structure Relay (σ : Type) where
  events : List ReadEvent
  buffer : LoopBuffer
  sink : σ

def bodyRelayChunkSize : Nat := 256 * 1024

section

variable {σ : Type} [H1Writer σ]

/-- The inner loop both transfers share: everything buffered goes out in
capped steps.  Returns what remains to be sent. -/
def forwardBuffered :
    Nat → Relay σ → Nat → Outcome (Relay σ × Except ProxyServerError Nat)
  | fuel, relay, remaining =>
    if remaining = 0 then .ret (relay, .ok 0)
    else
      match fuel with
      | 0 => .diverge
      | fuel + 1 => do
        let buf ← relay.buffer.getData
        if buf = [] then return (relay, .ok remaining)
        else
          let toSend := min (min buf.length remaining) bodyRelayChunkSize
          match writeHttpPayload relay.sink (buf.take toSend) with
          | (sink, .error err) =>
            return ({ relay with sink }, .error (.canNotWriteContentToRemoteConnection err))
          | (sink, .ok _) =>
            forwardBuffered fuel
              { relay with
                sink
                buffer := relay.buffer.commitRead toSend }
              (remaining - toSend)

variable [SliceOfU8Ext] (relay : Relay σ)

/-- One read behind the unread bytes of the buffer. -/
def readMore : Relay σ × Except ProxyServerError Unit :=
  match relay.buffer.getMut with
  | (buffer, none) => ({ relay with buffer }, .error .bufferAllocationFail)
  | (buffer, some free) =>
    match readWithTimeout free relay.events with
    | (.error err, events) =>
      ({ relay with buffer, events }, .error (.networkError err))
    | (.ok bytes, events) =>
      ({ relay with
         events
         buffer := (buffer.fill bytes).advance bytes.length }, .ok ())

/-- The outer loop both transfers share. -/
def relayExactly :
    Nat → Relay σ → Nat → Outcome (Relay σ × Except ProxyServerError Unit)
  | 0, _, _ => .diverge
  | fuel + 1, relay, remaining => do
    match ← forwardBuffered remaining relay remaining with
    | (relay, .error err) => return (relay, .error err)
    | (relay, .ok remaining) =>
      if remaining = 0 then return (relay, .ok ())
      else
        match readMore relay with
        | (relay, .error err) => return (relay, .error err)
        | (relay, .ok _) => relayExactly fuel relay remaining

/-- Every round but the first finds a byte to send, so `size + 1` rounds are
enough. -/
def transferKnownSize (size : Nat) :
    Outcome (Relay σ × Except ProxyServerError Nat) := do
  match ← relayExactly (size + 1) relay size with
  | (relay, .error err) => return (relay, .error err)
  | (relay, .ok _) => return (relay, .ok size)

/-! ## Chunks -/

structure ChunkHeader where
  len : Nat
  chunkSize : Nat
deriving DecidableEq, Repr

def parseHexDigit (octet : UInt8) : Option Nat :=
  if 48 ≤ octet ∧ octet ≤ 57 then some (octet.toNat - 48)
  else if 97 ≤ octet ∧ octet ≤ 102 then some (octet.toNat - 97 + 10)
  else if 65 ≤ octet ∧ octet ≤ 70 then some (octet.toNat - 65 + 10)
  else none

/-- The loop of `get_chunk_size` over the reversed line, with the wrapping
arithmetic of a release build. -/
def chunkSizeLoop : Bytes → Nat → Nat → Except ProxyServerError Nat
  | [], result, _ => .ok result
  | octet :: rest, result, multiplier =>
    match parseHexDigit octet with
    | none => .error .chunkHeaderParseError
    | some digit =>
      chunkSizeLoop rest ((result + digit * multiplier) % usizeSize) (multiplier * 16 % usizeSize)

def getChunkSize (chunk : Bytes) (len : Nat) : Except ProxyServerError Nat :=
  chunkSizeLoop (chunk.take len).reverse 0 1

def ChunkHeader.new (len : Nat) (src : Bytes) :
    Except ProxyServerError ChunkHeader := do
  let chunkSize ← getChunkSize src len
  return { len, chunkSize }

def readChunkHeader :
    Nat → Relay σ → Outcome (Relay σ × Except ProxyServerError ChunkHeader)
  | 0, _ => .diverge
  | fuel + 1, relay => do
    let readBuf ← relay.buffer.getData
    let found :=
      if readBuf.length > 2 then findSequencePos readBuf httpCrLf 0 else none
    match found with
    | some crlfPos => return (relay, ChunkHeader.new crlfPos readBuf)
    | none =>
      match readMore relay with
      | (relay, .error err) => return (relay, .error err)
      | (relay, .ok _) => readChunkHeader fuel relay

/-- The size line, the data and two line ends, in wrapping arithmetic. -/
def ChunkHeader.total (header : ChunkHeader) : Nat :=
  (header.len + header.chunkSize + httpCrLf.length * 2) % usizeSize

def transferChunkData (header : ChunkHeader) :
    Outcome (Relay σ × Except ProxyServerError Nat) := do
  match ← relayExactly (header.total + 1) relay header.total with
  | (relay, .error err) => return (relay, .error err)
  | (relay, .ok _) => return (relay, .ok header.total)

/-- The bytes that have not been taken from the buffer or the socket. -/
def unread : List ReadEvent → Bytes
  | [] => []
  | .data bytes :: events => bytes ++ unread events
  | _ :: events => unread events

def Relay.pending : Bytes := relay.buffer.contents ++ unread relay.events

def transferChunks :
    Nat → Relay σ → Nat → Outcome (Relay σ × Except ProxyServerError Nat)
  | 0, _, _ => .diverge
  | fuel + 1, relay, total => do
    match ← readChunkHeader (relay.pending.length + 1) relay with
    | (relay, .error err) => return (relay, .error err)
    | (relay, .ok header) =>
      match ← transferChunkData relay header with
      | (relay, .error err) => return (relay, .error err)
      | (relay, .ok transferred) =>
        let total := (total + transferred) % usizeSize
        if header.chunkSize = 0 then return (relay, .ok total)
        else transferChunks fuel relay total

/-- A round of the loop takes a byte unless the frame length wraps to zero, in
which case the loop of the source never ends. -/
def transferChunkedBody : Outcome (Relay σ × Except ProxyServerError Nat) :=
  transferChunks (relay.pending.length + 1) relay 0

/-- `H1Reader::transfer_body`. -/
def transferBody (contentLength : HttpContentLength) :
    Outcome (Relay σ × Except ProxyServerError Nat) :=
  match contentLength with
  | .none => .ret (relay, .ok 0)
  | .known size =>
    if size = 0 then .ret (relay, .ok 0) else transferKnownSize relay size
  | .chunked => transferChunkedBody relay

end

end ReverseProxy
