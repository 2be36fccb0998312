import ReverseProxy.TcpGateway.WriteLoop

/-!
# Reading from a gateway

The reader takes one frame after the other off the stream, decrypts it and
dispatches the contract in it, or every contract of a compressed batch.  The
handlers of both peers accept every contract, so the loop ends only on what it
reads.
-/

namespace ReverseProxy

open Library Aes TcpGatewayContract

def maxPayloadSize : Nat := 1024 * 1024 * 5

def maxDecompressedBatchSize : Nat := 16 * 1024 * 1024

/-- Why a read loop ends. -/
inductive ReadEnd where
  | sizeNotRead
  | payloadTooLarge (payloadSize : Nat)
  | payloadNotRead
  | decryptionFailed
  | emptyFrameBody
  | compressedBatchFailed (err : String)
  | parseFailed (err : String)
  | panicked
deriving DecidableEq, Repr

/-- What a stream makes a read loop do. -/
structure ReadRun where
  dispatched : List TcpGatewayContract
  ending : ReadEnd
deriving DecidableEq, Repr

/-- A run that dispatches some contracts first. -/
def ReadRun.after (run : ReadRun) (contracts : List TcpGatewayContract) :
    ReadRun :=
  { run with dispatched := contracts ++ run.dispatched }

theorem ReadRun.after_inj {run : ReadRun} {left right : List TcpGatewayContract} :
    run.after left = run.after right ↔ left = right := by
  simp [after]

/-- The inner frames of a batch in turn, each read by `read`; the second part is
why it stops before the last one. -/
def dispatchBatchBy (read : Bytes → Outcome (Except String TcpGatewayContract)) :
    List Bytes → List TcpGatewayContract × Option ReadEnd
  | [] => ([], none)
  | body :: bodies =>
    if body = [] then
      ([], some (.compressedBatchFailed "COMPRESSED_BATCH: empty inner frame"))
    else if body.head? = some compressedBatchPacketId then
      ([], some (.compressedBatchFailed "COMPRESSED_BATCH: nested batch is not allowed"))
    else
      match read body with
      | .ret (.ok contract) =>
        let (contracts, ending) := dispatchBatchBy read bodies
        (contract :: contracts, ending)
      | .ret (.error err) =>
        ([], some (.compressedBatchFailed
          ("COMPRESSED_BATCH: failed to parse inner frame: " ++ err)))
      | .panic => ([], some .panicked)
      | .diverge => ([], some .panicked)

def dispatchBatch : List Bytes → List TcpGatewayContract × Option ReadEnd :=
  dispatchBatchBy parse

section

variable {Key : Type} [Aes Key] [Zstd]

def handleCompressedBatch (decrypted : Bytes) : List TcpGatewayContract × Option ReadEnd :=
  match decrypted.drop 1 with
  | [] =>
    ([], some (.compressedBatchFailed "COMPRESSED_BATCH: missing algo byte"))
  | algo :: compressed =>
    if algo ≠ compressionAlgoZstd then
      ([], some (.compressedBatchFailed
        ("COMPRESSED_BATCH: unknown algo byte " ++ toString algo.toNat)))
    else
      match Zstd.decodeAll compressed with
      | .error err =>
        ([], some (.compressedBatchFailed ("COMPRESSED_BATCH: zstd decompress failed: " ++ err)))
      | .ok decompressed =>
        if maxDecompressedBatchSize < decompressed.length then
          ([], some (.compressedBatchFailed ("COMPRESSED_BATCH: decompressed size " ++
              toString decompressed.length ++ " exceeds " ++
              toString maxDecompressedBatchSize ++ " limit")))
        else
          let (bodies, framesEnd) := splitFrames decompressed
          match dispatchBatch bodies with
          | (contracts, some ending) => (contracts, some ending)
          | (contracts, none) =>
            (contracts,
              match framesEnd with
              | .complete => none
              | .leftover =>
                some (.compressedBatchFailed ("COMPRESSED_BATCH: " ++
                  "trailing bytes after last inner frame"))
              | .truncated _ _ =>
                some (.compressedBatchFailed "COMPRESSED_BATCH: truncated inner frame"))

/-- What is done with a decrypted frame. -/
def dispatchFrame (decrypted : Bytes) : List TcpGatewayContract × Option ReadEnd :=
  match decrypted with
  | [] => ([], some .emptyFrameBody)
  | packetType :: _ =>
    if packetType = compressedBatchPacketId then
      handleCompressedBatch decrypted
    else
      match parse decrypted with
      | .ret (.ok contract) => ([contract], none)
      | .ret (.error err) => ([], some (.parseFailed err))
      | .panic => ([], some .panicked)
      | .diverge => ([], some .panicked)

/-- The loop for a number of turns.  A size of zero reads nothing and counts
as the end of the stream. -/
def readTurns (key : Key) : Nat → Bytes → ReadRun
  | 0, _ => { dispatched := [], ending := .sizeNotRead }
  | turns + 1, stream =>
    if stream.length < 4 then { dispatched := [], ending := .sizeNotRead }
    else
      let payloadSize := fromLe (stream.take 4)
      let payload := stream.drop 4
      if maxPayloadSize < payloadSize then
        { dispatched := [], ending := .payloadTooLarge payloadSize }
      else if payload.length < payloadSize || payloadSize == 0 then
        { dispatched := [], ending := .payloadNotRead }
      else
        match decrypt key (payload.take payloadSize) with
        | none => { dispatched := [], ending := .decryptionFailed }
        | some decrypted =>
          match dispatchFrame decrypted with
          | (contracts, some ending) =>
            { dispatched := contracts, ending }
          | (contracts, none) =>
            (readTurns key turns (payload.drop payloadSize)).after contracts

/-- Every turn that goes on takes at least four octets. -/
def gatewayReadLoop (key : Key) (stream : Bytes) : ReadRun :=
  readTurns key (stream.length + 1) stream

theorem readTurns_enough (key : Key) {stream : Bytes} {turns : Nat}
    (enough : stream.length < turns) :
    readTurns key turns stream = gatewayReadLoop key stream := by
  have same : ∀ left right (stream : Bytes), stream.length < left →
      stream.length < right → readTurns key left stream = readTurns key right stream := by
    intro left
    induction left with
    | zero =>
      intro right stream enough
      omega
    | succ left ih =>
      intro right stream enoughLeft enoughRight
      cases right with
      | zero => omega
      | succ right =>
        by_cases long : stream.length < 4
        · rw [readTurns, readTurns, if_pos long, if_pos long]
        have shorter : ∀ size, ((stream.drop 4).drop size).length <
            stream.length := by
          intro size
          rw [List.length_drop, List.length_drop]
          omega
        have rest := fun size => ih right ((stream.drop 4).drop size)
          (by have less := shorter size; omega)
          (by have less := shorter size; omega)
        rw [readTurns, readTurns]
        simp only [rest]
  exact same turns _ stream enough (Nat.lt_succ_self _)

theorem gatewayReadLoop_encryptFrame (key : Key) {body : Bytes}
    {contracts : List TcpGatewayContract} (rest : Bytes)
    (fits : (encrypt key body).length ≤ maxPayloadSize)
    (accepted : dispatchFrame body = (contracts, none)) :
    gatewayReadLoop key (encryptFrame body key ++ rest) =
      (gatewayReadLoop key rest).after contracts := by
  have nonempty := length_lt_encrypt key body
  have small : (encrypt key body).length < 256 ^ 4 := Nat.lt_of_le_of_lt fits (by decide)
  have front := frameFront rest small
  have readable : ((encrypt key body ++ rest).length < (encrypt key body).length ||
        (encrypt key body).length == 0) = false := by
    simp only [List.length_append, Bool.or_eq_false_iff,
      decide_eq_false_iff_not, beq_eq_false_iff_ne]
    omega
  have enough : rest.length < (frame (encrypt key body) ++ rest).length := by
    rw [List.length_append, frame, List.length_append, length_toLe]
    omega
  rw [gatewayReadLoop, encryptFrame, readTurns, if_neg front.long]
  simp only [front.size, front.behind, if_neg (Nat.not_lt.mpr fits), readable,
    Bool.false_eq_true, if_false, List.take_left, List.drop_left,
    decrypt_encrypt, accepted]
  rw [readTurns_enough key enough]

theorem gatewayReadLoop_too_large (key : Key) {body : Bytes} (rest : Bytes)
    (large : maxPayloadSize < (encrypt key body).length)
    (small : (encrypt key body).length < 256 ^ 4) :
    gatewayReadLoop key (encryptFrame body key ++ rest) =
      { dispatched := []
        ending := .payloadTooLarge (encrypt key body).length } := by
  have front := frameFront rest small
  rw [gatewayReadLoop, encryptFrame, readTurns, if_neg front.long]
  simp only [front.size, if_pos large]

end

end ReverseProxy
