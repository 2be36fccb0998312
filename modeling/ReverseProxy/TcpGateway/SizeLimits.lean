import ReverseProxy.HttpContentSource.LocalPath
import ReverseProxy.TcpGateway.BatchEquivalence

/-!
# Limits of the reader and sizes of the writer

Only the reader knows the limits.  Nothing is refused as long as each frame
leaves room for the padding, or, in a compressing session, what is collected
between two writes fits a frame uncompressed.
-/

namespace ReverseProxy

open Library TcpGatewayContract List

/-- The answer to a request for a file over a gateway: the whole file. -/
def TcpGateway.serveFile [FilePaths] (disk : Disk) (requestId : UInt32)
    (path : Str) : TcpGatewayContract :=
  match disk (components (FilePaths.fromStr path)) with
  | some content => .getFileResponse requestId .ok content
  | none => .getFileResponse requestId .error []

/-- The most that fits a frame if it does not compress. -/
def maxAccumulated : Nat := 5222462

theorem compressBound_le {size : Nat} (fits : size ≤ maxAccumulated) :
    compressBound size + 18 ≤ maxPayloadSize := by
  unfold compressBound
  unfold maxAccumulated at fits
  unfold maxPayloadSize
  split
  · omega
  · omega

/-- The sizes the writer may take from the queue. -/
def FitsReader (compressOutbound : Bool) (loop : WriteLoop) :
    WriteEvent → Prop
  | .received contract =>
    if compressOutbound then
      (loop.buffer ++ contract.toPlainFrame).length ≤ maxAccumulated
    else contract.body.length + 16 ≤ maxPayloadSize
  | .writeFinished => True

section

variable {Key : Type} [Aes Key] [Zstd]

/-- What is collected and what was written keeps to the limits. -/
structure KeepsLimits (key : Key) (compressOutbound : Bool) (loop : WriteLoop) : Prop where
  consistent : loop.Consistent key compressOutbound
  pending : if compressOutbound then
      (plainFrames loop.pending).length ≤ maxAccumulated
    else ∀ contract ∈ loop.pending, contract.body.length + 16 ≤ maxPayloadSize
  flushes : ∀ contracts ∈ loop.flushes, WithinLimits key compressOutbound contracts

omit [Zstd] in
theorem encrypt_fits (key : Key) {body : Bytes} (small : body.length + 16 ≤ maxPayloadSize) :
    (Aes.encrypt key body).length ≤ maxPayloadSize :=
  Nat.le_trans (Aes.length_encrypt_le key body) small

variable {compressOutbound : Bool}

theorem withinLimits_of_pending {key : Key}
    {contracts : List TcpGatewayContract} (pending : if compressOutbound then
        (plainFrames contracts).length ≤ maxAccumulated
      else ∀ contract ∈ contracts, contract.body.length + 16 ≤ maxPayloadSize) :
    WithinLimits key compressOutbound contracts := by
  unfold WithinLimits
  cases compressOutbound with
  | false =>
    intro contract member
    exact encrypt_fits key (pending contract member)
  | true =>
    have collected : (plainFrames contracts).length ≤ maxAccumulated := pending
    cases encoded : Zstd.encodeAll (plainFrames contracts) with
    | ok compressed =>
      have bound := Zstd.length_encodeAll _ _ encoded
      have worst := compressBound_le collected
      have limit : maxAccumulated ≤ maxDecompressedBatchSize := by decide
      refine ⟨encrypt_fits key ?_, by omega⟩
      simp only [batchBody, length_cons]
      omega
    | error err =>
      intro contract member
      have bound := body_length_le_plainFrames member
      have limit : maxAccumulated + 16 ≤ maxPayloadSize := by decide
      exact encrypt_fits key (by omega)

theorem KeepsLimits.flush {key : Key} {loop : WriteLoop}
    (keeps : KeepsLimits key compressOutbound loop) :
    KeepsLimits key compressOutbound (WriteLoop.flush key compressOutbound loop) := by
  have consistent := keeps.consistent.flush
  unfold WriteLoop.flush at consistent ⊢
  split
  · rename_i idle
    rw [if_pos idle] at consistent
    refine ⟨consistent, ?_, ?_⟩
    · cases compressOutbound with
      | false => simp
      | true => simp [plainFrames]
    · intro contracts member
      rcases mem_append.mp member with earlier | last
      · exact keeps.flushes contracts earlier
      · rw [mem_singleton.mp last]
        exact withinLimits_of_pending keeps.pending
  · exact keeps

theorem KeepsLimits.step {key : Key} {loop next : WriteLoop}
    {event : WriteEvent} (keeps : KeepsLimits key compressOutbound loop)
    (fits : FitsReader compressOutbound loop event)
    (stepped : WriteLoop.Step key compressOutbound loop event next) :
    KeepsLimits key compressOutbound next := by
  cases stepped with
  | received contract =>
    apply KeepsLimits.flush
    refine ⟨keeps.consistent.receive contract, ?_, keeps.flushes⟩
    cases compressOutbound with
    | false =>
      intro other member
      rcases mem_append.mp member with earlier | last
      · exact keeps.pending other earlier
      · rw [mem_singleton.mp last]
        exact fits
    | true =>
      change (loop.buffer ++ contract.toPlainFrame).length ≤ maxAccumulated at fits
      rw [keeps.consistent.buffer] at fits
      simpa [plainFrames] using fits
  | writeFinished inFlight =>
    apply KeepsLimits.flush
    exact ⟨keeps.consistent.finish inFlight, keeps.pending, keeps.flushes⟩

/-- A writer that only takes what fits is never refused: the reader accepts
all it sends and waits for the next size. -/
theorem accepted_of_fitsReader (key : Key) (compressOutbound : Bool) {loop : WriteLoop}
    (run : Run (WriteLoop.Step key compressOutbound) (FitsReader compressOutbound) {} loop) :
    gatewayReadLoop key loop.wire =
      { dispatched := loop.flushes.flatten.map asReceived
        ending := .sizeNotRead } := by
  have keeps : KeepsLimits key compressOutbound loop := by
    apply run.invariant
    · refine ⟨{ buffer := rfl, wire := rfl }, ?_, by simp⟩
      cases compressOutbound with
      | false => simp
      | true => simp [plainFrames]
    · intro state event next keeps fits stepped
      exact keeps.step fits stepped
  have read := gatewayReadLoop_writes key [] keeps.flushes
  have waiting : gatewayReadLoop key [] = { dispatched := [], ending := .sizeNotRead } := rfl
  rw [append_nil, ← keeps.consistent.wire, waiting] at read
  rw [read, ReadRun.after, append_nil]

end

section

attribute [local instance] paddedText storedText joinedPaths

/-- A disk with one file of five megabytes. -/
private def fileDisk : Disk :=
  fun path =>
    if path = components "/f".toList then some (replicate 5242880 0)
    else none

private def wrote (contract : TcpGatewayContract) : WriteLoop :=
  { writing := some (buildWire contract.toPlainFrame () false)
    flushes := [[contract]] }

private theorem refused_of_large {content : Bytes} (size : content.length = 5242880) :
    Run (WriteLoop.Step () false) (fun _ _ => True) {} (wrote (.getFileResponse 1 .ok content)) ∧
      gatewayReadLoop () (wrote (.getFileResponse 1 .ok content)).wire =
        { dispatched := []
          ending := .payloadTooLarge 5242887 } := by
  have bodyLength : (getFileResponse 1 .ok content).body.length = 5242886 := by
    rw [body, length_cons, length_append,
      length_toLe, length_cons, size]
  generalize getFileResponse 1 .ok content = contract
    at bodyLength ⊢
  have stepped : WriteLoop.Step () false {} (.received contract) (WriteLoop.flush () false
        { buffer := [] ++ contract.toPlainFrame, pending := [contract] }) :=
    .received {} contract
  have nonempty : (contract.toPlainFrame).isEmpty = false := by
    rw [isEmpty_eq_false_iff, toPlainFrame, frame]
    exact append_ne_nil_of_left_ne_nil
      (ne_nil_of_length_pos (by rw [length_toLe]; decide)) _
  have flushed : WriteLoop.flush () false
      { buffer := [] ++ contract.toPlainFrame, pending := [contract] } =
        wrote contract := by
    rw [WriteLoop.flush, nil_append]
    simp only [Option.isNone_none, nonempty, Bool.not_false, Bool.and_self, if_true]
    rfl
  have small : ∀ other ∈ [contract], other.body.length < 256 ^ 4 := by
    intro other member
    rw [mem_singleton.mp member, bodyLength]
    decide
  have length : (Aes.encrypt () contract.body).length = 5242887 := by
    change (contract.body ++ [0]).length = 5242887
    rw [length_append, bodyLength]
    rfl
  have wire : (wrote contract).wire = encryptFrame contract.body () ++ [] := by
    have split := splitFrames_plainFrames small
    rw [plainFrames, flatMap_singleton] at split
    change buildWire contract.toPlainFrame () false = _
    rw [buildWire, if_neg (by decide), encodeIndividualFrames, split,
      map_singleton, flatMap_singleton, append_nil]
  rw [flushed] at stepped
  refine ⟨Run.step (Run.start _) trivial stepped, ?_⟩
  rw [wire, gatewayReadLoop_too_large () [] (by rw [length]; decide)
    (by rw [length]; decide), length]

theorem accepted_of_fitsReader_batch :
    Run (WriteLoop.Step () true) (FitsReader true) {} wroteBatch ∧
      gatewayReadLoop () wroteBatch.wire =
        { dispatched := wroteBatch.flushes.flatten.map asReceived
          ending := .sizeNotRead } := by
  have run : Run (WriteLoop.Step () true) (FitsReader true) {} wroteBatch :=
    run_wroteBatch (fun _ _ small => small.trans (by decide)) fun _ => trivial
  exact ⟨run, accepted_of_fitsReader () true run⟩

/-- A file of five megabytes is answered with a frame the other side
refuses. -/
theorem large_file_refused :
    TcpGateway.serveFile fileDisk 1 "/f".toList =
        .getFileResponse 1 .ok (replicate 5242880 0) ∧
      Run (WriteLoop.Step () false) (fun _ _ => True) {}
        (wrote (.getFileResponse 1 .ok (replicate 5242880 0))) ∧
      gatewayReadLoop () (wrote (.getFileResponse 1 .ok (replicate 5242880 0))).wire =
        { dispatched := []
          ending := .payloadTooLarge 5242887 } := by
  have found : fileDisk (components (FilePaths.fromStr "/f".toList)) =
      some (replicate 5242880 0) := if_pos rfl
  refine ⟨?_, refused_of_large length_replicate⟩
  rw [TcpGateway.serveFile, found]

end

end ReverseProxy
