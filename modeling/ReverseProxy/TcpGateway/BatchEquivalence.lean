import ReverseProxy.TcpGateway.GatewayReadLoop

/-!
# Individual frames and compressed batches

However the writer cuts the queue into writes, compressed or not, the reader
dispatches the contracts in their order and stands right behind them on the
stream.
-/

namespace ReverseProxy

open Library TcpGatewayContract WriteLoop Aes Zstd List

/-! ## Plain frames -/

theorem plainFrames_eq (contracts : List TcpGatewayContract) :
    plainFrames contracts = (contracts.map body).flatMap frame := by
  rw [flatMap_map]
  rfl

variable {contracts : List TcpGatewayContract}

theorem splitFrames_plainFrames (small : ∀ contract ∈ contracts, contract.body.length < 256 ^ 4) :
    splitFrames (plainFrames contracts) = (contracts.map body, .complete) := by
  rw [plainFrames_eq]
  apply splitFrames_frames
  intro body member
  obtain ⟨contract, inside, rfl⟩ := mem_map.mp member
  exact small contract inside

theorem body_length_le_plainFrames {contract : TcpGatewayContract} (member : contract ∈ contracts) :
    contract.body.length ≤ (plainFrames contracts).length := by
  induction contracts with
  | nil => cases member
  | cons other contracts ih =>
    rw [plainFrames, flatMap_cons, length_append]
    rcases mem_cons.mp member with rfl | later
    · rw [toPlainFrame, frame, length_append]
      omega
    · have bound := ih later
      rw [plainFrames] at bound
      omega

theorem dispatchBatch_bodies (small : ∀ contract ∈ contracts, contract.body.length < 256 ^ 4) :
    dispatchBatch (contracts.map body) =
      (contracts.map asReceived, none) := by
  induction contracts with
  | nil => rfl
  | cons contract contracts ih =>
    have parsed := parse_body
      (fieldsFit_of_small (small contract (by simp)))
    have rest := ih fun other member => small other (by simp [member])
    obtain ⟨packetType, payload, whole, single⟩ := contract.body_head
    rw [map_cons, dispatchBatch, dispatchBatchBy, ← dispatchBatch, rest, parsed, whole,
      if_neg (by simp), if_neg (by simpa using single)]
    rfl

theorem map_asReceived_eq_self_iff (contracts : List TcpGatewayContract) :
    contracts.map asReceived = contracts ↔
      ∀ contract ∈ contracts, contract.Exact := by
  calc contracts.map asReceived = contracts
      ↔ contracts.map asReceived = contracts.map id := by
        rw [map_id]
    _ ↔ ∀ contract ∈ contracts, contract.asReceived = contract := map_inj_left
    _ ↔ ∀ contract ∈ contracts, contract.Exact := by
        simp only [asReceived_eq_self_iff]

/-! ## One write -/

section

variable {Key : Type} [Aes Key] [Zstd]

/-- The reader accepts the frames of one write: the batch if it is one, or
else each contract by itself. -/
def WithinLimits (key : Key) (compressOutbound : Bool)
    (contracts : List TcpGatewayContract) : Prop :=
  match compressOutbound, encodeAll (plainFrames contracts) with
  | true, .ok compressed =>
    (encrypt key (batchBody compressed)).length ≤ maxPayloadSize ∧
      (plainFrames contracts).length ≤ maxDecompressedBatchSize
  | _, _ =>
    ∀ contract ∈ contracts, (encrypt key contract.body).length ≤ maxPayloadSize

omit [Zstd] in
theorem body_small {key : Key} {contract : TcpGatewayContract}
    (fits : (encrypt key contract.body).length ≤ maxPayloadSize) :
    contract.body.length < 256 ^ 4 := by
  have shorter := length_lt_encrypt key contract.body
  have limit : maxPayloadSize < 256 ^ 4 := by decide
  omega

theorem dispatchFrame_body {contract : TcpGatewayContract}
    (small : contract.body.length < 256 ^ 4) :
    dispatchFrame contract.body = ([contract.asReceived], none) := by
  have parsed := parse_body (fieldsFit_of_small small)
  obtain ⟨packetType, payload, whole, single⟩ := contract.body_head
  rw [whole] at parsed ⊢
  simp only [dispatchFrame, if_neg single, parsed]

variable {contracts : List TcpGatewayContract}

theorem dispatchFrame_batch {compressed : Bytes}
    (encoded : encodeAll (plainFrames contracts) = .ok compressed)
    (fits : (plainFrames contracts).length ≤ maxDecompressedBatchSize) :
    dispatchFrame (batchBody compressed) = (contracts.map asReceived, none) := by
  have small : ∀ contract ∈ contracts, contract.body.length < 256 ^ 4 := by
    intro contract member
    have bound := body_length_le_plainFrames member
    have limit : maxDecompressedBatchSize < 256 ^ 4 := by decide
    omega
  have decoded := decodeAll_encodeAll _ _ encoded
  have isBatch : dispatchFrame (batchBody compressed) =
      handleCompressedBatch (batchBody compressed) := rfl
  rw [isBatch, handleCompressedBatch]
  simp only [batchBody, drop_one, tail_cons, ne_eq,
    not_true_eq_false, if_false, decoded, if_neg (Nat.not_lt.mpr fits),
    splitFrames_plainFrames small, dispatchBatch_bodies small]

theorem gatewayReadLoop_individual (key : Key) (rest : Bytes) (fits : ∀ contract ∈ contracts,
      (encrypt key contract.body).length ≤ maxPayloadSize) :
    gatewayReadLoop key (encodeIndividualFrames (plainFrames contracts) key ++ rest) =
      (gatewayReadLoop key rest).after (contracts.map asReceived) := by
  have small := fun contract member => body_small (fits contract member)
  rw [encodeIndividualFrames, splitFrames_plainFrames small]
  induction contracts with
  | nil => rfl
  | cons contract contracts ih =>
    have first := dispatchFrame_body (small contract (by simp))
    have others := ih (fun other member => fits other (by simp [member]))
      (fun other member => small other (by simp [member]))
    rw [map_cons, flatMap_cons, append_assoc,
      gatewayReadLoop_encryptFrame key _ (fits contract (by simp)) first,
      others]
    rfl

/-- One write is dispatched as a whole. -/
theorem gatewayReadLoop_buildWire (key : Key) {compressOutbound : Bool}
    (rest : Bytes) (within : WithinLimits key compressOutbound contracts) :
    gatewayReadLoop key (buildWire (plainFrames contracts) key compressOutbound ++ rest) =
      (gatewayReadLoop key rest).after (contracts.map asReceived) := by
  unfold WithinLimits at within
  cases compressOutbound with
  | false => exact gatewayReadLoop_individual key rest within
  | true =>
    rw [buildWire, if_pos rfl, encodeCompressedBatch]
    cases encoded : encodeAll (plainFrames contracts) with
    | ok compressed =>
      simp only [encoded] at within
      exact gatewayReadLoop_encryptFrame key rest within.1 (dispatchFrame_batch encoded within.2)
    | error err =>
      simp only [encoded] at within
      exact gatewayReadLoop_individual key rest within

theorem gatewayReadLoop_writes (key : Key) {compressOutbound : Bool}
    {flushes : List (List TcpGatewayContract)} (rest : Bytes)
    (within : ∀ contracts ∈ flushes, WithinLimits key compressOutbound contracts) :
    gatewayReadLoop key ((flushes.flatMap fun contracts =>
        buildWire (plainFrames contracts) key compressOutbound) ++ rest) =
      (gatewayReadLoop key rest).after (flushes.flatten.map asReceived) := by
  induction flushes with
  | nil => rfl
  | cons contracts flushes ih =>
    have others := ih fun other member => within other (by simp [member])
    rw [flatMap_cons, append_assoc,
      gatewayReadLoop_buildWire key _ (within contracts (by simp)), others]
    simp [ReadRun.after]

/-! ## Whole runs -/

/-- In both modes the reader dispatches what arrives of every contract, in the
order of the queue, and goes on right behind the last frame.  It dispatches
the very contracts exactly if their durations fit the wire. -/
theorem dispatched_iff_exact (key : Key) (compressOutbound : Bool) {loop : WriteLoop}
    (run : Run (Step key compressOutbound) (fun _ _ => True) {} loop)
    (flushed : loop.pending = [])
    (within : ∀ contracts ∈ loop.flushes,
      WithinLimits key compressOutbound contracts) (rest : Bytes) :
    gatewayReadLoop key (loop.wire ++ rest) =
        (gatewayReadLoop key rest).after (loop.received.map asReceived) ∧
      (gatewayReadLoop key (loop.wire ++ rest) = (gatewayReadLoop key rest).after loop.received ↔
        ∀ contract ∈ loop.received, contract.Exact) := by
  have consistent := consistent_of_run run
  have everything : loop.received = loop.flushes.flatten := by
    rw [received, flushed, append_nil]
  have dispatched : gatewayReadLoop key (loop.wire ++ rest) =
      (gatewayReadLoop key rest).after (loop.received.map asReceived) := by
    rw [consistent.wire, everything]
    exact gatewayReadLoop_writes key rest within
  refine ⟨dispatched, ?_⟩
  rw [dispatched, ReadRun.after_inj, map_asReceived_eq_self_iff]

end

section

/-- A cipher for statements that are evaluated on a fixed input. -/
@[reducible] def paddedText : Aes Unit :=
  { encrypt := fun _ body => body ++ [0]
    decrypt := fun _ bytes => some bytes.dropLast
    decrypt_encrypt := by simp
    length_lt_encrypt := by simp
    length_encrypt_le := by simp }

/-- A compression for statements that are evaluated on a fixed input. -/
@[reducible] def storedText : Zstd :=
  { encodeAll := .ok
    decodeAll := .ok
    decodeAll_encodeAll := by
      intro plaintext compressed encoded
      cases encoded
      rfl
    length_encodeAll := by
      intro plaintext compressed encoded
      cases encoded
      unfold compressBound
      omega }

attribute [local instance] paddedText storedText

/-- The writer after it took one contract from the queue. -/
private def wroteOne (compressOutbound : Bool) (contract : TcpGatewayContract) : WriteLoop :=
  { writing := some (buildWire (contract.toPlainFrame) () compressOutbound)
    flushes := [[contract]] }

private theorem run_wroteOne (compressOutbound : Bool) (contract : TcpGatewayContract) :
    Run (Step () compressOutbound) (fun _ _ => True) {}
      (wroteOne compressOutbound contract) := by
  have stepped : Step () compressOutbound {} (.received contract)
      (wroteOne compressOutbound contract) :=
    .received {} contract
  exact Run.step (Run.start _) trivial stepped

private def halfSecond : TcpGatewayContract := .connect 1 { nanos := 500000000 } "h:1".toList

private theorem withinLimits_halfSecond (compressOutbound : Bool) :
    WithinLimits () compressOutbound [halfSecond] := by
  cases compressOutbound with
  | false =>
    intro contract member
    rw [mem_singleton.mp member]
    decide +kernel
  | true =>
    change (encrypt () (batchBody (plainFrames [halfSecond]))).length ≤ maxPayloadSize ∧
      (plainFrames [halfSecond]).length ≤ maxDecompressedBatchSize
    decide +kernel

/-- Two contracts were collected while one was written, and went out together. -/
def wroteBatch : WriteLoop :=
  { writing := some (buildWire (plainFrames [halfSecond, .pong]) () true)
    written := buildWire (ping.toPlainFrame) () true
    flushes := [[.ping], [halfSecond, .pong]] }

theorem run_wroteBatch {Meets : WriteLoop → WriteEvent → Prop}
    (small : ∀ loop contract, (loop.buffer ++ contract.toPlainFrame).length ≤ 100 →
      Meets loop (.received contract)) (finished : ∀ loop, Meets loop .writeFinished) :
    Run (Step () true) Meets {} wroteBatch := by
  have first : Run (Step () true) Meets {} _ :=
    .step (.start _) (small _ _ (by decide)) (.received _ .ping)
  have second := first.step (small _ _ (by decide)) (.received _ halfSecond)
  have third := second.step (small _ _ (by decide)) (.received _ .pong)
  exact third.step (finished _) (.writeFinished _ rfl)

theorem dispatched_iff_exact_batch :
    gatewayReadLoop () (wroteBatch.wire ++ [7]) =
        (gatewayReadLoop () [7]).after [.ping, halfSecond.asReceived, .pong] ∧
      (gatewayReadLoop () (wroteBatch.wire ++ [7]) =
          (gatewayReadLoop () [7]).after [.ping, halfSecond, .pong] ↔
        ∀ contract ∈ [.ping, halfSecond, .pong], contract.Exact) := by
  refine dispatched_iff_exact () true
    (run_wroteBatch (fun _ _ _ => trivial) fun _ => trivial) rfl ?_ [7]
  show ∀ contracts ∈ [[.ping], [halfSecond, .pong]],
    (encrypt () (batchBody (plainFrames contracts))).length ≤ maxPayloadSize ∧
      (plainFrames contracts).length ≤ maxDecompressedBatchSize
  decide +kernel

/-- A connect request with a timeout of half a second arrives, in both modes,
as one with no time at all. -/
theorem connect_timeout_truncated :
    (Run (Step () false) (fun _ _ => True) {} (wroteOne false halfSecond) ∧
      gatewayReadLoop () (wroteOne false halfSecond).wire =
        { dispatched := [.connect 1 { nanos := 0 } "h:1".toList]
          ending := .sizeNotRead }) ∧
      (Run (Step () true) (fun _ _ => True) {} (wroteOne true halfSecond) ∧
        gatewayReadLoop () (wroteOne true halfSecond).wire =
          { dispatched := [.connect 1 { nanos := 0 } "h:1".toList]
            ending := .sizeNotRead }) ∧
      WithinLimits () false [halfSecond] ∧
      WithinLimits () true [halfSecond] ∧
      (wroteOne false halfSecond).received = [.connect 1 { nanos := 500000000 } "h:1".toList] := by
  refine ⟨⟨run_wroteOne false halfSecond, ?_⟩,
    ⟨run_wroteOne true halfSecond, ?_⟩, withinLimits_halfSecond false,
    withinLimits_halfSecond true, rfl⟩
  · decide +kernel
  · decide +kernel

end

end ReverseProxy
