import ReverseProxy.TcpGateway.GatewayReadLoop

/-!
# Decoding of gateway frames

Packets with fixed fields are indexed without a check of their length, and two
allocations are made before the limits that are meant for them.  Everything
that is written is read back, up to the precision of its durations.
-/

namespace ReverseProxy

open Library TcpGatewayContract Outcome

/-! ## Short packets -/

/-- The octets `parse` indexes behind the type. -/
def fixedSize (packetType : UInt8) : Nat :=
  if packetType ∈ [connectPacketId, getFileResponsePacketId] then 5
  else if packetType = updatePingTimePacketId then 8
  else if packetType ∈ [connectOkPacketId, connectionErrorPacketId,
      sendPayloadPacketId, receivePayloadPacketId, getFileRequestPacketId] then 4
  else 0

def HasFixedPart : Bytes → Prop
  | [] => True
  | packetType :: payload => fixedSize packetType ≤ payload.length

section

variable {α : Type} (payload : Bytes)

theorem indexU32_returns_iff {next : UInt32 → Outcome α}
    (returns : ∀ value, ∃ result, next value = .ret result) :
    (∃ result, (indexU32 payload >>= next) = .ret result) ↔ 4 ≤ payload.length := by
  rw [bind_returns_iff returns, indexU32]
  split
  · simp only [reduceCtorEq, exists_false, false_iff]
    omega
  · simp only [ret.injEq, exists_eq', true_iff]
    omega

theorem indexU8_returns_iff {next : UInt32 → UInt8 → Outcome α}
    (returns : ∀ value octet, ∃ result, next value octet = .ret result) :
    (∃ result, (indexU32 payload >>= fun value =>
      indexU8 payload 4 >>= next value) = .ret result) ↔ 5 ≤ payload.length := by
  by_cases long : 5 ≤ payload.length
  · refine iff_of_true ?_ long
    apply (indexU32_returns_iff payload _).mpr (by omega)
    intro value
    rw [bind_returns_iff (returns value), indexU8, List.getElem?_eq_getElem long]
    exact ⟨_, rfl⟩
  refine iff_of_false ?_ long
  rintro ⟨result, returned⟩
  obtain ⟨value, _, rest⟩ := bind_eq_ret_iff.mp returned
  rw [indexU8, List.getElem?_eq_none (by omega)] at rest
  cases rest

end

theorem parse_returns_iff (body : Bytes) :
    (∃ result, parse body = .ret result) ↔ HasFixedPart body := by
  cases body with
  | nil => exact iff_of_true ⟨_, rfl⟩ trivial
  | cons packetType payload =>
    have always : ∀ {result : Except String TcpGatewayContract},
        ∃ other, ret result = .ret other := ⟨_, rfl⟩
    by_cases isConnect : packetType = connectPacketId
    · subst isConnect
      exact indexU8_returns_iff payload fun _ _ => always
    by_cases isResponse : packetType = getFileResponsePacketId
    · subst isResponse
      exact indexU8_returns_iff payload fun _ _ => always
    by_cases isPingTime : packetType = updatePingTimePacketId
    · subst isPingTime
      change (∃ result, (if payload.length < 8 then _ else _) = _) ↔ 8 ≤ payload.length
      split
      · simp only [reduceCtorEq, exists_false, false_iff]
        omega
      · exact iff_of_true always (by omega)
    by_cases isId : packetType ∈ [connectOkPacketId, connectionErrorPacketId,
        sendPayloadPacketId, receivePayloadPacketId, getFileRequestPacketId]
    · simp only [List.mem_cons, List.not_mem_nil, or_false] at isId
      rcases isId with rfl | rfl | rfl | rfl | rfl
      all_goals exact indexU32_returns_iff payload fun _ => always
    refine iff_of_true ?_ ?_
    · simp only [List.mem_cons, List.not_mem_nil, or_false, not_or] at isId
      obtain ⟨isOk, isError, isSend, isReceive, isRequest⟩ := isId
      simp only [parse, if_neg isConnect, if_neg isResponse,
        if_neg isPingTime, if_neg isOk, if_neg isError, if_neg isSend,
        if_neg isReceive, if_neg isRequest]
      repeat' split
      all_goals exact always
    · simp [HasFixedPart, fixedSize, isConnect, isResponse, isPingTime, isId]

/-- What `parse` requests: room for as many references of two words as a
request for certificates announces, before one of them is read. -/
def requestedByParse : Bytes → Nat
  | [] => 0
  | packetType :: payload =>
    if packetType = syncSslCertificatesRequestPacketId then
      match readU32 payload 0 with
      | .ok count => 16 * count
      | .error _ => 0
    else 0

/-- A request for so many certificates. -/
def AnnouncesIds (decrypted : Bytes) (count : Nat) : Prop :=
  decrypted.head? = some syncSslCertificatesRequestPacketId ∧
    readU32 (decrypted.drop 1) 0 = .ok count

theorem requestedByParse_le_iff (decrypted : Bytes) (limit : Nat) :
    requestedByParse decrypted ≤ limit ↔
      ∀ count, AnnouncesIds decrypted count → 16 * count ≤ limit := by
  cases decrypted with
  | nil => simp [requestedByParse, AnnouncesIds]
  | cons packetType payload =>
    by_cases request : packetType = syncSslCertificatesRequestPacketId
    · simp only [requestedByParse, AnnouncesIds, List.head?_cons, request,
        true_and, List.drop_one, List.tail_cons]
      cases readU32 payload 0 with
      | error err => simp
      | ok count => simp
    · simp [requestedByParse, AnnouncesIds, request]

/-- `parse` where at most so many octets are granted.  A refused allocation aborts
the process, so that nothing is returned. -/
def parseWithin (memory : Nat) (body : Bytes) : Outcome (Except String TcpGatewayContract) :=
  if requestedByParse body ≤ memory then parse body else .panic

/-- The fixed part is there, and there is memory for the ids that are announced. -/
@[mk_iff]
structure Readable (memory : Nat) (body : Bytes) : Prop where
  whole : HasFixedPart body
  granted : ∀ count, AnnouncesIds body count → 16 * count ≤ memory

theorem parseWithin_returns_iff (memory : Nat) (body : Bytes) :
    (∃ result, parseWithin memory body = .ret result) ↔ Readable memory body := by
  rw [readable_iff, ← requestedByParse_le_iff, ← parse_returns_iff]
  unfold parseWithin
  by_cases granted : requestedByParse body ≤ memory
  · simp [granted]
  · simp [granted]

/-- Nothing is dispatched for the frame, and the batch ends with it. -/
def Refused (memory : Nat) (body : Bytes) : Prop :=
  ∀ contract, parseWithin memory body ≠ .ret (.ok contract)

theorem refused_of_requests_nothing (memory : Nat) {body : Bytes} {err : String}
    (none : requestedByParse body = 0) (parsed : parse body = .ret (.error err)) :
    Readable memory body ∧ Refused memory body := by
  have read : parseWithin memory body = .ret (.error err) := by
    rw [parseWithin, none, if_pos (Nat.zero_le _), parsed]
  exact ⟨(parseWithin_returns_iff memory body).mp ⟨_, read⟩, by simp [Refused, read]⟩

theorem dispatchBatch_returns_iff (memory : Nat) (bodies : List Bytes) :
    (dispatchBatchBy (parseWithin memory) bodies).2 ≠ some .panicked ↔
      ∀ body, Reached (Refused memory) bodies body → Readable memory body := by
  induction bodies with
  | nil => exact iff_of_true nofun fun _ reached => absurd reached Reached.not_nil
  | cons body bodies ih =>
    simp only [reached_cons_iff, or_imp, forall_and, forall_eq, and_imp]
    rw [dispatchBatchBy]
    by_cases empty : body = []
    · subst empty
      have ⟨readable, refused⟩ := refused_of_requests_nothing memory rfl
        (show parse [] = _ from rfl)
      exact iff_of_true nofun ⟨readable, fun _ passed => absurd refused passed⟩
    by_cases nested : body.head? = some compressedBatchPacketId
    · obtain ⟨rest, rfl⟩ := List.head?_eq_some_iff.mp nested
      have ⟨readable, refused⟩ := refused_of_requests_nothing memory rfl
        (show parse (compressedBatchPacketId :: rest) = _ from rfl)
      exact iff_of_true nofun ⟨readable, fun _ passed => absurd refused passed⟩
    rw [if_neg empty, if_neg nested]
    cases parsed : parseWithin memory body with
    | ret result =>
      have readable := (parseWithin_returns_iff memory body).mp ⟨result, parsed⟩
      cases result with
      | error err =>
        have refused : Refused memory body := by simp [Refused, parsed]
        exact iff_of_true nofun ⟨readable, fun _ passed => absurd refused passed⟩
      | ok contract =>
        have passed : ¬ Refused memory body := fun refused =>
          refused contract parsed
        simp only [readable, passed, not_false_eq_true, true_and, forall_true_left]
        exact ih
    | panic | diverge =>
      refine iff_of_false (fun kept => kept rfl) fun all => ?_
      have returned := (parseWithin_returns_iff memory body).mpr all.1
      simp [parsed] at returned

/-- Decoding returns exactly if every body it comes to is whole and its ids fit
the memory. -/
theorem gateway_decoding_total_iff (memory : Nat) (body content : Bytes) :
    ((∃ result, parseWithin memory body = .ret result) ↔ Readable memory body) ∧
      ((dispatchBatchBy (parseWithin memory) (splitFrames content).1).2 ≠ some .panicked ↔
        ∀ inner, Reached (Refused memory) (splitFrames content).1 inner →
          Readable memory inner) :=
  ⟨parseWithin_returns_iff memory body, dispatchBatch_returns_iff memory _⟩

/-- A connect request that ends behind its type, alone and in a batch, and five
octets that ask for 64 GiB where 32 are granted. -/
theorem short_packet_panics :
    parse [connectPacketId] = .panic ∧
      (dispatchBatch (splitFrames (frame [connectPacketId])).1).2 = some .panicked ∧
      parseWithin (2 ^ 35) [syncSslCertificatesRequestPacketId, 255, 255, 255, 255] = .panic := by
  decide +kernel

/-! ## Memory -/

def requestedByBatch : List Bytes → Nat
  | [] => 0
  | body :: bodies =>
    if body = [] ∨ body.head? = some compressedBatchPacketId then 0
    else
      requestedByParse body +
        match parse body with
        | .ret (.ok _) => requestedByBatch bodies
        | _ => 0

/-- What decompressing and decoding a decrypted frame requests, with any
decompressor.  The limit is compared with what has been decompressed. -/
def requested (decodeAll : Bytes → Except String Bytes) (decrypted : Bytes) :
    Nat :=
  if decrypted.head? = some compressedBatchPacketId then
    if (decrypted.drop 1).head? = some compressionAlgoZstd then
      match decodeAll (decrypted.drop 2) with
      | .error _ => 0
      | .ok decompressed =>
        decompressed.length +
          if maxDecompressedBatchSize < decompressed.length then 0
          else requestedByBatch (splitFrames decompressed).1
    else 0
  else requestedByParse decrypted

variable (decrypted : Bytes)

/-- A batch that is decompressed. -/
def IsZstdBatch : Prop :=
  decrypted.take 2 = [compressedBatchPacketId, compressionAlgoZstd]

theorem isZstdBatch_iff :
    IsZstdBatch decrypted ↔
      decrypted.head? = some compressedBatchPacketId ∧
        (decrypted.drop 1).head? = some compressionAlgoZstd := by
  match decrypted with
  | [] | [_] => simp [IsZstdBatch]
  | packetType :: algo :: compressed => simp [IsZstdBatch]

theorem IsZstdBatch.exists_requested_gt {decrypted : Bytes}
    (batch : IsZstdBatch decrypted) (limit : Nat) :
    ∃ decodeAll, limit < requested decodeAll decrypted := by
  obtain ⟨isBatch, isZstd⟩ := (isZstdBatch_iff decrypted).mp batch
  refine ⟨fun _ => .ok (List.replicate (limit + 1) 0), ?_⟩
  rw [requested, if_pos isBatch, if_pos isZstd]
  simp only [List.length_replicate]
  omega

theorem requested_of_not_isZstdBatch {decrypted : Bytes} (plain : ¬ IsZstdBatch decrypted)
    (decodeAll : Bytes → Except String Bytes) :
    requested decodeAll decrypted = requestedByParse decrypted := by
  rw [isZstdBatch_iff, not_and] at plain
  unfold requested
  split
  case isTrue batch =>
    rw [if_neg (plain batch)]
    cases decrypted with
    | nil => rfl
    | cons packetType payload =>
      cases batch
      rfl
  case isFalse _ => rfl

theorem decoding_memory_bounded_iff (constant : Nat) (decrypted : Bytes) :
    (∀ decodeAll, requested decodeAll decrypted ≤
        maxDecompressedBatchSize + constant * decrypted.length) ↔
      ¬ IsZstdBatch decrypted ∧ ∀ count, AnnouncesIds decrypted count →
        16 * count ≤ maxDecompressedBatchSize + constant * decrypted.length := by
  rw [← requestedByParse_le_iff]
  by_cases batch : IsZstdBatch decrypted
  · refine iff_of_false (fun bounded => ?_) fun kept => kept.1 batch
    obtain ⟨decodeAll, more⟩ := batch.exists_requested_gt
      (maxDecompressedBatchSize + constant * decrypted.length)
    exact absurd (bounded decodeAll) (Nat.not_le.mpr more)
  · simp only [requested_of_not_isZstdBatch batch, forall_const, batch, not_false_eq_true, true_and]

/-- Five octets announce any number of certificates, and two octets may be
decompressed to anything. -/
theorem decoding_memory_unbounded :
    (¬ ∃ constant, ∀ decodeAll decrypted, decrypted.length ≤ maxPayloadSize →
        requested decodeAll decrypted ≤ maxDecompressedBatchSize + constant * decrypted.length) ∧
      requestedByParse (syncSslCertificatesRequestPacketId :: [255, 255, 255, 255]) =
          68719476720 := by
  refine ⟨?_, by decide +kernel⟩
  rintro ⟨constant, bounded⟩
  have batch : IsZstdBatch [compressedBatchPacketId, compressionAlgoZstd] :=
    rfl
  obtain ⟨decodeAll, more⟩ := batch.exists_requested_gt (maxDecompressedBatchSize + constant * 2)
  have few := bounded decodeAll [compressedBatchPacketId, compressionAlgoZstd] (by decide)
  exact absurd few (Nat.not_le.mpr more)

/-! ## Round trip -/

theorem contract_read_back_iff (contract : TcpGatewayContract) (fits : contract.FieldsFit) :
    parse contract.body = .ret (.ok contract) ↔ contract.Exact := by
  rw [parse_body fits, ret.injEq, Except.ok.injEq, asReceived_eq_self_iff]

theorem contract_read_back_iff_second :
    (TcpGatewayContract.connect 1 (.fromSecs 1) "h:1".toList).FieldsFit ∧
      (parse (TcpGatewayContract.connect 1 (.fromSecs 1) "h:1".toList).body =
          .ret (.ok (.connect 1 (.fromSecs 1) "h:1".toList)) ↔
        (TcpGatewayContract.connect 1 (.fromSecs 1) "h:1".toList).Exact) :=
  ⟨trivial, contract_read_back_iff _ trivial⟩

/-- Half a second arrives as no time, and five minutes as 44 seconds. -/
theorem connect_timeout_not_read_back :
    parse (TcpGatewayContract.connect 1 ⟨500000000⟩ "h:1".toList).body =
        .ret (.ok (.connect 1 (.fromSecs 0) "h:1".toList)) ∧
      parse (TcpGatewayContract.connect 1 (.fromSecs 300) "h:1".toList).body =
        .ret (.ok (.connect 1 (.fromSecs 44) "h:1".toList)) := by
  decide +kernel

end ReverseProxy
