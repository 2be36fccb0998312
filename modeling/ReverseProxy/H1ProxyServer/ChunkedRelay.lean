import ReverseProxy.H1ProxyServer.KnownSizeRelay
import ReverseProxy.Rfc7230.ChunkedBody

/-!
# What a chunked transfer takes

The relay takes a size line, as many bytes as it spells and two line ends it does
not look at, until a chunk of size zero.  `RelayedChunks` is that reading of a
stream; on `PlainChunks` it agrees with the chunked coding.
-/

namespace ReverseProxy

open Library Rfc7230 ChunkHeader Outcome List

/-! ## Chunk sizes -/

theorem parseHexDigit_eq (octet : UInt8) : parseHexDigit octet = hexDigit octet :=
  rfl

/-- The loop computes the spelled number modulo the size of a word. -/
theorem chunkSizeLoop_eq {reversed : Bytes} {result : Nat} (multiplier : Nat)
    (small : result < usizeSize) :
    chunkSizeLoop reversed result multiplier =
      match hexNumber reversed.reverse with
      | some number => .ok ((result + number * multiplier) % usizeSize)
      | none => .error .chunkHeaderParseError := by
  induction reversed generalizing result multiplier with
  | nil => simp [chunkSizeLoop, hexNumber, Nat.mod_eq_of_lt small]
  | cons octet rest ih =>
    rw [chunkSizeLoop, parseHexDigit_eq, reverse_cons, hexNumber_append]
    cases spelled : hexDigit octet with
    | none =>
      cases hexNumber rest.reverse with
      | none => rfl
      | some high => simp [hexNumber, spelled]
    | some digit =>
      have next := ih (multiplier * 16 % usizeSize)
        (Nat.mod_lt (result + digit * multiplier) (by decide))
      simp only [next]
      cases hexNumber rest.reverse with
      | none => rfl
      | some high =>
        simp only [hexNumber, spelled, length_nil, Nat.pow_zero,
          Nat.mul_one, Nat.add_zero, length_cons, Nat.zero_add,
          Nat.pow_one]
        congr 1
        rw [Nat.add_mod, Nat.mod_mod, Nat.mul_mod, Nat.mod_mod, ← Nat.mul_mod, ← Nat.add_mod]
        congr 1
        ring

theorem getChunkSize_eq (chunk : Bytes) (len : Nat) :
    getChunkSize chunk len =
      match hexNumber (chunk.take len) with
      | some number => .ok (number % usizeSize)
      | none => .error .chunkHeaderParseError := by
  rw [getChunkSize, chunkSizeLoop_eq 1 (by decide)]
  simp

/-- What a size line stands for: the number of one or more digits, if the chunk
with the bytes buffered before it and its line ends has a size in a word. -/
def chunkSizeOf (line : Bytes) (buffered : Nat) : Option Nat :=
  (hexNumber line).filter fun size => line ≠ [] ∧ buffered + size + 4 < usizeSize

/-- A size line is read as it stands for exactly if it has a digit, and its
number, should it have one, is small enough. -/
theorem getChunkSize_exact_iff (line after : Bytes) (buffered : Nat) :
    (getChunkSize (line ++ after) line.length).toOption = chunkSizeOf line buffered ↔
      line ≠ [] ∧ ∀ size ∈ hexNumber line, buffered + size + 4 < usizeSize := by
  rw [getChunkSize_eq, take_left, chunkSizeOf]
  cases spelled : hexNumber line with
  | none =>
    have digits : line ≠ [] := by
      rintro rfl
      contradiction
    simp [Except.toOption, digits]
  | some size =>
    by_cases fits : line ≠ [] ∧ buffered + size + 4 < usizeSize
    · have whole : size % usizeSize = size := Nat.mod_eq_of_lt (by omega)
      simp [Except.toOption, Option.filter_some, fits, whole]
    · simp [Except.toOption, Option.filter_some, fits]

/-- An empty line is read as 0, and so is the line for `16 ^ 16`. -/
theorem getChunkSize_wraps :
    (getChunkSize [] 0).toOption = some 0 ∧ chunkSizeOf [] 0 = none ∧
      (getChunkSize (49 :: replicate 16 48) 17).toOption = some 0 ∧
      chunkSizeOf (49 :: replicate 16 48) 0 = none := by
  decide +kernel

theorem chunkHeader_new_ok {line after : Bytes} {header : ChunkHeader} :
    new line.length (line ++ after) = .ok header ↔
      header.len = line.length ∧ ∃ number, hexNumber line = some number ∧
          header.chunkSize = number % usizeSize := by
  unfold new
  rw [getChunkSize_eq, take_left]
  cases hexNumber line with
  | none =>
    constructor
    · intro made
      contradiction
    · simp
  | some number =>
    constructor
    · intro made
      cases made
      exact ⟨rfl, number, rfl, rfl⟩
    · rintro ⟨len, found, same, size⟩
      cases same
      cases header
      subst len size
      rfl

/-! ## The relay's reading of a stream -/

/-- A size line at the start of the stream makes the relay take `frame`. -/
structure ChunkFrame (stream frame rest : Bytes) (size : Nat) : Prop where
  line : ∃ sizeLine after number, stream = sizeLine ++ httpCrLf ++ after ∧
    CrLfFree sizeLine ∧ hexNumber sizeLine = some number ∧ size = number % usizeSize ∧
        frame.length = (sizeLine.length + size + 4) % usizeSize
  split : stream = frame ++ rest

/-- The relay takes `taken` from the stream and leaves `rest`. -/
inductive RelayedChunks : Bytes → Bytes → Bytes → Prop where
  | last {stream frame rest : Bytes} (final : ChunkFrame stream frame rest 0) :
      RelayedChunks stream frame rest
  | chunk {stream frame middle taken rest : Bytes} {size : Nat}
      (first : ChunkFrame stream frame middle size) (nonzero : size ≠ 0)
      (others : RelayedChunks middle taken rest) :
      RelayedChunks stream (frame ++ taken) rest

/-- A frame whose size line fits into the buffer. -/
structure BufferedFrame (stream frame rest : Bytes) (size : Nat) : Prop
    extends ChunkFrame stream frame rest size where
  short : ∃ sizeLine after, stream = sizeLine ++ httpCrLf ++ after ∧
    CrLfFree sizeLine ∧ sizeLine.length + 2 ≤ bufferCapacity

/-- `RelayedChunks` with size lines that fit into the buffer. -/
inductive BufferedChunks : Bytes → Bytes → Bytes → Prop where
  | last {stream frame rest : Bytes} (final : BufferedFrame stream frame rest 0) :
      BufferedChunks stream frame rest
  | chunk {stream frame middle taken rest : Bytes} {size : Nat}
      (first : BufferedFrame stream frame middle size) (nonzero : size ≠ 0)
      (others : BufferedChunks middle taken rest) :
      BufferedChunks stream (frame ++ taken) rest

variable {stream rest : Bytes}

theorem ChunkFrame.append {frame : Bytes} {size : Nat}
    (framed : ChunkFrame stream frame rest size) (more : Bytes) :
    ChunkFrame (stream ++ more) frame (rest ++ more) size := by
  obtain ⟨line, after, number, source, numbers⟩ := framed.line
  refine ⟨⟨line, after ++ more, number, ?_, numbers⟩, ?_⟩
  · rw [source, append_assoc]
  · rw [framed.split, append_assoc]

theorem BufferedChunks.relayed {taken : Bytes}
    (buffered : BufferedChunks stream taken rest) (more : Bytes) :
    RelayedChunks (stream ++ more) taken (rest ++ more) := by
  induction buffered with
  | last final => exact .last (final.toChunkFrame.append more)
  | chunk first nonzero _ ih =>
    exact .chunk (first.toChunkFrame.append more) nonzero ih

theorem ChunkFrame.unique {frame frame' rest' : Bytes} {size size' : Nat}
    (left : ChunkFrame stream frame rest size)
    (right : ChunkFrame stream frame' rest' size') :
    frame = frame' ∧ rest = rest' ∧ size = size' := by
  obtain ⟨line, after, number, source, free, hex, sizeEq, length⟩ := left.line
  obtain ⟨line', after', number', source', free', hex', sizeEq', length'⟩ := right.line
  obtain ⟨rfl, _⟩ := line_unique free free' (source ▸ source')
  rw [hex] at hex'
  cases hex'
  have sizes : size = size' := by rw [sizeEq, sizeEq']
  have lengths : frame.length = frame'.length := by
    rw [length, length', sizes]
  obtain ⟨frames, rests⟩ := append_inj (left.split ▸ right.split) lengths
  exact ⟨frames, rests, sizes⟩

theorem RelayedChunks.unique {taken taken' rest' : Bytes} (left : RelayedChunks stream taken rest)
    (right : RelayedChunks stream taken' rest') :
    taken = taken' ∧ rest = rest' := by
  induction left generalizing taken' with
  | last final =>
    cases right with
    | last final' =>
      obtain ⟨frames, rests, _⟩ := final.unique final'
      exact ⟨frames, rests⟩
    | chunk first' nonzero _ =>
      obtain ⟨_, _, sizes⟩ := final.unique first'
      exact (nonzero sizes.symm).elim
  | chunk first nonzero _ ih =>
    cases right with
    | last final' =>
      obtain ⟨_, _, sizes⟩ := first.unique final'
      exact (nonzero sizes).elim
    | chunk first' _ others' =>
      obtain ⟨rfl, rfl, _⟩ := first.unique first'
      obtain ⟨rfl, rests⟩ := ih others'
      exact ⟨rfl, rests⟩

section

variable {σ : Type} [H1Writer σ] [SliceOfU8Ext]

omit [H1Writer σ] [SliceOfU8Ext] in
theorem Relay.available_isPrefix (relay : Relay σ) : relay.available <+: relay.pending :=
  (prefix_append_right_inj _).mpr (readable_isPrefix relay.events)

variable {relay after : Relay σ}

theorem readChunkHeader_ok {fuel : Nat} {header : ChunkHeader} (wf : relay.buffer.Wf)
    (read : readChunkHeader fuel relay = .ret (after, .ok header)) :
    Consumes relay after [] ∧ ∃ line rest number, after.buffer.contents = line ++ httpCrLf ++ rest ∧
        CrLfFree line ∧ header.len = line.length ∧ hexNumber line = some number ∧
            header.chunkSize = number % usizeSize := by
  induction fuel generalizing relay with
  | zero => simp [readChunkHeader] at read
  | succ fuel ih =>
    rw [readChunkHeader, LoopBuffer.getData_of_wf wf] at read
    simp only [bind_ret] at read
    cases found : (if relay.buffer.contents.length > 2 then
        findSequencePos relay.buffer.contents httpCrLf 0 else none) with
    | none =>
      simp only [found] at read
      cases more : readMore relay with
      | mk next result =>
        cases result with
        | error err => simp [more] at read
        | ok value =>
          simp only [more] at read
          obtain ⟨received, _⟩ := readMore_ok wf more
          obtain ⟨consumed, line⟩ := ih received.wf read
          exact ⟨received.trans consumed, line⟩
    | some crlfPos =>
      simp only [found] at read
      have position : findSequencePos relay.buffer.contents httpCrLf 0 =
          some crlfPos := by
        split at found
        · exact found
        · contradiction
      rw [SliceOfU8Ext.findSequencePos_eq_some_iff (Nat.zero_le _) (by decide)] at position
      obtain ⟨line, rest, source, length, free⟩ := position.segment
      have contents : relay.buffer.contents = line ++ (httpCrLf ++ rest) := by
        simpa [httpCrLf] using source
      have pair : relay = after ∧ new crlfPos relay.buffer.contents = .ok header := by
        simpa using read
      obtain ⟨rfl, made⟩ := pair
      rw [contents, ← length, Nat.zero_add, chunkHeader_new_ok] at made
      obtain ⟨len, number, hex, size⟩ := made
      exact ⟨.refl wf, line, rest, number, by simp [contents], free, len, hex, size⟩

theorem chunkRound_ok {fuel transferred : Nat} {middle : Relay σ}
    {header : ChunkHeader} (wf : relay.buffer.Wf)
    (read : readChunkHeader fuel relay = .ret (middle, .ok header))
    (moved : transferChunkData middle header = .ret (after, .ok transferred)) :
    ∃ frame, Consumes relay after frame ∧ BufferedFrame relay.available frame after.available
        header.chunkSize := by
  obtain ⟨looked, line, rest, number, contents, free, len, hex, size⟩ := readChunkHeader_ok wf read
  rw [transferChunkData, bind_eq_ret_iff] at moved
  obtain ⟨⟨last, relayed⟩, exact, made⟩ := moved
  cases relayed with
  | error err => simp at made
  | ok value =>
    have same : last = after ∧ header.total = transferred := by
      simpa using made
    obtain ⟨rfl, _⟩ := same
    obtain ⟨frame, consumed, length⟩ := relayExactly_ok looked.wf exact
    have both := looked.trans consumed
    have source : relay.available = line ++ httpCrLf ++ (rest ++ readable middle.events) := by
      rw [looked.available]
      simp [Relay.available, contents]
    have inside := looked.wf.contents_le
    rw [contents] at inside
    simp only [length_append, httpCrLf, length_cons, length_nil] at inside
    refine ⟨frame, both, ⟨⟨line, _, number, source, free, hex, size, ?_⟩,
      both.available⟩, line, _, source, free, by omega⟩
    rw [length, total, len]
    rfl

section

variable {fuel total result : Nat} (wf : relay.buffer.Wf)
  (done : transferChunks fuel relay total = .ret (after, .ok result))

include wf done

theorem transferChunks_buffered :
    ∃ taken, Consumes relay after taken ∧
      BufferedChunks relay.available taken after.available := by
  induction fuel generalizing relay total with
  | zero => simp [transferChunks] at done
  | succ fuel ih =>
    rw [transferChunks, bind_eq_ret_iff] at done
    obtain ⟨⟨middle, headerResult⟩, read, continued⟩ := done
    cases headerResult with
    | error err => simp at continued
    | ok header =>
      rw [bind_eq_ret_iff] at continued
      obtain ⟨⟨next, chunkResult⟩, moved, finished⟩ := continued
      cases chunkResult with
      | error err => simp at finished
      | ok transferred =>
        obtain ⟨frame, consumed, framed⟩ := chunkRound_ok wf read moved
        simp only at finished
        split at finished
        · next zero =>
            cases finished
            exact ⟨frame, consumed, .last (zero ▸ framed)⟩
        · next nonzero =>
            obtain ⟨taken, others, chunks⟩ := ih consumed.wf finished
            exact ⟨frame ++ taken, consumed.trans others, .chunk framed nonzero chunks⟩

theorem transferChunks_ok :
    ∃ taken, Consumes relay after taken ∧
      RelayedChunks relay.pending taken after.pending := by
  obtain ⟨taken, consumed, chunks⟩ := transferChunks_buffered wf done
  obtain ⟨hidden, unseen⟩ := relay.available_isPrefix
  have rest : after.pending = after.available ++ hidden := by
    have split := consumed.pending
    rw [← unseen, consumed.available, append_assoc] at split
    exact (append_cancel_left split).symm
  refine ⟨taken, consumed, ?_⟩
  rw [rest, ← unseen]
  exact chunks.relayed hidden

end

end

/-! ## Bodies both readings agree on -/

/-- Chunked bodies without extensions and trailers whose size lines fit into
the buffer and whose frames fit into a word. -/
inductive PlainChunks : Bytes → Prop where
  | last {size : Bytes} (sizeZero : ChunkSize size 0) (short : size.length + 2 ≤ bufferCapacity) :
      PlainChunks (size ++ httpCrLf ++ httpCrLf)
  | chunk {size data more : Bytes} (sizeData : ChunkSize size data.length)
      (nonempty : data ≠ []) (short : size.length + 2 ≤ bufferCapacity)
      (fits : size.length + data.length + 4 < usizeSize)
      (others : PlainChunks more) :
      PlainChunks (size ++ httpCrLf ++ data ++ httpCrLf ++ more)

theorem PlainChunks.chunkedBody {body : Bytes} (plain : PlainChunks body) :
    ChunkedBody body := by
  induction plain with
  | @last size sizeZero short =>
    have body : ChunkedBody (size ++ [] ++ httpCrLf ++ joinLines [] ++ httpCrLf) :=
      .last sizeZero (Or.inl rfl) (by simp)
    simpa using body
  | @chunk size data more sizeData nonempty short fits others ih =>
    simpa using ChunkedBody.chunk sizeData nonempty (Or.inl rfl) ih

theorem hexNumber_free {line : Bytes} {number : Nat}
    (hex : hexNumber line = some number) : CrLfFree line := by
  apply SeparatorFree.of_not_mem
  intro present
  induction line generalizing number with
  | nil => simp at present
  | cons octet rest ih =>
    rw [hexNumber] at hex
    rcases mem_cons.mp present with rfl | member
    · have noDigit : hexDigit 13 = none := by decide
      simp [noDigit] at hex
    cases found : hexNumber rest with
    | none =>
      cases hexDigit octet with
      | none => simp [found] at hex
      | some digit => simp [found] at hex
    | some lower => exact ih found member

theorem plainFrame {size : Bytes} (data rest : Bytes) {number : Nat}
    (hex : ChunkSize size number) (length : data.length = number + 2)
    (short : size.length + 2 ≤ bufferCapacity)
    (fits : size.length + number + 4 < usizeSize) :
    BufferedFrame (size ++ httpCrLf ++ data ++ rest) (size ++ httpCrLf ++ data) rest number :=
  { line := ⟨size, data ++ rest, number, by simp, hexNumber_free hex.2,
      hex.2, (Nat.mod_eq_of_lt (by omega)).symm, by
        rw [Nat.mod_eq_of_lt fits]
        simp only [length_append, length, httpCrLf, length_cons, length_nil]
        omega⟩
    split := rfl
    short := ⟨size, data ++ rest, by simp, hexNumber_free hex.2, short⟩ }

theorem PlainChunks.buffered {body : Bytes} (plain : PlainChunks body)
    (rest : Bytes) : BufferedChunks (body ++ rest) body rest := by
  induction plain with
  | @last size sizeZero short =>
    have capacity : bufferCapacity + 4 < usizeSize := by decide
    exact .last (plainFrame httpCrLf rest sizeZero rfl short (by omega))
  | @chunk size data more sizeData nonempty short fits others ih =>
    have framed := plainFrame (data ++ httpCrLf) (more ++ rest) sizeData
      (by simp [httpCrLf]) short fits
    have nonzero : data.length ≠ 0 := by
      simpa using nonempty
    have taken := BufferedChunks.chunk framed nonzero ih
    simpa using taken

theorem PlainChunks.relayed {body : Bytes} (plain : PlainChunks body)
    (rest : Bytes) : RelayedChunks (body ++ rest) body rest := by
  simpa using (plain.buffered rest).relayed []

section

variable {σ : Type} [H1Writer σ] [SliceOfU8Ext]

variable {relay : Relay σ} {rest : Bytes}

theorem readChunkHeader_progress (fuel : Nat) {line : Bytes} {number : Nat} (wf : relay.buffer.Wf)
    (arrives : relay.available = line ++ httpCrLf ++ rest)
    (hex : hexNumber line = some number)
    (short : line.length + 2 ≤ bufferCapacity)
    (long : 2 < relay.available.length) (enough : relay.available.length <
      relay.buffer.contents.length + fuel) :
    ∃ after header, readChunkHeader fuel relay = .ret (after, .ok header) := by
  have free := hexNumber_free hex
  induction fuel generalizing relay with
  | zero =>
    have := relay.length_available
    omega
  | succ fuel ih =>
    rw [readChunkHeader, LoopBuffer.getData_of_wf wf]
    simp only [bind_ret]
    cases found : (if relay.buffer.contents.length > 2 then
        findSequencePos relay.buffer.contents httpCrLf 0 else none) with
    | some crlfPos =>
      have position : findSequencePos relay.buffer.contents httpCrLf 0 =
          some crlfPos := by
        split at found
        · exact found
        · contradiction
      rw [SliceOfU8Ext.findSequencePos_eq_some_iff (Nat.zero_le _) (by decide)] at position
      obtain ⟨other, after, source, length, otherFree⟩ := position.segment
      have contents : relay.buffer.contents = other ++ httpCrLf ++ after := by
        simpa [httpCrLf] using source
      have same : other ++ httpCrLf ++ (after ++ readable relay.events) =
          line ++ httpCrLf ++ rest := by
        rw [← arrives, Relay.available, contents]
        simp
      obtain ⟨rfl, _⟩ := line_unique otherFree free same
      refine ⟨relay, { len := other.length
                       chunkSize := number % usizeSize }, ?_⟩
      have made : new other.length (other ++ (httpCrLf ++ after)) = .ok
            { len := other.length, chunkSize := number % usizeSize } :=
        chunkHeader_new_ok.mpr ⟨rfl, number, hex, rfl⟩
      rw [← append_assoc, ← contents] at made
      simp only [← length, Nat.zero_add, made]
      rfl
    | none =>
      have incomplete : relay.buffer.contents.length < max (line.length + 2) 3 := by
        by_contra complete
        have isPrefix : relay.buffer.contents <+: line ++ httpCrLf ++ rest := by
          rw [← arrives]
          exact prefix_append _ _
        have lineInside : line ++ httpCrLf <+: relay.buffer.contents := by
          apply prefix_of_prefix_length_le (prefix_append _ rest) isPrefix
          simp only [length_append, httpCrLf, length_cons, length_nil]
          omega
        obtain ⟨after, contents⟩ := lineInside
        have position := Http1Headers.findSequencePos_line [] after free
        simp only [nil_append, length_nil, Nat.zero_add, contents] at position
        rw [if_pos (by omega), position] at found
        contradiction
      have total := relay.length_available
      have arrived := congrArg List.length arrives
      simp only [length_append, httpCrLf, length_cons, length_nil] at arrived
      have capacity : 3 ≤ bufferCapacity := by decide
      have more : readable relay.events ≠ [] := by
        intro none
        rw [none, length_nil] at total
        omega
      obtain ⟨next, read⟩ := readMore_progress wf (by omega) more
      obtain ⟨received, bytes, nonempty, contents⟩ := readMore_ok wf read
      have sameAvailable : next.available = relay.available := by
        simpa using received.available.symm
      have grown := congrArg List.length contents
      have positive : 0 < bytes.length := length_pos_iff.mpr nonempty
      rw [length_append] at grown
      simp only [read]
      apply ih received.wf
      · rw [sameAvailable, arrives]
      · rw [sameAvailable]
        exact long
      · rw [sameAvailable]
        omega

omit [H1Writer σ] [SliceOfU8Ext] in
theorem Relay.available_le_pending (relay : Relay σ) :
    relay.available.length ≤ relay.pending.length :=
  relay.available_isPrefix.length_le

theorem chunkRound_progress (accepts : AcceptsAll σ) {frame : Bytes}
    {size : Nat} (wf : relay.buffer.Wf)
    (framed : BufferedFrame relay.available frame rest size) :
    ∃ middle header after,
      readChunkHeader (relay.pending.length + 1) relay = .ret (middle, .ok header) ∧
        transferChunkData middle header = .ret (after, .ok header.total) ∧
        header.chunkSize = size ∧ Consumes relay after frame ∧ after.available = rest := by
  obtain ⟨line, tail, number, source, free, hex, sizeEq, length⟩ := framed.line
  obtain ⟨line', tail', source', free', short⟩ := framed.short
  obtain ⟨rfl, _⟩ := line_unique free free' (source ▸ source')
  have arrived := congrArg List.length source
  have whole := congrArg List.length framed.split
  simp only [length_append, httpCrLf, length_cons, length_nil] at arrived whole
  have pendingLength := relay.available_le_pending
  have long : 2 < relay.available.length := by
    cases line with
    | nil =>
      have zero : number = 0 := by simpa [hexNumber] using hex.symm
      rw [sizeEq, zero] at length
      have four : (0 + 0 % usizeSize + 4) % usizeSize = 4 := by decide
      rw [length_nil, four] at length
      omega
    | cons octet others =>
      simp only [length_cons] at arrived
      omega
  obtain ⟨middle, header, read⟩ := readChunkHeader_progress
    (relay.pending.length + 1) wf source hex short long (by omega)
  obtain ⟨looked, found, behind, spelled, contents, foundFree, len, foundHex,
      chunkSize⟩ := readChunkHeader_ok wf read
  have same : line ++ httpCrLf ++ tail =
      found ++ httpCrLf ++ (behind ++ readable middle.events) := by
    rw [← source, looked.available, Relay.available, contents, nil_append, append_assoc]
  obtain ⟨rfl, _⟩ := line_unique free foundFree same
  rw [hex] at foundHex
  cases foundHex
  rw [← sizeEq] at chunkSize
  have total : header.total = frame.length := by
    rw [total, len, chunkSize, length]
    rfl
  have sameAvailable : middle.available = relay.available := by
    simpa using looked.available.symm
  obtain ⟨after, exact⟩ := relayExactly_progress accepts looked.wf
    (Or.inl (Nat.lt_add_one header.total)) (by rw [sameAvailable]; omega)
  have moved : transferChunkData middle header = .ret (after, .ok header.total) := by
    rw [transferChunkData, exact]
    rfl
  obtain ⟨taken, consumed, takenFrame⟩ := chunkRound_ok wf read moved
  obtain ⟨rfl, rests, _⟩ := takenFrame.toChunkFrame.unique framed.toChunkFrame
  exact ⟨middle, header, after, read, moved, chunkSize, consumed, rests⟩

omit [H1Writer σ] [SliceOfU8Ext] in
theorem BufferedChunks.frame_ne_nil {stream taken frame middle : Bytes}
    {size : Nat} (buffered : BufferedChunks stream taken rest)
    (framed : BufferedFrame stream frame middle size) (nonzero : size ≠ 0) :
    frame ≠ [] := by
  induction buffered generalizing frame middle with
  | last final =>
    obtain ⟨_, _, sizes⟩ := framed.toChunkFrame.unique final.toChunkFrame
    exact (nonzero sizes).elim
  | chunk first _ _ ih =>
    obtain ⟨rfl, rfl, _⟩ := framed.toChunkFrame.unique first.toChunkFrame
    intro empty
    have same := framed.split
    rw [empty, nil_append] at same
    subst same
    exact ih framed empty

theorem transferChunks_progress (accepts : AcceptsAll σ) {taken : Bytes}
    (buffered : BufferedChunks relay.available taken rest) {fuel : Nat}
    (total : Nat) (wf : relay.buffer.Wf)
    (enough : relay.available.length < fuel) :
    ∃ after result, transferChunks fuel relay total = .ret (after, .ok result) := by
  generalize arrives : relay.available = stream at buffered
  induction buffered generalizing relay fuel total with
  | last final =>
    obtain ⟨fuel, rfl⟩ : ∃ rounds, fuel = rounds + 1 := Nat.exists_eq_succ_of_ne_zero (by omega)
    obtain ⟨middle, header, after, read, moved, chunkSize, _⟩ :=
      chunkRound_progress accepts wf (arrives ▸ final)
    rw [transferChunks, read]
    simp only [bind_ret, moved, chunkSize, if_true]
    exact ⟨_, _, rfl⟩
  | chunk first nonzero others ih =>
    obtain ⟨fuel, rfl⟩ : ∃ rounds, fuel = rounds + 1 := Nat.exists_eq_succ_of_ne_zero (by omega)
    obtain ⟨middle, header, after, read, moved, chunkSize, consumed,
        available⟩ := chunkRound_progress accepts wf (arrives ▸ first)
    have taking := length_pos_iff.mpr
      ((BufferedChunks.chunk first nonzero others).frame_ne_nil first nonzero)
    rw [transferChunks, read]
    simp only [bind_ret, moved, chunkSize, nonzero, if_false]
    apply ih _ consumed.wf _ available
    have arrived := congrArg List.length consumed.available
    rw [length_append] at arrived
    omega

/-! ## Bodies of any framing -/

/-- What a transfer takes from a stream, by the recorded framing. -/
def TakesBody : HttpContentLength → Bytes → Bytes → Bytes → Prop
  | .none, _, taken, _ => taken = []
  | .known size, _, taken, _ => taken.length = size
  | .chunked, stream, taken, rest => RelayedChunks stream taken rest

theorem transferBody_ok {contentLength : HttpContentLength} {after : Relay σ}
    {count : Nat} (wf : relay.buffer.Wf)
    (done : transferBody relay contentLength = .ret (after, .ok count)) :
    ∃ taken, Consumes relay after taken ∧
      TakesBody contentLength relay.pending taken after.pending := by
  cases contentLength with
  | none =>
    cases done
    exact ⟨[], .refl wf, rfl⟩
  | known size =>
    simp only [transferBody] at done
    split at done
    · next zero =>
        cases done
        exact ⟨[], .refl wf, zero.symm⟩
    rw [transferKnownSize, bind_eq_ret_iff] at done
    obtain ⟨⟨last, result⟩, relayed, made⟩ := done
    cases result with
    | error err => simp at made
    | ok value =>
      have same : last = after ∧ size = count := by simpa using made
      obtain ⟨rfl, _⟩ := same
      exact relayExactly_ok wf relayed
  | chunked => exact transferChunks_ok wf done

/-- The bytes at hand hold a body of the recorded framing. -/
def BodyArrives : HttpContentLength → Bytes → Prop
  | .none, _ => True
  | .known size, available => size ≤ available.length
  | .chunked, available =>
    ∃ body rest, available = body ++ rest ∧ PlainChunks body

theorem transferBody_progress (accepts : AcceptsAll σ)
    {contentLength : HttpContentLength} (wf : relay.buffer.Wf)
    (arrives : BodyArrives contentLength relay.available) :
    ∃ after count, transferBody relay contentLength = .ret (after, .ok count) := by
  cases contentLength with
  | none => exact ⟨relay, 0, rfl⟩
  | known size =>
    simp only [transferBody]
    split
    · exact ⟨relay, 0, rfl⟩
    obtain ⟨after, relayed⟩ := relayExactly_progress accepts wf
      (Or.inl (Nat.lt_add_one size)) arrives
    refine ⟨after, size, ?_⟩
    rw [transferKnownSize, relayed]
    rfl
  | chunked =>
    obtain ⟨body, rest, split, plain⟩ := arrives
    have short := relay.available_le_pending
    exact transferChunks_progress accepts (split ▸ plain.buffered rest) 0 wf (by omega)

end

end ReverseProxy
