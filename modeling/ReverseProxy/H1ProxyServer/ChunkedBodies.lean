import ReverseProxy.H1ProxyServer.ChunkedRelay

/-!
# Chunked bodies and the relay's frames

`transfer_chunked_body` cuts a stream by its size lines alone.  A stream is
`FramedBySizes` when that cut is the chunked coding: then a chunked body at its
start is forwarded whole and alone, and every other stream ends in an error.
-/

namespace ReverseProxy

open Library Rfc7230 Outcome LoopBuffer List

/-! ## Streams without an end -/

/-- The cut reaches a frame whose wrapped length is zero. -/
inductive EndlessChunks : Bytes → Prop where
  | stuck {stream : Bytes} {size : Nat}
      (frame : BufferedFrame stream [] stream size) (nonzero : size ≠ 0) :
      EndlessChunks stream
  | chunk {stream frame middle : Bytes} {size : Nat}
      (first : BufferedFrame stream frame middle size) (nonzero : size ≠ 0)
      (others : EndlessChunks middle) : EndlessChunks stream

section

variable {σ : Type} [H1Writer σ] [SliceOfU8Ext]

variable {relay : Relay σ}

/-- Every round of an endless stream is followed by another one. -/
theorem transferChunks_endless (accepts : AcceptsAll σ)
    (endless : EndlessChunks relay.available) (wf : relay.buffer.Wf)
    (fuel total : Nat) :
    transferChunks fuel relay total = .diverge := by
  induction fuel generalizing relay total with
  | zero => rfl
  | succ fuel ih =>
    obtain ⟨frame, middle, size, framed, nonzero, others⟩ :
        ∃ frame middle size, BufferedFrame relay.available frame middle size ∧
          size ≠ 0 ∧ EndlessChunks middle := by
      cases endless with
      | stuck frame nonzero =>
        exact ⟨_, _, _, frame, nonzero, .stuck frame nonzero⟩
      | chunk first nonzero others => exact ⟨_, _, _, first, nonzero, others⟩
    obtain ⟨looked, header, after, read, moved, chunkSize, consumed,
        available⟩ := chunkRound_progress accepts wf framed
    rw [transferChunks, read]
    simp only [bind_ret, moved, chunkSize, nonzero, if_false]
    exact ih (available ▸ others) consumed.wf _

theorem readChunkHeader_returns {fuel : Nat} (wf : relay.buffer.Wf)
    (enough : (readable relay.events).length < fuel) :
    ∃ after result, readChunkHeader fuel relay = .ret (after, result) := by
  induction fuel generalizing relay with
  | zero => omega
  | succ fuel ih =>
    rw [readChunkHeader, getData_of_wf wf]
    simp only [bind_ret]
    cases (if relay.buffer.contents.length > 2 then
        findSequencePos relay.buffer.contents httpCrLf 0 else none) with
    | some crlfPos => exact ⟨_, _, rfl⟩
    | none =>
      cases read : readMore relay with
      | mk next result =>
        cases result with
        | error err => exact ⟨_, _, rfl⟩
        | ok value =>
          obtain ⟨received, bytes, nonempty, contents⟩ := readMore_ok wf read
          have positive := length_pos_iff.mpr nonempty
          have arrived := congrArg List.length received.available
          simp only [Relay.available, contents, nil_append, length_append] at arrived
          exact ih received.wf (by omega)

omit [SliceOfU8Ext] in
theorem transferChunkData_returns (wf : relay.buffer.Wf) (header : ChunkHeader) :
    ∃ after result, transferChunkData relay header = .ret (after, result) := by
  obtain ⟨log, after, result, ran, _⟩ :=
    relayExactlyLogged_ends wf (.inl (Nat.lt_succ_self header.total))
  rw [transferChunkData, relayExactly_of_logged ran]
  cases result with
  | error err | ok value => exact ⟨_, _, rfl⟩

theorem transferChunks_returns {fuel : Nat} (total : Nat)
    (wf : relay.buffer.Wf) (finite : ¬ EndlessChunks relay.available)
    (enough : relay.available.length < fuel) :
    ∃ after result, transferChunks fuel relay total = .ret (after, result) := by
  induction fuel generalizing relay total with
  | zero => omega
  | succ fuel ih =>
    have short := relay.available_le_pending
    have lengths := relay.length_available
    obtain ⟨middle, looked, read⟩ : ∃ middle looked,
        readChunkHeader (relay.pending.length + 1) relay = .ret (middle, looked) :=
      readChunkHeader_returns wf (by omega)
    rw [transferChunks, read, bind_ret]
    cases looked with
    | error err => exact ⟨_, _, rfl⟩
    | ok header =>
      obtain ⟨after, result, moved⟩ := transferChunkData_returns
        (readChunkHeader_ok wf read).1.wf header
      simp only [moved, bind_ret]
      cases result with
      | error err => exact ⟨_, _, rfl⟩
      | ok transferred =>
        obtain ⟨frame, consumed, framed⟩ := chunkRound_ok wf read moved
        by_cases zero : header.chunkSize = 0
        · simp only [zero, if_true]
          exact ⟨_, _, rfl⟩
        simp only [zero, if_false]
        have available := consumed.available
        -- an empty frame would have made the stream endless
        have taking : frame ≠ [] := by
          rintro rfl
          rw [nil_append] at available
          rw [← available] at framed
          exact finite (.stuck framed zero)
        have positive := length_pos_iff.mpr taking
        have arrived := congrArg List.length available
        rw [length_append] at arrived
        refine ih _ consumed.wf ?_ (by omega)
        intro others
        exact finite (.chunk framed zero others)

end

/-! ## The chunked coding against the cut -/

variable {extension : Bytes}

theorem chunkExtension_cases (extended : ChunkExtension extension) :
    extension = [] ∨ ∃ rest, extension = 59 :: rest ∧ CrLfFree rest := by
  rcases extended with empty | ⟨semicolon, free⟩
  · exact .inl empty
  cases extension with
  | nil => exact .inl rfl
  | cons octet rest =>
    have same : octet = 59 := by simpa using semicolon
    subst same
    exact .inr ⟨rest, rfl, free.of_isInfix (suffix_cons _ _).isInfix⟩

variable {number : Nat}

variable {size : Bytes}

theorem sizeLine_free (spelled : ChunkSize size number)
    (extended : ChunkExtension extension) :
    CrLfFree (size ++ extension) := by
  have free := hexNumber_free spelled.2
  rcases chunkExtension_cases extended with rfl | ⟨rest, rfl, restFree⟩
  · rw [append_nil]
    exact free
  · exact free.append_cons restFree (by decide) (by decide)

theorem hexNumber_extension (extended : ChunkExtension extension)
    (hex : hexNumber (size ++ extension) = some number) : extension = [] := by
  rcases chunkExtension_cases extended with empty | ⟨rest, rfl, _⟩
  · exact empty
  have noDigit : hexDigit 59 = none := by decide
  have noNumber : hexNumber (59 :: rest) = none := by
    simp [hexNumber, noDigit]
  rw [hexNumber_append, noNumber] at hex
  cases found : hexNumber size with
  | none | some high => simp [found] at hex

variable {rest : Bytes}

theorem BufferedFrame.of_chunkSize {after frame : Bytes} {cut : Nat}
    (spelled : ChunkSize size number) (extended : ChunkExtension extension)
    (framed : BufferedFrame (size ++ extension ++ httpCrLf ++ after) frame rest cut) :
    extension = [] ∧ cut = number % usizeSize ∧ frame.length = (size.length + cut + 4) % usizeSize ∧
        size.length + 2 ≤ bufferCapacity := by
  have free := sizeLine_free spelled extended
  obtain ⟨line, _, found, source, lineFree, hex, cutEq, length⟩ := framed.line
  obtain ⟨line', _, source', lineFree', short⟩ := framed.short
  obtain ⟨rfl, _⟩ := line_unique free lineFree source
  obtain ⟨rfl, _⟩ := line_unique free lineFree' source'
  have plain := hexNumber_extension extended hex
  subst plain
  rw [append_nil] at hex length short
  rw [spelled.2] at hex
  cases hex
  exact ⟨rfl, cutEq, length, short⟩

/-- What stands behind the first size line of a chunked body. -/
inductive AfterSize : Nat → Bytes → Prop where
  | last (trailers : List Bytes) : AfterSize 0 (joinLines trailers ++ httpCrLf)
  | chunk {data more : Bytes} (nonempty : data ≠ []) (rest : ChunkedBody more) :
      AfterSize data.length (data ++ httpCrLf ++ more)

theorem AfterSize.length_le {after : Bytes} (behind : AfterSize number after) :
    number + 2 ≤ after.length := by
  cases behind with
  | last trailers => simp [httpCrLf]
  | chunk nonempty rest =>
    simp only [length_append, httpCrLf, length_cons, length_nil]
    omega

theorem chunkedBody_sizeLine {body : Bytes} (chunked : ChunkedBody body) :
    ∃ size extension after number,
      body = size ++ extension ++ httpCrLf ++ after ∧
        ChunkSize size number ∧ ChunkExtension extension ∧
          AfterSize number after := by
  cases chunked with
  | @last size extension trailers sizeZero extended fields =>
    exact ⟨size, extension, _, 0, by simp only [append_assoc], sizeZero,
      extended, .last trailers⟩
  | @chunk size extension data more sizeData nonempty extended rest =>
    exact ⟨size, extension, _, data.length,
      by simp only [append_assoc], sizeData, extended,
      .chunk nonempty rest⟩

theorem BufferedFrame.of_chunkedBody {body frame middle : Bytes} {cut : Nat}
    (framed : BufferedFrame (body ++ rest) frame middle cut)
    (chunked : ChunkedBody body) (small : body.length < usizeSize) :
    ∃ size after, body = size ++ httpCrLf ++ after ∧ ChunkSize size cut ∧
      size.length + 2 ≤ bufferCapacity ∧ AfterSize cut after ∧
        frame.length = size.length + cut + 4 := by
  obtain ⟨size, extension, after, number, rfl, spelled, extended, behind⟩ :=
    chunkedBody_sizeLine chunked
  rw [append_assoc _ after] at framed
  obtain ⟨rfl, cutEq, length, short⟩ := framed.of_chunkSize spelled extended
  have bound := behind.length_le
  simp only [length_append, httpCrLf, length_cons, length_nil] at small
  rw [Nat.mod_eq_of_lt (by omega)] at cutEq
  subst cutEq
  rw [Nat.mod_eq_of_lt (by omega)] at length
  exact ⟨size, after, by simp, spelled, short, behind, length⟩

theorem BufferedChunks.split {stream taken : Bytes}
    (buffered : BufferedChunks stream taken rest) : stream = taken ++ rest := by
  induction buffered with
  | last final => exact final.split
  | chunk first _ _ ih => rw [first.split, ih, append_assoc]

theorem BufferedChunks.plain {stream taken : Bytes}
    (buffered : BufferedChunks stream taken rest) (body : ChunkedBody taken)
    (small : taken.length < usizeSize) : PlainChunks taken := by
  induction buffered with
  | @last stream frame rest final =>
    obtain ⟨size, after, rfl, spelled, short, behind, length⟩ :=
      (final.split ▸ final).of_chunkedBody body small
    generalize zero : 0 = cut at spelled behind length
    cases behind with
    | last trailers =>
      simp only [length_append, httpCrLf, length_cons, length_nil] at length
      have noTrailers : trailers = [] := by
        have bound := length_le_joinLines trailers
        exact eq_nil_of_length_eq_zero (by omega)
      subst noTrailers
      exact PlainChunks.last spelled short
    | chunk nonempty others =>
      have positive := length_pos_iff.mpr nonempty
      omega
  | @chunk stream frame middle taken rest cut first nonzero others ih =>
    have source : stream = frame ++ taken ++ rest := by
      rw [first.split, others.split, append_assoc]
    obtain ⟨size, after, whole, spelled, short, behind, length⟩ :=
      (source ▸ first).of_chunkedBody body small
    cases behind with
    | last trailers => exact (nonzero rfl).elim
    | @chunk data more nonempty moreBody =>
      have parts : frame = size ++ httpCrLf ++ data ++ httpCrLf ∧ taken = more := by
        apply append_inj
        · rw [whole]
          simp only [append_assoc]
        · simp only [length, length_append, httpCrLf, length_cons, length_nil]
          omega
      obtain ⟨rfl, rfl⟩ := parts
      rw [length_append] at small
      exact .chunk spelled nonempty short (by omega) (ih moreBody (by omega))

/-! ## Exactly the streams relayed as the coding says -/

section

variable {σ : Type} [H1Writer σ] [SliceOfU8Ext]

/-- A chunked body at the start of what arrives is forwarded whole and alone;
without one, the transfer fails. -/
structure RelaysChunkedBody (relay : Relay σ) : Prop where
  complete : ∀ body rest, relay.available = body ++ rest →
    ChunkedBody body → ∃ after count,
      transferChunkedBody relay = .ret (after, .ok count) ∧ Consumes relay after body
  malformed : (∀ body rest, relay.available = body ++ rest →
    ¬ ChunkedBody body) → ∃ after err, transferChunkedBody relay = .ret (after, .error err)

/-- The cut of the stream by its size lines is the chunked coding.  The second
alternatives are for bodies longer than a word counts. -/
structure FramedBySizes (stream : Bytes) : Prop where
  bodies : ∀ body rest, stream = body ++ rest → ChunkedBody body →
    PlainChunks body ∨ usizeSize ≤ body.length ∧ BufferedChunks stream body rest
  cuts : ∀ taken rest, BufferedChunks stream taken rest →
    PlainChunks taken ∨ usizeSize ≤ taken.length ∧ ChunkedBody taken
  finite : ¬ EndlessChunks stream

omit [H1Writer σ] [SliceOfU8Ext] in
theorem Consumes.unique [H1Writer σ] {relay after : Relay σ}
    {left right : Bytes} (first : Consumes relay after left)
    (second : Consumes relay after right) : left = right :=
  append_cancel_right (first.pending.symm.trans second.pending)

variable {relay : Relay σ}

theorem transferChunkedBody_of_buffered (accepts : AcceptsAll σ)
    {taken rest : Bytes} (wf : relay.buffer.Wf)
    (buffered : BufferedChunks relay.available taken rest) :
    ∃ after count, transferChunkedBody relay = .ret (after, .ok count) ∧
      Consumes relay after taken := by
  have short := relay.available_le_pending
  obtain ⟨after, count, done⟩ :=
    transferChunks_progress accepts buffered 0 wf (Nat.lt_succ_of_le short)
  obtain ⟨found, consumed, chunks⟩ := transferChunks_buffered wf done
  have same := (chunks.relayed []).unique (buffered.relayed [])
  exact ⟨after, count, done, same.1 ▸ consumed⟩

theorem FramedBySizes.relays (accepts : AcceptsAll σ) (wf : relay.buffer.Wf)
    (framed : FramedBySizes relay.available) :
    RelaysChunkedBody relay := by
  constructor
  · intro body rest source chunked
    have buffered : BufferedChunks relay.available body rest := by
      rcases framed.bodies body rest source chunked with plain | ⟨_, buffered⟩
      · rw [source]
        exact plain.buffered rest
      · exact buffered
    exact transferChunkedBody_of_buffered accepts wf buffered
  · intro noBody
    have short := relay.available_le_pending
    obtain ⟨after, result, done⟩ := transferChunks_returns 0 wf framed.finite
      (Nat.lt_succ_of_le short)
    cases result with
    | error err => exact ⟨after, err, done⟩
    | ok count =>
      obtain ⟨taken, _, chunks⟩ := transferChunks_buffered wf done
      have chunked : ChunkedBody taken := by
        rcases framed.cuts taken _ chunks with plain | ⟨_, chunked⟩
        · exact plain.chunkedBody
        · exact chunked
      exact (noBody taken _ chunks.split chunked).elim

theorem RelaysChunkedBody.outcome (relays : RelaysChunkedBody relay) :
    (∃ body after count, ChunkedBody body ∧ transferChunkedBody relay = .ret (after, .ok count) ∧
        Consumes relay after body) ∨
      ∃ after err, transferChunkedBody relay = .ret (after, .error err) := by
  by_cases starts : ∃ body rest, relay.available = body ++ rest ∧ ChunkedBody body
  · obtain ⟨body, rest, source, chunked⟩ := starts
    obtain ⟨after, count, done, consumed⟩ := relays.complete body rest source chunked
    exact .inl ⟨body, after, count, chunked, done, consumed⟩
  · exact .inr (relays.malformed fun body rest source chunked =>
      starts ⟨body, rest, source, chunked⟩)

theorem RelaysChunkedBody.framed (accepts : AcceptsAll σ) (wf : relay.buffer.Wf)
    (relays : RelaysChunkedBody relay) :
    FramedBySizes relay.available := by
  constructor
  · intro body rest source chunked
    obtain ⟨after, count, done, consumed⟩ := relays.complete body rest source chunked
    obtain ⟨taken, takes, chunks⟩ := transferChunks_buffered wf done
    obtain rfl := consumed.unique takes
    have rests : rest = after.available :=
      append_cancel_left (source.symm.trans consumed.available)
    rw [← rests] at chunks
    by_cases small : body.length < usizeSize
    · exact .inl (chunks.plain chunked small)
    · exact .inr ⟨Nat.le_of_not_lt small, chunks⟩
  · intro taken rest chunks
    obtain ⟨after, count, done, takes⟩ := transferChunkedBody_of_buffered accepts wf chunks
    have chunked : ChunkedBody taken := by
      rcases relays.outcome with
        ⟨body, last, _, chunked, same, consumed⟩ | ⟨last, err, failed⟩
      · rw [done] at same
        cases same
        exact takes.unique consumed ▸ chunked
      · rw [done] at failed
        cases failed
    by_cases small : taken.length < usizeSize
    · exact .inl (chunks.plain chunked small)
    · exact .inr ⟨Nat.le_of_not_lt small, chunked⟩
  · intro endless
    have never := transferChunks_endless accepts endless wf (relay.pending.length + 1) 0
    rcases relays.outcome with ⟨_, _, _, _, done, _⟩ | ⟨_, _, failed⟩
    · rw [transferChunkedBody, never] at done
      cases done
    · rw [transferChunkedBody, never] at failed
      cases failed

theorem relaysChunkedBody_iff_framedBySizes (accepts : AcceptsAll σ)
    {relay : Relay σ} (wf : relay.buffer.Wf) :
    RelaysChunkedBody relay ↔ FramedBySizes relay.available :=
  ⟨fun relays => relays.framed accepts wf, fun framed => framed.relays accepts wf⟩

end

section

attribute [local instance] linearSearch

private def relayOf (stream : Bytes) : Relay RelaySink :=
  { events := [.data stream]
    buffer := new fun _ => 0
    sink := ⟨[]⟩ }

private def leftBehind (relay : Relay RelaySink) : Option Bytes :=
  match transferChunkedBody relay with
  | .ret (after, .ok _) => some after.pending
  | _ => none

theorem relaySink_accepts : AcceptsAll RelaySink := fun _ _ => ⟨_, rfl⟩

theorem relaysChunkedBody_iff_framedBySizes_one :
    RelaysChunkedBody (relayOf (ascii "1\r\nx\r\n0\r\n\r\n")) ↔
      FramedBySizes (relayOf (ascii "1\r\nx\r\n0\r\n\r\n")).available :=
  relaysChunkedBody_iff_framedBySizes relaySink_accepts (new_wf _)

private def trailerBody : Bytes :=
  ascii "0" ++ [] ++ httpCrLf ++ joinLines [ascii "X:y"] ++ httpCrLf

private theorem trailerBody_chunked : ChunkedBody trailerBody := by
  refine .last ⟨by decide, by decide⟩ (.inl rfl) ?_
  intro line member
  rw [mem_singleton.mp member]
  exact ⟨SeparatorFree.of_not_mem (by decide), by decide⟩

/-- A body with a trailer is reported complete after two bytes of the trailer,
and a size line without digits is reported as a complete body. -/
theorem trailers_are_left_behind :
    ¬ RelaysChunkedBody (relayOf trailerBody) ∧
      ¬ RelaysChunkedBody (relayOf (ascii "\r\n\r\n")) := by
  constructor
  · intro relays
    obtain ⟨after, count, done, consumed⟩ :=
      relays.complete trailerBody [] (by decide +kernel) trailerBody_chunked
    have left : leftBehind (relayOf trailerBody) = some (ascii "y\r\n\r\n") := by
      decide +kernel
    have pending : after.pending = ascii "y\r\n\r\n" := by
      rw [leftBehind, done] at left
      exact Option.some.inj left
    have whole : (relayOf trailerBody).pending = trailerBody ++ [] := by
      decide +kernel
    rw [consumed.pending, pending] at whole
    exact absurd (append_cancel_left whole) (by decide)
  · intro relays
    have left : leftBehind (relayOf (ascii "\r\n\r\n")) = some [] := by
      decide +kernel
    obtain ⟨after, err, failed⟩ := relays.malformed (by
      intro body rest source chunked
      obtain ⟨size, extension, behind, number, rfl, ⟨nonempty, hex⟩, _⟩ :=
        chunkedBody_sizeLine chunked
      cases size with
      | nil => exact nonempty rfl
      | cons octet others =>
        have first : octet = 13 := by
          have heads := congrArg head? source
          have start : (relayOf (ascii "\r\n\r\n")).available.head? =
              some 13 := by
            decide +kernel
          rw [start] at heads
          simpa using heads.symm
        have noDigit : hexDigit 13 = none := by decide
        simp [hexNumber, first, noDigit] at hex)
    rw [leftBehind, failed] at left
    cases left

end

end ReverseProxy
