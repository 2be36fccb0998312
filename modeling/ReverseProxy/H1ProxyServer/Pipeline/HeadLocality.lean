import ReverseProxy.H1ProxyServer.Pipeline.ReaderSteps
import ReverseProxy.H1Utils.HeadOutcome

/-!
# The head of a request and the bytes behind it

Bytes behind an accepted head change nothing about it, but the search for the
colon of the last line runs into them.  Where that line has its colon, the head
read does not depend on how the stream is split.
-/

namespace ReverseProxy

open List

namespace Http1Headers

section

variable {head : MessageHead} {src rest : Bytes} {headers : Http1Headers}

theorem Passable.of_colon (passable : Passable head rest)
    (colon : ∀ line ∈ head.lines.getLast?, (58 : UInt8) ∈ line)
    (otherRest : Bytes) : Passable head otherRest :=
  { passable with colon := fun line member => .inl (colon line member) }

variable [StrUtils] [SliceOfU8Ext]

theorem parse_of_passable {otherRest : Bytes}
    (accepted : parse (head.bytes ++ rest) = .ret (some headers))
    (passable : Passable head otherRest) :
    parse (head.bytes ++ otherRest) = .ret (some headers) := by
  obtain ⟨otherHeaders, otherAccepted⟩ := parse_accepts_iff.mpr passable
  rw [parse_unique accepted otherAccepted]
  exact otherAccepted

theorem parse_append (accepted : parse src = .ret (some headers))
    (further : Bytes) : parse (src ++ further) = .ret (some headers) := by
  obtain ⟨head, rest, rfl⟩ := exists_head_of_parse accepted
  have passable := parse_accepts_iff.mp ⟨headers, accepted⟩
  rw [append_assoc]
  refine parse_of_passable accepted { passable with colon := ?_ }
  intro line member
  rcases passable.colon line member with inLine | behind
  · exact .inl inLine
  · exact .inr (mem_append_left further behind)

theorem parse_returns_of_append {further : Bytes}
    (accepted : parse (src ++ further) = .ret (some headers)) :
    ∃ result, parse src = .ret result := by
  apply parse_returns
  intro empty
  rw [parse_of_hasEmptyFraming (empty.append further)] at accepted
  cases accepted

end

end Http1Headers

namespace H1Reader

open Http1Headers

variable [StrUtils] [SliceOfU8Ext] {reader : H1Reader} {head : Bytes} {headers : Http1Headers}

/-- What one round finds in the buffer: nothing as long as the head is not
complete, and then this head. -/
theorem parseBuffered_of_isPrefix (accepted : parse head = .ret (some headers))
    (comparable : reader.buffer.contents <+: head ∨ head <+: reader.buffer.contents) :
    parseBuffered reader.buffer.contents = .ret (some headers) ∨
      parseBuffered reader.buffer.contents = .ret none ∧
        reader.buffer.contents.length < head.length := by
  have notEmpty : head ≠ [] := by
    rintro rfl
    obtain ⟨complete, rest, source⟩ := exists_head_of_parse accepted
    simp [MessageHead.bytes, httpCrLf] at source
  have positive := length_pos_iff.mpr notEmpty
  unfold parseBuffered
  rcases comparable with ⟨further, rfl⟩ | ⟨further, complete⟩
  · split
    · obtain ⟨result, returned⟩ := parse_returns_of_append accepted
      cases result with
      | none =>
        refine .inr ⟨returned, ?_⟩
        rw [length_append, Nat.lt_add_right_iff_pos, length_pos_iff]
        rintro rfl
        rw [append_nil, returned] at accepted
        cases accepted
      | some found =>
        have same := parse_append returned further
        rw [accepted] at same
        cases same
        exact .inl returned
    · exact .inr ⟨rfl, by omega⟩
  · rw [← complete, if_pos (by rw [length_append]; omega)]
    exact .inl (parse_append accepted further)

/-- By induction on the rounds, each of which takes at least one byte off the
socket. -/
theorem readHeadersLoop_progress {fuel : Nat} (wf : reader.buffer.Wf)
    (accepted : parse head = .ret (some headers))
    (fits : head.length ≤ bufferCapacity)
    (arrives : head <+: reader.available)
    (enough : (readable reader.events).length < fuel) :
    ∃ after, reader.readHeadersLoop fuel = .ret (after, .ok headers) := by
  induction fuel generalizing reader with
  | zero => omega
  | succ fuel ih =>
    have comparable : reader.buffer.contents <+: head ∨ head <+: reader.buffer.contents :=
      prefix_or_prefix_of_prefix (prefix_append _ _) arrives
    have buffered := parseBuffered_of_isPrefix accepted comparable
    rw [readHeadersLoop, LoopBuffer.getData_of_wf wf]
    rcases buffered with found | ⟨nothing, short⟩
    · exact ⟨reader, by simp [found]⟩
    have more : readable reader.events ≠ [] := by
      intro nothingLeft
      have length := arrives.length_le
      rw [available, nothingLeft, append_nil] at length
      omega
    obtain ⟨relay, read⟩ := readMore_progress (show (reader.into NullSink.mk).buffer.Wf from wf)
      (Nat.lt_of_lt_of_le short fits) more
    obtain ⟨received, bytes, notEmpty, grown⟩ := readMore_ok
      (show (reader.into NullSink.mk).buffer.Wf from wf) read
    have kept : reader.available = relay.buffer.contents ++ readable relay.events :=
      received.available
    have fewer : (readable relay.events).length < (readable reader.events).length := by
      have lengths := congrArg List.length kept
      have contents : relay.buffer.contents = reader.buffer.contents ++ bytes := grown
      have positive := length_pos_iff.mpr notEmpty
      rw [available, contents] at lengths
      simp only [length_append] at lengths
      omega
    simp only [nothing, Outcome.bind_ret, read]
    rw [kept] at arrives
    exact ih received.wf arrives (Nat.lt_of_lt_of_le fewer (Nat.le_of_lt_succ enough))

theorem readHeaders_progress (wf : reader.buffer.Wf) (accepted : parse head = .ret (some headers))
    (fits : head.length ≤ bufferCapacity)
    (arrives : head <+: reader.available) :
    ∃ after, reader.readHeaders = .ret (after, .ok headers) := by
  refine readHeadersLoop_progress wf accepted fits arrives ?_
  exact Nat.lt_succ_of_le (readable_isPrefix reader.events).length_le

end H1Reader

namespace Http1Headers

section

variable [StrUtils] [SliceOfU8Ext]

/-- What is parsed depends on the head alone: neither on the bytes behind it
nor on how a connection delivers it. -/
def ParsesLocally (src : Bytes) : Prop := ∀ headers, parse src = .ret (some headers) →
    parse (src.take headers.stop) = .ret (some headers) ∧
    (∀ further, parse (src ++ further) = .ret (some headers)) ∧
    ∀ reader : H1Reader, reader.buffer.Wf → headers.stop ≤ bufferCapacity →
      src.take headers.stop <+: reader.available →
        ∃ after, reader.readHeaders = .ret (after, .ok headers)

end

/-- The last header line of an accepted head has a colon of its own. -/
def LastLineHasColon (src : Bytes) : Prop :=
  ∀ (head : MessageHead) (rest : Bytes), src = head.bytes ++ rest →
    Passable head rest → ∀ line ∈ head.lines.getLast?, (58 : UInt8) ∈ line

section

variable [StrUtils] [SliceOfU8Ext]

theorem parsesLocally_iff_lastLineHasColon (src : Bytes) :
    ParsesLocally src ↔ LastLineHasColon src := by
  constructor
  · rintro locally head rest rfl passable line member
    obtain ⟨headers, accepted⟩ := parse_accepts_iff.mpr passable
    have alone := (locally headers accepted).1
    rw [(acceptedHead_of_parse accepted).stop, take_left,
      ← append_nil head.bytes] at alone
    have colon := (parse_accepts_iff.mp ⟨headers, alone⟩).colon line member
    exact colon.resolve_right not_mem_nil
  · intro colon headers accepted
    obtain ⟨head, rest, rfl⟩ := exists_head_of_parse accepted
    have passable := parse_accepts_iff.mp ⟨headers, accepted⟩
    have alone : parse head.bytes = .ret (some headers) := by
      have behind := parse_of_passable accepted
        (passable.of_colon (colon head rest rfl passable) [])
      rwa [append_nil] at behind
    have stop := (acceptedHead_of_parse accepted).stop
    rw [stop, take_left]
    refine ⟨alone, parse_append accepted, ?_⟩
    intro reader wf fits arrives
    exact reader.readHeaders_progress wf alone fits arrives

end

section

attribute [local instance] linearSearch asciiCase

private def colonlessHead : MessageHead := .ofPlain (ascii "GET / HTTP/1.1") [ascii "a"] (by decide)

/-- A colon in the body makes a head accepted that is refused without it. -/
theorem colon_behind_head_accepts :
    (∃ headers, headers.stop = colonlessHead.bytes.length ∧
      parse (colonlessHead.bytes ++ [58]) = .ret (some headers)) ∧
      parse colonlessHead.bytes = .ret none ∧
      ¬ ParsesLocally (colonlessHead.bytes ++ [58]) := by
  have accepted : parse (colonlessHead.bytes ++ [58]) = .ret (some
      { firstLineEnd := 14
        stop := 21
        contentLength := .none
        hostValue := none
        cookieValue := none
        upgradeValue := none }) := by
    decide +kernel
  have refused : parse colonlessHead.bytes = .ret none := by decide +kernel
  refine ⟨⟨_, by decide +kernel, accepted⟩, refused, ?_⟩
  intro locally
  have alone := (locally _ accepted).1
  have taken : (colonlessHead.bytes ++ [58]).take 21 = colonlessHead.bytes := by
    decide +kernel
  rw [taken, refused] at alone
  cases alone

end

end Http1Headers

end ReverseProxy
