import ReverseProxy.H1Utils.HeadOutcome

/-!
# Recorded header values

The parser records where the values of three headers lie.  A recorded range
starts two octets behind the colon, so it spells the value exactly when the
octet it skips is there and is a space or a tab.
-/

namespace ReverseProxy

open Library Rfc7230 MessageHead Outcome List

/-! ## Trimmed values -/

theorem countP_dropWhile {α : Type} (skipped : α → Bool) (items : List α) :
    (items.dropWhile skipped).countP (!skipped ·) = items.countP (!skipped ·) := by
  induction items with
  | nil => rfl
  | cons item items ih =>
    by_cases skips : skipped item
    · simp [skips, ih]
    · rw [dropWhile_cons_of_neg skips]

theorem countP_trimOws (value : Bytes) :
    (trimOws value).countP (!isOws ·) = value.countP (!isOws ·) := by
  rw [trimOws, rdropWhile, countP_reverse, countP_dropWhile,
    countP_reverse, countP_dropWhile]

theorem trimOws_eq_cons_iff {octet : UInt8} {value : Bytes} :
    trimOws value = trimOws (octet :: value) ↔ isOws octet = true := by
  constructor
  · intro same
    have counts := congrArg (countP (!isOws ·)) same
    rw [countP_trimOws, countP_trimOws] at counts
    by_contra notBlank
    rw [countP_cons_of_pos (by simpa using notBlank)] at counts
    omega
  · intro blank
    rw [trimOws, trimOws, dropWhile_cons_of_pos blank]

/-! ## Lines and their positions -/

/-- The line starts at this position of the head. -/
def MessageHead.LineAt (head : MessageHead) (pos : Nat) (line : Bytes) :
    Prop :=
  ∃ before after, head.lines = before ++ line :: after ∧
    pos = (head.firstLine ++ httpCrLf ++ joinLines before).length

namespace MessageHead.LineAt

variable {head : MessageHead} {pos otherPos place : Nat} {line other : Bytes}

theorem source (lineAt : head.LineAt pos line) (rest : Bytes) :
    ∃ front after, head.bytes ++ rest = front ++ line ++ after ∧ front.length = pos := by
  obtain ⟨before, after, lines, rfl⟩ := lineAt
  refine ⟨head.firstLine ++ httpCrLf ++ joinLines before,
    httpCrLf ++ joinLines after ++ httpCrLf ++ rest, ?_, rfl⟩
  simp [bytes, lines]

private theorem same_or_behind {before otherBefore after otherAfter : List Bytes}
    (lines : before ++ line :: after = otherBefore ++ other :: otherAfter) :
    (before = otherBefore ∧ line = other) ∨ (joinLines before).length + line.length <
        (joinLines otherBefore).length ∨
      (joinLines otherBefore).length + other.length < (joinLines before).length := by
  rcases append_eq_append_iff.mp lines with
    ⟨middle, rfl, tails⟩ | ⟨middle, rfl, tails⟩
  · cases middle with
    | nil =>
      cases tails
      exact .inl ⟨by simp, rfl⟩
    | cons first middle =>
      cases tails
      refine .inr (.inl ?_)
      simp [httpCrLf]
  · cases middle with
    | nil =>
      cases tails
      exact .inl ⟨by simp, rfl⟩
    | cons first middle =>
      cases tails
      refine .inr (.inr ?_)
      simp [httpCrLf]

theorem unique (lineAt : head.LineAt pos line) (otherAt : head.LineAt otherPos other)
    (inside : pos ≤ place ∧ place ≤ pos + line.length)
    (otherInside : otherPos ≤ place ∧ place ≤ otherPos + other.length) :
    pos = otherPos ∧ line = other := by
  obtain ⟨before, after, lines, rfl⟩ := lineAt
  obtain ⟨otherBefore, otherAfter, otherLines, rfl⟩ := otherAt
  rw [lines] at otherLines
  simp only [length_append] at inside otherInside
  rcases same_or_behind otherLines with ⟨rfl, rfl⟩ | earlier | later
  · exact ⟨rfl, rfl⟩
  · omega
  · omega

end MessageHead.LineAt

namespace Http1Headers

/-! ## Recorded ranges -/

/-- The headers whose values are recorded as ranges. -/
inductive RangeHeader where
  | host
  | cookie
  | upgrade
deriving DecidableEq, Repr

namespace RangeHeader

def name : RangeHeader → Bytes
  | host => hostHeader
  | cookie => cookieHeader
  | upgrade => upgradeHeader

def recorded : RangeHeader → Found → Option HeaderPosition
  | host, found => found.hostValue
  | cookie, found => found.cookieValue
  | upgrade, found => found.upgradeValue

def record : RangeHeader → HeaderPosition → Found → Found
  | host, range, found => { found with hostValue := some range }
  | cookie, range, found => { found with cookieValue := some range }
  | upgrade, range, found => { found with upgradeValue := some range }

theorem recorded_record (header own : RangeHeader) (range : HeaderPosition) (found : Found) :
    header.recorded (own.record range found) =
      if header = own then some range else header.recorded found := by
  cases header <;> cases own <;> rfl

theorem isNamed_iff {name : Bytes} {own : RangeHeader}
    (named : isNamed name own.name) (header : RangeHeader) :
    isNamed name header.name = true ↔ header = own := by
  constructor
  · intro other
    by_contra different
    have exclusive : isNamed name header.name = false := isNamed_exclusive named (by
        revert different
        cases header <;> cases own <;> decide)
    rw [other] at exclusive
    cases exclusive
  · rintro rfl
    exact named

def valueOf : RangeHeader → Http1Headers → Option HeaderPosition
  | host, headers => headers.hostValue
  | cookie, headers => headers.cookieValue
  | upgrade, headers => headers.upgradeValue

theorem valueOf_headers (header : RangeHeader) (found : Found) (firstLineEnd stop : Nat) :
    header.valueOf (found.headers firstLineEnd stop) =
      header.recorded found := by
  cases header <;> rfl

theorem recorded_empty (header : RangeHeader) : header.recorded {} = none := by
  cases header <;> rfl

end RangeHeader

/-- The range `get_value` gives for a line `name:value` at `pos`. -/
def fieldRange (pos : Nat) (name value : Bytes) : HeaderPosition :=
  { start := pos + name.length + 2
    stop := pos + (name ++ 58 :: value).length }

section

variable [StrUtils] {pos : Nat} {name value line after : Bytes} {found next : Found}

theorem readField_framing (header : RangeHeader) (framing : isFraming name)
    (read : readField pos name value found = .ret (some next)) :
    header.recorded next = header.recorded found := by
  rcases Bool.or_eq_true_iff.mp framing with length | coding
  · rw [readField_contentLength length, bind_eq_ret_iff] at read
    obtain ⟨text, _, made⟩ := read
    split at made
    · cases made
    · cases made
      cases header <;> rfl
  · rw [readField_transferEncoding coding, bind_eq_ret_iff] at read
    obtain ⟨text, _, made⟩ := read
    split at made
    · cases made
    · split at made <;> cases made <;> cases header <;> rfl

theorem readField_range {own : RangeHeader} (named : isNamed name own.name) :
    readField pos name value found =
      .ret (some (own.record (fieldRange pos name value) found)) := by
  have exclusive (other : Bytes) (different : own.name.map toLowerCase ≠ other.map toLowerCase) :
      isNamed name other = false := isNamed_exclusive named different
  unfold readField
  cases own with
  | host =>
    rw [show isNamed name hostHeader = true from named]
    rfl
  | cookie =>
    rw [exclusive hostHeader (by decide),
      show isNamed name cookieHeader = true from named]
    rfl
  | upgrade =>
    rw [exclusive hostHeader (by decide), exclusive cookieHeader (by decide),
      exclusive contentLenHeader (by decide),
      exclusive transferEncodingHeader (by decide),
      show isNamed name upgradeHeader = true from named]
    rfl

theorem readField_unknown (notFraming : isFraming name = false)
    (unknown : ∀ own : RangeHeader, isNamed name own.name = false) :
    readField pos name value found = .ret (some found) := by
  obtain ⟨notLength, notCoding⟩ := Bool.or_eq_false_iff.mp notFraming
  unfold readField
  rw [notLength, notCoding,
    show isNamed name hostHeader = false from unknown .host,
    show isNamed name cookieHeader = false from unknown .cookie,
    show isNamed name upgradeHeader = false from unknown .upgrade]
  rfl

theorem readField_recorded (header : RangeHeader)
    (read : readField pos name value found = .ret (some next)) :
    header.recorded next =
      if isNamed name header.name then some (fieldRange pos name value)
      else header.recorded found := by
  by_cases known : ∃ own : RangeHeader, isNamed name own.name
  · obtain ⟨own, named⟩ := known
    rw [readField_range named] at read
    cases read
    simp only [RangeHeader.recorded_record, RangeHeader.isNamed_iff named]
  have unknown (own : RangeHeader) : isNamed name own.name = false := by
    simpa using not_exists.mp known own
  rw [unknown header]
  cases framing : isFraming name with
  | true => exact readField_framing header framing read
  | false =>
    rw [readField_unknown framing unknown] at read
    cases read
    rfl

theorem readLine_recorded (header : RangeHeader)
    (read : readLine pos line after found = .ret (some next)) :
    (rawValues header.name [line] = [] ∧ header.recorded next = header.recorded found) ∨
    ∃ name value, line = name ++ 58 :: value ∧ (58 : UInt8) ∉ name ∧ isNamed name header.name ∧
      header.recorded next = some (fieldRange pos name value) := by
  unfold readLine at read
  cases split : splitField line with
  | none =>
    simp only [split] at read
    split at read
    · cases read
      exact .inl ⟨by simp [rawValues, split], rfl⟩
    · cases read
  | some field =>
    obtain ⟨name, value⟩ := field
    simp only [split] at read
    have recorded := readField_recorded header read
    obtain ⟨rfl, absent⟩ := splitField_eq_some_iff.mp split
    by_cases named : isNamed name header.name
    · rw [if_pos named] at recorded
      exact .inr ⟨name, value, rfl, absent, named, recorded⟩
    · rw [if_neg named] at recorded
      exact .inl ⟨by simp [rawValues, split, named], recorded⟩

/-- The last line of the name wins. -/
theorem scanLines_recorded {rest : Bytes} {lines : List Bytes} (header : RangeHeader)
    (scanned : scanLines rest pos found lines = .ret (some next)) :
    (rawValues header.name lines = [] ∧ header.recorded next = header.recorded found) ∨
    ∃ before name value after, lines = before ++ (name ++ 58 :: value) :: after ∧
      (58 : UInt8) ∉ name ∧ isNamed name header.name ∧
      rawValues header.name after = [] ∧
      header.recorded next = some (fieldRange (pos + (joinLines before).length) name value) := by
  induction lines generalizing pos found with
  | nil =>
    cases scanned
    exact .inl ⟨rfl, rfl⟩
  | cons line lines ih =>
    rw [scanLines, bind_eq_ret_iff] at scanned
    obtain ⟨result, read, continued⟩ := scanned
    cases result with
    | none => simp at continued
    | some middle =>
      rcases ih continued with ⟨absent, kept⟩ |
        ⟨before, name, value, after, rfl, noColon, named, last, recorded⟩
      · rw [kept, ← singleton_append, rawValues_append, absent]
        rcases readLine_recorded header read with ⟨other, same⟩ |
          ⟨name, value, rfl, noColon, named, recorded⟩
        · exact .inl ⟨by simp [other], same⟩
        · exact .inr ⟨[], name, value, lines, rfl, noColon, named, absent,
            by simpa using recorded⟩
      · refine .inr ⟨line :: before, name, value, after, rfl, noColon, named, last, ?_⟩
        rw [recorded]
        simp [Nat.add_assoc]

end

/-! ## Ranges and values -/

/-- The range lies in a line of that name and spells its value, apart from
spaces and tabs around it. -/
def SpellsValue (head : MessageHead) (rest header : Bytes) (range : HeaderPosition) : Prop :=
  ∃ pos name value, head.LineAt pos (name ++ 58 :: value) ∧
    (58 : UInt8) ∉ name ∧ isNamed name header ∧
    pos ≤ range.start ∧ range.start ≤ range.stop ∧
    range.stop ≤ pos + (name ++ 58 :: value).length ∧
    ∃ bytes, slice (head.bytes ++ rest) range.start range.stop = .ret bytes ∧
      trimOws bytes = trimOws value

section

variable {head : MessageHead} {rest header name value : Bytes} {pos : Nat}

theorem slice_fieldRange {octet : UInt8} (lineAt : head.LineAt pos (name ++ 58 :: octet :: value)) :
    slice (head.bytes ++ rest) (fieldRange pos name (octet :: value)).start
        (fieldRange pos name (octet :: value)).stop = .ret value := by
  obtain ⟨front, after, source, rfl⟩ := lineAt.source rest
  have sliced := slice_append (front ++ name ++ [58, octet]) value after
  have start : (front ++ name ++ [58, octet]).length =
      (fieldRange front.length name (octet :: value)).start := by
    simp [fieldRange]
    omega
  have stop : (fieldRange front.length name (octet :: value)).start + value.length =
      (fieldRange front.length name (octet :: value)).stop := by
    simp [fieldRange]
    omega
  have payload : head.bytes ++ rest = front ++ name ++ [58, octet] ++ value ++ after := by
    simp [source]
  rw [start, stop, ← payload] at sliced
  exact sliced

theorem spellsValue_iff (lineAt : head.LineAt pos (name ++ 58 :: value))
    (absent : (58 : UInt8) ∉ name) (named : isNamed name header) :
    SpellsValue head rest header (fieldRange pos name value) ↔ value.head?.any isOws = true := by
  constructor
  · rintro ⟨otherPos, otherName, otherValue, otherAt, otherAbsent, _, starts,
      ordered, stops, bytes, sliced, trimmed⟩
    obtain ⟨rfl, sameLine⟩ := lineAt.unique otherAt (show pos ≤ (fieldRange pos name value).stop ∧
        (fieldRange pos name value).stop ≤ pos + (name ++ 58 :: value).length
        from ⟨Nat.le_add_right _ _, Nat.le_refl _⟩)
      ⟨starts.trans ordered, stops⟩
    have sameField := splitField_append value absent
    rw [sameLine, splitField_append otherValue otherAbsent] at sameField
    cases sameField
    cases value with
    | nil =>
      simp only [fieldRange, length_append, length_cons, length_nil] at ordered
      omega
    | cons octet value =>
      rw [slice_fieldRange lineAt] at sliced
      cases sliced
      exact trimOws_eq_cons_iff.mp trimmed
  · intro spaced
    cases value with
    | nil => simp at spaced
    | cons octet value =>
      refine ⟨pos, name, octet :: value, lineAt, absent, named, ?_, ?_,
        Nat.le_refl _, value, slice_fieldRange lineAt,
        trimOws_eq_cons_iff.mpr spaced⟩
      · exact Nat.le_add_right_of_le (Nat.le_add_right _ _)
      · simp only [fieldRange, length_append, length_cons]
        omega

end

/-! ## Buffers -/

section

variable [StrUtils] [SliceOfU8Ext]

/-- The parser returns, and the ranges it records spell the values of their
lines. -/
def RecordsValues (src : Bytes) : Prop := (∃ result, parse src = .ret result) ∧
    ∀ headers, parse src = .ret (some headers) →
      ∃ (head : MessageHead) (rest : Bytes), src = head.bytes ++ rest ∧
        ∀ (header : RangeHeader) range, header.valueOf headers = some range →
          SpellsValue head rest header.name range

end

/-- No framing header that the header loop comes to lacks its value, and in a
head that is accepted the last value of each recorded header starts with a
space or a tab. -/
structure SpacedValues (src : Bytes) : Prop where
  framing : ¬ HasEmptyFraming src
  recorded : ∀ (head : MessageHead) (rest : Bytes), src = head.bytes ++ rest → Passable head rest →
    ∀ (header : RangeHeader) value, (rawValues header.name head.lines).getLast? = some value →
        value.head?.any isOws = true

section

variable [StrUtils] [SliceOfU8Ext] {head : MessageHead} {rest : Bytes} {headers : Http1Headers}

section

variable (accepted : parse (head.bytes ++ rest) = .ret (some headers))

include accepted

theorem valueOf_accepted (header : RangeHeader) :
    (rawValues header.name head.lines = [] ∧ header.valueOf headers = none) ∨
    ∃ pos name value, head.LineAt pos (name ++ 58 :: value) ∧
      (58 : UInt8) ∉ name ∧ isNamed name header.name ∧
      (rawValues header.name head.lines).getLast? = some value ∧
      header.valueOf headers = some (fieldRange pos name value) := by
  obtain ⟨_, found, scanned, rfl⟩ := parse_eq_some_iff.mp accepted
  rw [RangeHeader.valueOf_headers]
  rcases scanLines_recorded header scanned with ⟨none, kept⟩ |
    ⟨before, name, value, after, lines, absent, named, last, recorded⟩
  · rw [kept, RangeHeader.recorded_empty]
    exact .inl ⟨none, rfl⟩
  have lineAt : head.LineAt ((head.firstLine ++ httpCrLf).length + (joinLines before).length)
      (name ++ 58 :: value) :=
    ⟨before, after, lines, by simp only [length_append]⟩
  have lastValue : (rawValues header.name head.lines).getLast? =
      some value := by
    have single : rawValues header.name [name ++ 58 :: value] = [value] := by
      simp [rawValues, splitField_append value absent, named]
    rw [lines, rawValues_append, ← singleton_append, rawValues_append, last, single]
    simp
  exact .inr ⟨_, name, value, lineAt, absent, named, lastValue, recorded⟩

theorem valueOf_eq_none {header : RangeHeader}
    (missing : (rawValues header.name head.lines).getLast? = none) :
    header.valueOf headers = none := by
  rcases valueOf_accepted accepted header with
    ⟨_, absent⟩ | ⟨_, _, value, _, _, _, found, _⟩
  · exact absent
  · rw [missing] at found
    cases found

theorem spells_iff_spaced (header : RangeHeader) :
    (∀ range, header.valueOf headers = some range → SpellsValue head rest header.name range) ↔
    ∀ value, (rawValues header.name head.lines).getLast? = some value →
      value.head?.any isOws = true := by
  rcases valueOf_accepted accepted header with ⟨none, absent⟩ |
    ⟨pos, name, value, lineAt, absent, named, lastValue, recorded⟩
  · rw [none, absent]
    simp
  · rw [recorded, lastValue]
    simp only [Option.some.injEq, forall_eq']
    exact spellsValue_iff lineAt absent named

end

/-- The octets of the range recorded for a header whose last value this is. -/
def recordedOctets : Bytes → Outcome Bytes
  | [] => .panic
  | _ :: octets => .ret octets

theorem slice_valueOf (accepted : parse (head.bytes ++ rest) = .ret (some headers))
    {header : RangeHeader} {value : Bytes}
    (last : (rawValues header.name head.lines).getLast? = some value) :
    ∃ range, header.valueOf headers = some range ∧
      slice (head.bytes ++ rest) range.start range.stop =
        recordedOctets value := by
  rcases valueOf_accepted accepted header with ⟨none, _⟩ |
    ⟨pos, name, found, lineAt, _, _, foundLast, recorded⟩
  · simp [none] at last
  rw [foundLast] at last
  cases last
  refine ⟨_, recorded, ?_⟩
  cases value with
  | nil =>
    apply slice_panic
    simp only [fieldRange, length_append, length_cons, length_nil]
    omega
  | cons octet octets => exact slice_fieldRange lineAt

theorem recordsValues_iff_spacedValues (src : Bytes) : RecordsValues src ↔ SpacedValues src := by
  constructor
  · rintro ⟨⟨result, returned⟩, records⟩
    refine ⟨?_, ?_⟩
    · intro empty
      rw [parse_of_hasEmptyFraming empty] at returned
      cases returned
    · rintro head rest rfl passable header
      obtain ⟨headers, accepted⟩ := parse_accepts_iff.mpr passable
      obtain ⟨other, otherRest, same, spells⟩ := records headers accepted
      obtain ⟨rfl, rfl⟩ := unique same
      exact (spells_iff_spaced accepted header).mp (spells header)
  · intro spaced
    refine ⟨parse_returns spaced.framing, ?_⟩
    intro headers accepted
    obtain ⟨head, rest, rfl⟩ := exists_head_of_parse accepted
    have passable := parse_accepts_iff.mp ⟨headers, accepted⟩
    refine ⟨head, rest, rfl, fun header => ?_⟩
    exact (spells_iff_spaced accepted header).mpr (spaced.recorded head rest rfl passable header)

end

section

attribute [local instance] linearSearch asciiCase

private def emptyLength : Bytes := ascii "GET / HTTP/1.1\r\nContent-Length:\r\n\r\n"

private def unspacedHost : MessageHead :=
  .ofPlain (ascii "GET / HTTP/1.1") [ascii "Host:abc"] (by decide)

private def unspacedHeaders : Http1Headers :=
  { firstLineEnd := 14
    stop := 28
    contentLength := .none
    hostValue := some { start := 22, stop := 24 }
    cookieValue := none
    upgradeValue := none }

/-- An empty `Content-Length` panics, and the first octet of a host that
follows its colon directly is lost. -/
theorem unspaced_values_are_lost :
    (parse emptyLength = .panic ∧ ¬ RecordsValues emptyLength) ∧
      parse (unspacedHost.bytes ++ []) = .ret (some unspacedHeaders) ∧
      slice (unspacedHost.bytes ++ []) 22 24 = .ret (ascii "bc") ∧
      ¬ RecordsValues (unspacedHost.bytes ++ []) := by
  have accepted : parse (unspacedHost.bytes ++ []) = .ret (some unspacedHeaders) := by
    decide +kernel
  refine ⟨⟨by decide +kernel, ?_⟩, accepted, by decide +kernel, ?_⟩
  · rintro ⟨⟨result, returned⟩, _⟩
    have panics : parse emptyLength = .panic := by decide +kernel
    rw [panics] at returned
    cases returned
  · rintro ⟨_, records⟩
    obtain ⟨head, rest, same, spells⟩ := records unspacedHeaders accepted
    obtain ⟨rfl, rfl⟩ := unique same
    have spaced := (spells_iff_spaced accepted .host).mp (spells .host)
      (ascii "abc") (by decide +kernel)
    exact absurd spaced (by decide)

end

end Http1Headers

end ReverseProxy
