import ReverseProxy.H1Utils.Http1Headers

/-!
# A message head as a list of lines

The parser works with positions in one buffer.  Here an accepted buffer is a
message head followed by arbitrary bytes, and `Http1Headers.parse` is the walk
`scanLines` over its header lines.
-/

namespace ReverseProxy

open Library HttpHeader SliceOfU8Ext Outcome List

/-- No line end starts inside the segment. -/
def CrLfFree (segment : Bytes) : Prop := SeparatorFree 13 10 segment

def joinLines (lines : List Bytes) : Bytes := lines.flatMap (· ++ httpCrLf)

@[simp] theorem joinLines_nil : joinLines [] = [] :=
  rfl

@[simp] theorem joinLines_cons (line : Bytes) (lines : List Bytes) :
    joinLines (line :: lines) = line ++ httpCrLf ++ joinLines lines := by
  simp [joinLines]

@[simp] theorem joinLines_append (left right : List Bytes) :
    joinLines (left ++ right) = joinLines left ++ joinLines right := by
  simp [joinLines]

theorem length_le_joinLines (lines : List Bytes) : lines.length ≤ (joinLines lines).length := by
  induction lines with
  | nil => simp
  | cons line lines ih =>
    simp only [length_cons, joinLines_cons, length_append, httpCrLf, length_nil]
    omega

/-- The lines of a message head, without their line ends and without the
empty line that closes the head. -/
structure MessageHead where
  firstLine : Bytes
  lines : List Bytes
  firstLineFree : CrLfFree firstLine
  linesFree : ∀ line ∈ lines, CrLfFree line
  linesNonempty : ∀ line ∈ lines, line ≠ []

namespace MessageHead

def bytes (head : MessageHead) : Bytes :=
  head.firstLine ++ httpCrLf ++ joinLines head.lines ++ httpCrLf

theorem length_lines_lt (head : MessageHead) (rest : Bytes) :
    head.lines.length < (head.bytes ++ rest).length := by
  have bound := length_le_joinLines head.lines
  simp only [bytes, length_append, httpCrLf, length_cons, length_nil]
  omega

/-- A head whose lines hold no carriage return at all. -/
def ofPlain (firstLine : Bytes) (lines : List Bytes)
    (plain : 13 ∉ firstLine ∧ ∀ line ∈ lines, 13 ∉ line ∧ line ≠ []) :
    MessageHead :=
  { firstLine
    lines
    firstLineFree := SeparatorFree.of_not_mem plain.1
    linesFree := fun line member =>
      SeparatorFree.of_not_mem (plain.2 line member).1
    linesNonempty := fun line member => (plain.2 line member).2 }

end MessageHead

variable {leftRest rightRest : Bytes}

theorem line_unique {left right : Bytes} (leftFree : CrLfFree left) (rightFree : CrLfFree right)
    (equality : left ++ httpCrLf ++ leftRest = right ++ httpCrLf ++ rightRest) :
    left = right ∧ leftRest = rightRest := by
  apply separated_unique (show (13 : UInt8) ≠ 10 by decide) leftFree rightFree
  simpa [httpCrLf] using equality

theorem joinLines_unique {left right : List Bytes} (leftFree : ∀ line ∈ left, CrLfFree line)
    (leftNonempty : ∀ line ∈ left, line ≠ [])
    (rightFree : ∀ line ∈ right, CrLfFree line)
    (rightNonempty : ∀ line ∈ right, line ≠ [])
    (equality : joinLines left ++ httpCrLf ++ leftRest = joinLines right ++ httpCrLf ++ rightRest) :
    left = right ∧ leftRest = rightRest := by
  induction left generalizing right with
  | nil =>
    cases right with
    | nil => simpa using equality
    | cons line lines =>
      have same := line_unique SeparatorFree.nil (rightFree line (by simp))
        (by simpa using equality :
          [] ++ httpCrLf ++ leftRest = line ++ httpCrLf ++
            (joinLines lines ++ httpCrLf ++ rightRest))
      exact (rightNonempty line (by simp) same.1.symm).elim
  | cons line lines ih =>
    cases right with
    | nil =>
      have same := line_unique (leftFree line (by simp)) SeparatorFree.nil
        (by simpa using equality :
          line ++ httpCrLf ++ (joinLines lines ++ httpCrLf ++ leftRest) =
            [] ++ httpCrLf ++ rightRest)
      exact (leftNonempty line (by simp) same.1).elim
    | cons other others =>
      obtain ⟨rfl, tails⟩ := line_unique (leftFree line (by simp)) (rightFree other (by simp))
        (by simpa using equality :
          line ++ httpCrLf ++ (joinLines lines ++ httpCrLf ++ leftRest) =
            other ++ httpCrLf ++ (joinLines others ++ httpCrLf ++ rightRest))
      obtain ⟨rfl, rests⟩ := ih (fun next member => leftFree next (by simp [member]))
        (fun next member => leftNonempty next (by simp [member]))
        (fun next member => rightFree next (by simp [member]))
        (fun next member => rightNonempty next (by simp [member])) tails
      exact ⟨rfl, rests⟩

theorem MessageHead.unique {left right : MessageHead}
    (equality : left.bytes ++ leftRest = right.bytes ++ rightRest) :
    left = right ∧ leftRest = rightRest := by
  obtain ⟨firstLine, tails⟩ := line_unique left.firstLineFree right.firstLineFree
    (by simpa [MessageHead.bytes] using equality :
      left.firstLine ++ httpCrLf ++ (joinLines left.lines ++ httpCrLf ++ leftRest) =
        right.firstLine ++ httpCrLf ++ (joinLines right.lines ++ httpCrLf ++ rightRest))
  obtain ⟨lines, rests⟩ := joinLines_unique left.linesFree
    left.linesNonempty right.linesFree right.linesNonempty tails
  cases left
  cases right
  cases firstLine
  cases lines
  exact ⟨rfl, rests⟩

/-! ## Fields of one line -/

/-- The name before the first colon of a line and everything after it. -/
def splitField (line : Bytes) : Option (Bytes × Bytes) :=
  match line.dropWhile (· != 58) with
  | [] => none
  | _ :: value => some (line.takeWhile (· != 58), value)

theorem splitField_append {name : Bytes} (value : Bytes) (absent : (58 : UInt8) ∉ name) :
    splitField (name ++ 58 :: value) = some (name, value) := by
  have noColon : ∀ octet ∈ name, (octet != 58) = true := by
    intro octet member
    simp only [bne_iff_ne]
    rintro rfl
    exact absent member
  simp [splitField, dropWhile_append_of_pos noColon, takeWhile_append_of_pos noColon]

theorem splitField_eq_none_iff {line : Bytes} : splitField line = none ↔ (58 : UInt8) ∉ line := by
  constructor
  · intro missing present
    obtain ⟨name, value, rfl, absent⟩ := eq_append_cons_of_mem present
    rw [splitField_append value absent] at missing
    contradiction
  · intro absent
    have dropped : line.dropWhile (· != 58) = [] := by
      rw [dropWhile_eq_nil_iff]
      intro octet member
      simp only [bne_iff_ne]
      rintro rfl
      exact absent member
    simp [splitField, dropped]

theorem splitField_eq_some_iff {line name value : Bytes} :
    splitField line = some (name, value) ↔ line = name ++ 58 :: value ∧ (58 : UInt8) ∉ name := by
  constructor
  · intro split
    have present : (58 : UInt8) ∈ line := by
      by_contra absent
      rw [splitField_eq_none_iff.mpr absent] at split
      contradiction
    obtain ⟨left, right, rfl, absent⟩ := eq_append_cons_of_mem present
    rw [splitField_append right absent] at split
    cases split
    exact ⟨rfl, absent⟩
  · rintro ⟨rfl, absent⟩
    exact splitField_append value absent

/-- Header names are compared without regard to ASCII case. -/
def isNamed (name header : Bytes) : Bool := name.map toLowerCase == header.map toLowerCase

theorem HttpHeader.isMyHeaderName_eq (before name after header : Bytes) (headerEnd : Nat) :
    isMyHeaderName
      { payload := before ++ name ++ after
        headerStart := before.length
        headerSeparatorIndex := before.length + name.length
        headerEnd } header = .ret (isNamed name header) := by
  unfold isMyHeaderName
  simp only [Nat.add_sub_cancel_left, slice_append, bind_ret]
  by_cases lengths : name.length = header.length
  · rw [if_neg (by simpa using lengths), compareCaseInsensitive_of_length lengths]
    rfl
  have different : isNamed name header = false := by
    simp only [isNamed, beq_eq_false_iff_ne]
    intro same
    exact lengths (by simpa using congrArg List.length same)
  rw [if_pos lengths, different]

namespace Http1Headers

/-- The text of a field value.  A value starts one octet after the colon,
whatever that octet is; where nothing follows the colon the slice of the
source panics. -/
def valueText : Bytes → Outcome (Option Str)
  | [] => .panic
  | _ :: value => .ret ((fromUtf8 value).map trim)

theorem getValueAsStr_eq (before name value after : Bytes) :
    getValueAsStr
      { payload := before ++ (name ++ 58 :: value) ++ after
        headerStart := before.length
        headerSeparatorIndex := before.length + name.length
        headerEnd := before.length + (name ++ 58 :: value).length } =
      valueText value := by
  unfold getValueAsStr
  cases value with
  | nil =>
    rw [slice_panic (by simp; omega)]
    rfl
  | cons octet rest =>
    have sliced := slice_append (before ++ name ++ [58, octet]) rest after
    have start : (before ++ name ++ [58, octet]).length = before.length + name.length + 2 := by
      simp; omega
    have stop : before.length + (name ++ 58 :: octet :: rest).length =
        before.length + name.length + 2 + rest.length := by
      simp; omega
    have payload : before ++ (name ++ 58 :: octet :: rest) ++ after =
        before ++ name ++ [58, octet] ++ rest ++ after := by
      simp
    rw [start] at sliced
    simp only [payload, stop, sliced]
    rfl

private theorem isNamed_of_cr {name header : Bytes} (present : (13 : UInt8) ∈ name)
    (absent : (13 : UInt8) ∉ header.map toLowerCase) :
    isNamed name header = false := by
  simp only [isNamed, beq_eq_false_iff_ne]
  intro same
  apply absent
  rw [← same]
  exact mem_map.mpr ⟨13, present, rfl⟩

/-! ## Searching the buffer from the start of a line -/

theorem length_line (before line : Bytes) : (before ++ line ++ httpCrLf).length =
    before.length + line.length + httpCrLf.length := by
  simp [Nat.add_assoc]

section

variable [SliceOfU8Ext]

theorem findSequencePos_line (before : Bytes) {line : Bytes} (after : Bytes)
    (free : CrLfFree line) :
    findSequencePos (before ++ line ++ httpCrLf ++ after) httpCrLf
      before.length = some (before.length + line.length) := by
  rw [findSequencePos_eq_some_iff (by simp) (by decide)]
  have found := firstAt_of_separatorFree before after (by decide) free
  simpa [httpCrLf] using found

theorem exists_line (before : Bytes) {tail : Bytes} {stop : Nat}
    (found : findSequencePos (before ++ tail) httpCrLf before.length = some stop) :
    ∃ line suffix, tail = line ++ httpCrLf ++ suffix ∧ CrLfFree line ∧
      stop = before.length + line.length := by
  rw [findSequencePos_eq_some_iff (by simp) (by decide)] at found
  obtain ⟨line, suffix, source, length, free⟩ := found.segment
  exact ⟨line, suffix, by simpa [httpCrLf] using source, free, length.symm⟩

theorem new_field (before : Bytes) {name : Bytes} (value after : Bytes)
    (headerEnd : Nat) (absent : (58 : UInt8) ∉ name) :
    new (before ++ (name ++ 58 :: value) ++ after) before.length headerEnd =
      some
        { payload := before ++ (name ++ 58 :: value) ++ after
          headerStart := before.length
          headerSeparatorIndex := before.length + name.length
          headerEnd } := by
  have found := firstAt_of_not_mem before (value ++ after) absent
  rw [show before ++ name ++ 58 :: (value ++ after) =
    before ++ (name ++ 58 :: value) ++ after by simp] at found
  rw [new, (findBytePos_eq_some_iff (by simp)).mpr found]
  rfl

theorem new_past_line (before line after : Bytes) (headerEnd : Nat)
    (absent : (58 : UInt8) ∉ line) (present : (58 : UInt8) ∈ after) :
    ∃ name suffix,
      before ++ line ++ httpCrLf ++ after = before ++ name ++ suffix ∧ (13 : UInt8) ∈ name ∧
        new (before ++ line ++ httpCrLf ++ after) before.length headerEnd =
          some
            { payload := before ++ line ++ httpCrLf ++ after
              headerStart := before.length
              headerSeparatorIndex := before.length + name.length
              headerEnd } := by
  obtain ⟨segment, suffix, rfl, segmentAbsent⟩ := eq_append_cons_of_mem present
  have nameAbsent : (58 : UInt8) ∉ line ++ httpCrLf ++ segment := by
    simp [absent, segmentAbsent, httpCrLf]
  have made := new_field before suffix [] headerEnd nameAbsent
  refine ⟨line ++ httpCrLf ++ segment, 58 :: suffix, by simp,
    by simp [httpCrLf], ?_⟩
  simpa using made

theorem new_none (before line after : Bytes) (headerEnd : Nat)
    (lineAbsent : (58 : UInt8) ∉ line) (absent : (58 : UInt8) ∉ after) :
    new (before ++ line ++ httpCrLf ++ after) before.length headerEnd = none := by
  cases found : findBytePos (before ++ line ++ httpCrLf ++ after) 58 before.length with
  | none => rw [new, found]; rfl
  | some pos =>
    rw [findBytePos_eq_some_iff (by simp)] at found
    simp only [append_assoc] at found
    have member := found.mem
    simp [lineAbsent, absent, httpCrLf] at member

end

section

variable [StrUtils]

/-- The body of the header loop for a line `name:value` at position `pos`. -/
def readField (pos : Nat) (name value : Bytes) (found : Found) :
    Outcome (Option Found) := do
  let position : HeaderPosition :=
    { start := pos + name.length + 2
      stop := pos + (name ++ 58 :: value).length }
  if isNamed name hostHeader then
    return some { found with hostValue := some position }
  else if isNamed name cookieHeader then
    return some { found with cookieValue := some position }
  else if isNamed name contentLenHeader then
    match (← valueText value).bind parseUsize with
    | none => return none
    | some size => return some { found with contentLength := .known size }
  else if isNamed name transferEncodingHeader then
    match ← valueText value with
    | none => return none
    | some text =>
      if eqCaseInsensitive text "chunked".toList then
        return some { found with contentLength := .chunked }
      else
        return some found
  else if isNamed name upgradeHeader then
    return some { found with upgradeValue := some position }
  else
    return some found

theorem readHeader_field (before name value after : Bytes) (found : Found) :
    readHeader
      { payload := before ++ (name ++ 58 :: value) ++ after
        headerStart := before.length
        headerSeparatorIndex := before.length + name.length
        headerEnd := before.length + (name ++ 58 :: value).length } found =
      readField before.length name value found := by
  have named (header : Bytes) := isMyHeaderName_eq before name
    (58 :: value ++ after) header
    (before.length + (name ++ 58 :: value).length)
  have payload : before ++ name ++ (58 :: value ++ after) =
      before ++ (name ++ 58 :: value) ++ after := by
    simp
  rw [payload] at named
  have text := getValueAsStr_eq before name value after
  unfold readHeader readField readContentLength readTransferEncoding
    getUsizeValue getValue
  simp only [named, text, bind_ret]
  cases value with
  | nil => rfl
  | cons octet rest => rfl

/-- A colon found only after the end of the line yields a name with a line
end in it, which is none of the names the parser knows. -/
theorem readHeader_past_line (before name after : Bytes) (headerEnd : Nat)
    (found : Found) (present : (13 : UInt8) ∈ name) :
    readHeader
      { payload := before ++ name ++ after
        headerStart := before.length
        headerSeparatorIndex := before.length + name.length
        headerEnd } found = .ret (some found) := by
  have host : isNamed name hostHeader = false := isNamed_of_cr present (by decide)
  have cookie : isNamed name cookieHeader = false := isNamed_of_cr present (by decide)
  have contentLen : isNamed name contentLenHeader = false := isNamed_of_cr present (by decide)
  have transferEncoding : isNamed name transferEncodingHeader = false :=
    isNamed_of_cr present (by decide)
  have upgrade : isNamed name upgradeHeader = false := isNamed_of_cr present (by decide)
  simp only [readHeader, isMyHeaderName_eq, host, cookie,
    contentLen, transferEncoding, upgrade, bind_ret]
  rfl

/-! ## The header loop over lines -/

/-- The body of the header loop for a line at position `pos` with the bytes
`after` behind it.  The search for a colon is not bounded by the line: a line
without one is passed over when a later byte of the buffer is a colon. -/
def readLine (pos : Nat) (line after : Bytes) (found : Found) : Outcome (Option Found) :=
  match splitField line with
  | some (name, value) => readField pos name value found
  | none => if 58 ∈ after then .ret (some found) else .ret none

/-- The header loop over the lines from position `pos` on. -/
def scanLines (rest : Bytes) :
    Nat → Found → List Bytes → Outcome (Option Found)
  | _, found, [] => .ret (some found)
  | pos, found, line :: lines => do
    match ← readLine pos line (joinLines lines ++ httpCrLf ++ rest) found with
    | none => return none
    | some found =>
      scanLines rest (pos + line.length + httpCrLf.length) found lines

def Found.headers (found : Found) (firstLineEnd stop : Nat) : Http1Headers :=
  { firstLineEnd
    stop
    contentLength := found.contentLength
    hostValue := found.hostValue
    cookieValue := found.cookieValue
    upgradeValue := found.upgradeValue }

variable [SliceOfU8Ext]

theorem parseLoop_end (before rest : Bytes) (firstLineEnd fuel : Nat) (found : Found) :
    parseLoop (before ++ httpCrLf ++ rest) firstLineEnd (fuel + 1) before.length found =
      .ret (some (found.headers firstLineEnd (before ++ httpCrLf).length)) := by
  have position := findSequencePos_line before rest SeparatorFree.nil
  simp only [append_nil, length_nil, Nat.add_zero] at position
  rw [parseLoop, position]
  simp [Found.headers]

theorem parseLoop_line (before : Bytes) {line : Bytes} (after : Bytes)
    (firstLineEnd fuel : Nat) (found : Found) (free : CrLfFree line)
    (nonempty : line ≠ []) :
    parseLoop (before ++ line ++ httpCrLf ++ after) firstLineEnd (fuel + 1) before.length found =
      (readLine before.length line after found >>= fun result =>
        match result with
        | none => .ret none
        | some found =>
          parseLoop (before ++ line ++ httpCrLf ++ after) firstLineEnd fuel
            (before ++ line ++ httpCrLf).length found) := by
  have notEmpty : before.length + line.length ≠ before.length := by simpa using nonempty
  rw [parseLoop, findSequencePos_line before after free, length_line]
  simp only [notEmpty, if_false]
  cases split : splitField line with
  | some field =>
    obtain ⟨name, value⟩ := field
    obtain ⟨rfl, absent⟩ := splitField_eq_some_iff.mp split
    have made := new_field before value (httpCrLf ++ after)
      (before.length + (name ++ 58 :: value).length) absent
    have read := readHeader_field before name value (httpCrLf ++ after) found
    simp only [← append_assoc] at made read
    simp only [readLine, split, ← append_assoc, made, read]
    rfl
  | none =>
    have absent := splitField_eq_none_iff.mp split
    by_cases present : (58 : UInt8) ∈ after
    · obtain ⟨name, suffix, source, cr, made⟩ := new_past_line before line
        after (before.length + line.length) absent present
      rw [made]
      have read := readHeader_past_line before name suffix (before.length + line.length) found cr
      rw [← source] at read
      simp only [readLine, split, present, if_true, read]
      rfl
    · rw [new_none before line after _ absent present]
      simp [readLine, split, present]

theorem parseLoop_lines (before : Bytes) (lines : List Bytes) (rest : Bytes)
    (firstLineEnd fuel : Nat) (found : Found) (enough : lines.length < fuel)
    (free : ∀ line ∈ lines, CrLfFree line)
    (nonempty : ∀ line ∈ lines, line ≠ []) :
    parseLoop (before ++ joinLines lines ++ httpCrLf ++ rest) firstLineEnd
        fuel before.length found =
      (scanLines rest before.length found lines >>= fun result =>
        .ret (result.map (·.headers firstLineEnd
          (before ++ joinLines lines ++ httpCrLf).length))) := by
  induction lines generalizing before fuel found with
  | nil =>
    obtain ⟨fuel, rfl⟩ : ∃ rounds, fuel = rounds + 1 :=
      Nat.exists_eq_succ_of_ne_zero (by rintro rfl; simp at enough)
    simpa [scanLines] using parseLoop_end before rest firstLineEnd fuel found
  | cons line lines ih =>
    obtain ⟨fuel, rfl⟩ : ∃ rounds, fuel = rounds + 1 :=
      Nat.exists_eq_succ_of_ne_zero (by rintro rfl; simp at enough)
    have step := parseLoop_line before (joinLines lines ++ httpCrLf ++ rest) firstLineEnd fuel found
      (free line (by simp)) (nonempty line (by simp))
    have next (found : Found) := ih (before ++ line ++ httpCrLf) fuel found (by simpa using enough)
      (fun other member => free other (by simp [member]))
      (fun other member => nonempty other (by simp [member]))
    simp only [joinLines_cons, ← append_assoc] at step next ⊢
    rw [step, scanLines]
    cases read : readLine before.length line (joinLines lines ++ httpCrLf ++ rest) found with
    | panic => rfl
    | diverge => rfl
    | ret result =>
      cases result with
      | none => rfl
      | some found =>
        simp only [bind_ret, next]
        simp [Nat.add_assoc]

theorem parse_firstLine {firstLine : Bytes} (tail : Bytes) (free : CrLfFree firstLine) :
    parse (firstLine ++ httpCrLf ++ tail) =
      match verifyHttp11FirstLine firstLine with
      | .error _ => .ret none
      | .ok _ =>
        parseLoop (firstLine ++ httpCrLf ++ tail) firstLine.length
          (firstLine ++ httpCrLf ++ tail).length
          (firstLine ++ httpCrLf).length {} := by
  have position := findSequencePos_line [] tail free
  simp only [nil_append, length_nil, Nat.zero_add] at position
  have taken : (firstLine ++ httpCrLf ++ tail).take firstLine.length =
      firstLine := by
    simp
  have start : (firstLine ++ httpCrLf).length = firstLine.length + httpCrLf.length := by
    simp
  cases verified : verifyHttp11FirstLine firstLine with
  | error err => simp only [parse, position, taken, verified]
  | ok version => simp only [parse, position, taken, verified, start]

theorem parse_head (head : MessageHead) (rest : Bytes) :
    parse (head.bytes ++ rest) =
      match verifyHttp11FirstLine head.firstLine with
      | .error _ => .ret none
      | .ok _ =>
        scanLines rest (head.firstLine ++ httpCrLf).length {} head.lines >>=
          fun result => .ret (result.map (·.headers head.firstLine.length head.bytes.length)) := by
  have source : head.bytes ++ rest = head.firstLine ++ httpCrLf ++
      (joinLines head.lines ++ httpCrLf ++ rest) := by
    simp [MessageHead.bytes]
  have loop := parseLoop_lines (head.firstLine ++ httpCrLf) head.lines rest
    head.firstLine.length (head.bytes ++ rest).length {} (head.length_lines_lt rest)
    head.linesFree head.linesNonempty
  have parsed := parse_firstLine (joinLines head.lines ++ httpCrLf ++ rest) head.firstLineFree
  rw [← source] at parsed
  rw [parsed]
  cases verified : verifyHttp11FirstLine head.firstLine with
  | error message => rfl
  | ok value => exact loop

/-! ## Accepted buffers -/

theorem parseLoop_eq_some {before tail : Bytes} {firstLineEnd fuel : Nat}
    {found : Found} {headers : Http1Headers}
    (accepted : parseLoop (before ++ tail) firstLineEnd fuel before.length
      found = .ret (some headers)) :
    ∃ lines rest, tail = joinLines lines ++ httpCrLf ++ rest ∧
      (∀ line ∈ lines, CrLfFree line) ∧ ∀ line ∈ lines, line ≠ [] := by
  induction fuel generalizing before tail found with
  | zero => simp [parseLoop] at accepted
  | succ fuel ih =>
    cases position : findSequencePos (before ++ tail) httpCrLf before.length with
    | none => simp [parseLoop, position] at accepted
    | some stop =>
      obtain ⟨line, suffix, rfl, free, _⟩ := exists_line before position
      by_cases empty : line = []
      · subst empty
        exact ⟨[], suffix, by simp, by simp, by simp⟩
      simp only [← append_assoc] at accepted
      rw [parseLoop_line before suffix firstLineEnd fuel found free empty,
        bind_eq_ret_iff] at accepted
      obtain ⟨result, _, continued⟩ := accepted
      cases result with
      | none => simp at continued
      | some nextFound =>
        obtain ⟨lines, rest, rfl, linesFree, linesNonempty⟩ := ih continued
        refine ⟨line :: lines, rest, by simp, ?_, ?_⟩
        · intro other member
          rcases mem_cons.mp member with rfl | member
          · exact free
          · exact linesFree other member
        · intro other member
          rcases mem_cons.mp member with rfl | member
          · exact empty
          · exact linesNonempty other member

theorem exists_head_of_parse {src : Bytes} {headers : Http1Headers}
    (accepted : parse src = .ret (some headers)) :
    ∃ (head : MessageHead) (rest : Bytes), src = head.bytes ++ rest := by
  cases position : findSequencePos src httpCrLf 0 with
  | none => simp [parse, position] at accepted
  | some firstLineEnd =>
    obtain ⟨firstLine, suffix, rfl, free, _⟩ := exists_line [] position
    rw [parse_firstLine suffix free] at accepted
    cases verified : verifyHttp11FirstLine firstLine with
    | error message => simp [verified] at accepted
    | ok value =>
      simp only [verified] at accepted
      obtain ⟨lines, rest, rfl, linesFree, linesNonempty⟩ := parseLoop_eq_some accepted
      exact ⟨{ firstLine
               lines
               firstLineFree := free
               linesFree
               linesNonempty }, rest, by simp [MessageHead.bytes]⟩

end

end Http1Headers

end ReverseProxy
