import ReverseProxy.H1Utils.HeaderValues

/-!
# Looking a header up

`find_header_value_str` stops at the first line of the name it is given, while
the header loop of the parser keeps the range of the last one.  On an accepted
head the search is a search over its lines.
-/

namespace ReverseProxy.Http1Headers

open Library Rfc7230

section

variable [SliceOfU8Ext]

theorem findHeaderLoop_line (before : Bytes) {line : Bytes} (after : Bytes)
    (fuel : Nat) {header : Bytes} (free : CrLfFree line)
    (nonempty : line ≠ []) (noCr : (13 : UInt8) ∉ header.map toLowerCase)
    (colon : (58 : UInt8) ∈ line ∨ (58 : UInt8) ∈ after) :
    findHeaderLoop (before ++ line ++ httpCrLf ++ after) header (fuel + 1) before.length =
      match (rawValues header [line]).head? with
      | some value => valueText value
      | none =>
        findHeaderLoop (before ++ line ++ httpCrLf ++ after) header fuel
          (before ++ line ++ httpCrLf).length := by
  have notEmpty : before.length + line.length ≠ before.length := by simpa using nonempty
  rw [findHeaderLoop, findSequencePos_line before after free, length_line]
  simp only [notEmpty, if_false]
  cases split : splitField line with
  | some field =>
    obtain ⟨name, value⟩ := field
    obtain ⟨rfl, absent⟩ := splitField_eq_some_iff.mp split
    have made := new_field before value (httpCrLf ++ after)
      (before.length + (name ++ 58 :: value).length) absent
    have named := HttpHeader.isMyHeaderName_eq before name
      (58 :: value ++ (httpCrLf ++ after)) header
      (before.length + (name ++ 58 :: value).length)
    have text := getValueAsStr_eq before name value (httpCrLf ++ after)
    have payload : before ++ name ++ (58 :: value ++ (httpCrLf ++ after)) =
        before ++ (name ++ 58 :: value) ++ (httpCrLf ++ after) := by
      simp
    have values : (rawValues header [name ++ 58 :: value]).head? =
        if isNamed name header then some value else none := by
      cases own : isNamed name header with
      | true => simp [rawValues, split, own]
      | false => simp [rawValues, split, own]
    rw [payload] at named
    rw [List.append_assoc _ httpCrLf after, made, values]
    dsimp only
    rw [named, Outcome.bind_ret]
    cases isNamed name header with
    | true => exact text
    | false => rfl
  | none =>
    have absent := splitField_eq_none_iff.mp split
    obtain ⟨name, suffix, source, cr, made⟩ := new_past_line before line
      after (before.length + line.length) absent (colon.resolve_left absent)
    have notNamed : isNamed name header = false := by
      by_contra named
      exact not_mem_of_isNamed (by simpa using named) (by decide) noCr cr
    have named := HttpHeader.isMyHeaderName_eq before name suffix header
      (before.length + line.length)
    have values : (rawValues header [line]).head? = none := by
      simp [rawValues, split]
    rw [← source, notNamed] at named
    rw [made, values]
    dsimp only
    rw [named, Outcome.bind_ret]
    rfl

theorem findHeaderLoop_end (before rest : Bytes) (fuel : Nat) (header : Bytes) :
    findHeaderLoop (before ++ httpCrLf ++ rest) header (fuel + 1) before.length = .ret none := by
  have position := findSequencePos_line before rest SeparatorFree.nil
  simp only [List.append_nil, List.length_nil, Nat.add_zero] at position
  rw [findHeaderLoop, position]
  simp

theorem findHeaderLoop_lines (before : Bytes) {lines : List Bytes}
    (rest : Bytes) {fuel : Nat} {header : Bytes}
    (free : ∀ line ∈ lines, CrLfFree line)
    (nonempty : ∀ line ∈ lines, line ≠ []) (enough : lines.length < fuel)
    (noCr : (13 : UInt8) ∉ header.map toLowerCase)
    (colon : ∀ last ∈ lines.getLast?, (58 : UInt8) ∈ last ∨ (58 : UInt8) ∈ rest) :
    findHeaderLoop (before ++ joinLines lines ++ httpCrLf ++ rest) header fuel before.length =
      match (rawValues header lines).head? with
      | some value => valueText value
      | none => .ret none := by
  induction lines generalizing before fuel with
  | nil =>
    obtain ⟨fuel, rfl⟩ := Nat.exists_eq_add_one_of_ne_zero (Nat.ne_of_gt enough)
    simp only [joinLines_nil, List.append_nil]
    rw [findHeaderLoop_end]
    rfl
  | cons line lines ih =>
    obtain ⟨fuel, rfl⟩ := Nat.exists_eq_add_one_of_ne_zero (Nat.ne_of_gt (Nat.zero_lt_of_lt enough))
    obtain ⟨here, later⟩ := colon_of_last colon
    have source : before ++ joinLines (line :: lines) ++ httpCrLf ++ rest =
        before ++ line ++ httpCrLf ++ (joinLines lines ++ httpCrLf ++ rest) := by
      simp
    have tail := ih (before ++ line ++ httpCrLf) (fun other member => free other (by simp [member]))
      (fun other member => nonempty other (by simp [member]))
      (by simpa using enough) later
    have values : rawValues header (line :: lines) =
        rawValues header [line] ++ rawValues header lines :=
      rawValues_append header [line] lines
    rw [source, findHeaderLoop_line before _ fuel (free line (by simp))
      (nonempty line (by simp)) noCr here, values, List.head?_append]
    cases (rawValues header [line]).head? with
    | some value => rfl
    | none =>
      simp only [← List.append_assoc, tail]
      rfl

variable [StrUtils] {head : MessageHead} {rest : Bytes} {headers : Http1Headers}

theorem findHeaderValueStr_eq (accepted : parse (head.bytes ++ rest) = .ret (some headers))
    {header : Bytes} (noCr : (13 : UInt8) ∉ header.map toLowerCase) :
    headers.findHeaderValueStr (head.bytes ++ rest) header =
      match (rawValues header head.lines).head? with
      | some value => valueText value
      | none => .ret none := by
  have passable := parse_accepts_iff.mp ⟨headers, accepted⟩
  have facts := acceptedHead_of_parse accepted
  have source : head.bytes ++ rest = head.firstLine ++ httpCrLf ++
      joinLines head.lines ++ httpCrLf ++ rest := by
    simp [MessageHead.bytes]
  have start : headers.firstLineEnd + httpCrLf.length = (head.firstLine ++ httpCrLf).length := by
    simp [facts.firstLineEnd]
  have enough := head.length_lines_lt rest
  rw [findHeaderValueStr, start]
  rw [source] at enough ⊢
  exact findHeaderLoop_lines (head.firstLine ++ httpCrLf) rest head.linesFree
    head.linesNonempty enough noCr passable.colon

end

end ReverseProxy.Http1Headers
