import ReverseProxy.Rfc7230.Response

/-!
# Header fields of RFC 7230

The grammar of one header line, and what reading a whole response gives: its
status, its fields and its body.
-/

namespace ReverseProxy.Rfc7230

open List

/-- `tchar`. -/
def isTchar (octet : UInt8) : Bool := (97 ≤ octet && octet ≤ 122) || (65 ≤ octet && octet ≤ 90) ||
    isDigit octet || (ascii "!#$%&'*+-.^_`|~").contains octet

/-- `field-vchar`, a space or a tab: everything but the control characters. -/
def isFieldOctet (octet : UInt8) : Bool := octet == 9 || (32 ≤ octet && octet != 127)

/-- `header-field = field-name ":" OWS field-value OWS`. -/
def parseField (line : Bytes) : Option (Bytes × Bytes) :=
  match splitField line with
  | some (name, value) =>
    if name ≠ [] ∧ name.all isTchar ∧ (trimOws value).all isFieldOctet then
      some (name, trimOws value)
    else none
  | none => none

/-- A field that reads back as it was written. -/
def isPlainField (name value : Bytes) : Bool :=
  name ≠ [] && name.all isTchar && value.all isFieldOctet &&
    value.head?.all (!isOws ·) && value.getLast?.all (!isOws ·)

variable {value : Bytes}

theorem trimOws_space (first : value.head?.all (!isOws ·) = true)
    (last : value.getLast?.all (!isOws ·) = true) :
    trimOws (32 :: value) = value := by
  have front : (32 :: value).dropWhile isOws = value := by
    rw [dropWhile_cons_of_pos (by decide)]
    cases value with
    | nil => rfl
    | cons octet rest =>
      apply dropWhile_cons_of_neg
      simpa using first
  unfold trimOws
  rw [front]
  apply (rdropWhile_eq_self_iff ..).mpr
  intro nonempty
  rw [getLast?_eq_some_getLast nonempty] at last
  simpa using last

variable {name : Bytes}

section

variable (plain : isPlainField name value = true)

include plain

theorem splitField_plain :
    splitField (name ++ ascii ": " ++ value) = some (name, 32 :: value) := by
  simp only [isPlainField, Bool.and_eq_true] at plain
  obtain ⟨⟨⟨⟨_, tchars⟩, _⟩, _⟩, _⟩ := plain
  rw [append_assoc]
  apply splitField_append (32 :: value)
  intro colon
  exact absurd (all_eq_true.mp tchars 58 colon) (by decide)

theorem trimOws_plain : trimOws (32 :: value) = value := by
  simp only [isPlainField, Bool.and_eq_true] at plain
  exact trimOws_space plain.1.2 plain.2

theorem parseField_plain :
    parseField (name ++ ascii ": " ++ value) = some (name, value) := by
  unfold parseField
  rw [splitField_plain plain]
  dsimp only
  rw [trimOws_plain plain]
  simp only [isPlainField, Bool.and_eq_true, decide_eq_true_eq] at plain
  rw [if_pos ⟨plain.1.1.1.1, plain.1.1.1.2, plain.1.1.2⟩]

end

theorem parseField_octets {line : Bytes} (parsed : parseField line = some (name, value)) :
    value.all isFieldOctet = true := by
  unfold parseField at parsed
  split at parsed
  · split at parsed
    · rename_i valid
      cases parsed
      exact valid.2.2
    · cases parsed
  · cases parsed

theorem plain_line (plain : isPlainField name value = true) :
    13 ∉ name ++ ascii ": " ++ value ∧ name ++ ascii ": " ++ value ≠ [] := by
  simp only [isPlainField, Bool.and_eq_true, decide_eq_true_eq] at plain
  obtain ⟨⟨⟨⟨nonempty, tchars⟩, octets⟩, _⟩, _⟩ := plain
  refine ⟨?_, by simp [nonempty]⟩
  intro member
  rcases mem_append.mp member with inFront | inValue
  · rcases mem_append.mp inFront with inName | between
    · exact absurd (all_eq_true.mp tchars 13 inName) (by decide)
    · exact absurd between (by decide)
  · exact absurd (all_eq_true.mp octets 13 inValue) (by decide)

/-! ## Decimal numbers -/

theorem contentLengthNumber_toString (number : Nat) :
    contentLengthNumber (ascii (toString number)) = some number := by
  have text : (toString number).toList = Nat.toDigits 10 number := Nat.toList_repr
  have digit : ∀ symbol ∈ Nat.toDigits 10 number, 48 ≤ symbol.toNat ∧ symbol.toNat ≤ 57 := by
    intro symbol member
    have isDigit := Nat.isDigit_of_mem_toDigits (by decide) (by decide) member
    simp only [Char.isDigit, Bool.and_eq_true, decide_eq_true_eq, ge_iff_le,
      UInt32.le_iff_toNat_le] at isDigit
    exact isDigit
  have octet : ∀ symbol ∈ Nat.toDigits 10 number, symbol.toNat.toUInt8.toNat = symbol.toNat := by
    intro symbol member
    have range := digit symbol member
    simp only [Nat.toUInt8, UInt8.toNat_ofNat']
    omega
  have value : digitsValue (ascii (toString number)) = number := by
    calc digitsValue (ascii (toString number)) = (Nat.toDigits 10 number).foldl (fun value symbol =>
            value * 10 + (symbol.toNat.toUInt8.toNat - 48)) 0 := by
          rw [digitsValue, ascii, text, foldl_map]
      _ = Nat.ofDigitChars 10 (Nat.toDigits 10 number) 0 := by
          apply foldl_ext
          intro value symbol member
          rw [octet symbol member, Nat.mul_comm]
          rfl
      _ = number := Nat.ofDigitChars_toDigits (by decide) (by decide)
  unfold contentLengthNumber
  rw [if_pos, value]
  refine ⟨?_, all_eq_true.mpr ?_⟩
  · rw [ascii, text]
    simp
  · intro coded member
    rw [ascii, text] at member
    obtain ⟨symbol, inside, rfl⟩ := mem_map.mp member
    have range := digit symbol inside
    simp only [isDigit, Bool.and_eq_true, decide_eq_true_eq,
      UInt8.le_iff_toNat_le, octet symbol inside]
    exact range

theorem plain_contentLength (number : Nat) :
    isPlainField (ascii "content-length") (ascii (toString number)) =
      true := by
  have read := contentLengthNumber_toString number
  unfold contentLengthNumber at read
  split at read
  · rename_i digits
    have plain : ∀ octet ∈ ascii (toString number),
        isFieldOctet octet = true ∧ isOws octet = false := by
      intro octet member
      have range := all_eq_true.mp digits.2 octet member
      simp only [isDigit, Bool.and_eq_true, decide_eq_true_eq, UInt8.le_iff_toNat_le] at range
      simp only [isFieldOctet, isOws, Bool.or_eq_true, Bool.and_eq_true,
        Bool.or_eq_false_iff, decide_eq_true_eq, beq_iff_eq, bne_iff_ne,
        beq_eq_false_iff_ne, UInt8.le_iff_toNat_le, ← UInt8.toNat_inj, ne_eq]
      simp at range ⊢
      omega
    simp only [isPlainField, Bool.and_eq_true, all_eq_true]
    refine ⟨⟨⟨by decide +kernel, fun octet member => (plain octet member).1⟩, ?_⟩, ?_⟩
    · cases first : (ascii (toString number)).head? with
      | none => rfl
      | some octet => simp [(plain octet (mem_of_head? first)).2]
    · cases last : (ascii (toString number)).getLast? with
      | none => rfl
      | some octet => simp [(plain octet (mem_of_getLast? last)).2]
  · cases read

/-! ## Whole responses -/

/-- `bytes` is one response with this status, these fields and this body, and
nothing behind it. -/
def IsResponse (bytes : Bytes) (status : Nat)
    (fields : List (Bytes × Bytes)) (body : Bytes) : Prop :=
  ∃ head : MessageHead, bytes = head.bytes ++ body ∧ statusCode head.firstLine = some status ∧
    head.lines.map parseField = fields.map some ∧
    FinalResponse (ascii "GET") head body []

end ReverseProxy.Rfc7230
