import Mathlib.Tactic.Common

/-!
# UTF-8

Byte slices are lists of octets and `str` values are lists of characters.
`fromUtf8` accepts the well-formed sequences of the Unicode standard, and
encoding what it accepts gives the octets back.
-/

namespace ReverseProxy

open List

abbrev Bytes := List UInt8

abbrev Str := List Char

def isUtf8Tail (octet : UInt8) : Bool := 0x80 ≤ octet && octet ≤ 0xBF

/-- The two leading octets of a three-octet sequence: no overlong form and no
surrogate. -/
def isUtf8Lead3 (lead next : UInt8) : Bool := (lead == 0xE0 && 0xA0 ≤ next && next ≤ 0xBF) ||
    (0xE1 ≤ lead && lead ≤ 0xEC && isUtf8Tail next) ||
    (lead == 0xED && 0x80 ≤ next && next ≤ 0x9F) ||
    (0xEE ≤ lead && lead ≤ 0xEF && isUtf8Tail next)

/-- The two leading octets of a four-octet sequence: no overlong form and
nothing above U+10FFFF. -/
def isUtf8Lead4 (lead next : UInt8) : Bool := (lead == 0xF0 && 0x90 ≤ next && next ≤ 0xBF) ||
    (0xF1 ≤ lead && lead ≤ 0xF3 && isUtf8Tail next) ||
    (lead == 0xF4 && 0x80 ≤ next && next ≤ 0x8F)

/-- `std::str::from_utf8`. -/
def fromUtf8 : Bytes → Option Str
  | [] => some []
  | a :: rest =>
    if a < 0x80 then (fromUtf8 rest).map (Char.ofNat a.toNat :: ·)
    else
      match rest with
      | [] => none
      | b :: rest =>
        if 0xC2 ≤ a && a ≤ 0xDF && isUtf8Tail b then
          (fromUtf8 rest).map (Char.ofNat ((a.toNat - 0xC0) * 64 + (b.toNat - 0x80)) :: ·)
        else
          match rest with
          | [] => none
          | c :: rest =>
            if isUtf8Lead3 a b && isUtf8Tail c then
              (fromUtf8 rest).map (Char.ofNat ((a.toNat - 0xE0) * 4096 +
                  (b.toNat - 0x80) * 64 + (c.toNat - 0x80)) :: ·)
            else
              match rest with
              | [] => none
              | d :: rest =>
                if isUtf8Lead4 a b && isUtf8Tail c && isUtf8Tail d then
                  (fromUtf8 rest).map (Char.ofNat ((a.toNat - 0xF0) * 262144 +
                      (b.toNat - 0x80) * 4096 +
                      (c.toNat - 0x80) * 64 + (d.toNat - 0x80)) :: ·)
                else none

/-- `String::from_utf8_lossy`: each maximal ill-formed part becomes one
replacement character. -/
def fromUtf8Lossy : Bytes → Str
  | [] => []
  | a :: rest₁ =>
    if a < 0x80 then Char.ofNat a.toNat :: fromUtf8Lossy rest₁
    else
      match rest₁ with
      | [] => ['�']
      | b :: rest₂ =>
        if 0xC2 ≤ a && a ≤ 0xDF && isUtf8Tail b then
          Char.ofNat ((a.toNat - 0xC0) * 64 + (b.toNat - 0x80)) :: fromUtf8Lossy rest₂
        else if isUtf8Lead3 a b then
          match rest₂ with
          | [] => ['�']
          | c :: rest₃ =>
            if isUtf8Tail c then
              Char.ofNat ((a.toNat - 0xE0) * 4096 + (b.toNat - 0x80) * 64 + (c.toNat - 0x80)) ::
                fromUtf8Lossy rest₃
            else '�' :: fromUtf8Lossy (c :: rest₃)
        else if isUtf8Lead4 a b then
          match rest₂ with
          | [] => ['�']
          | c :: rest₃ =>
            if isUtf8Tail c then
              match rest₃ with
              | [] => ['�']
              | d :: rest₄ =>
                if isUtf8Tail d then
                  Char.ofNat ((a.toNat - 0xF0) * 262144 + (b.toNat - 0x80) * 4096 +
                    (c.toNat - 0x80) * 64 + (d.toNat - 0x80)) ::
                    fromUtf8Lossy rest₄
                else '�' :: fromUtf8Lossy (d :: rest₄)
            else '�' :: fromUtf8Lossy (c :: rest₃)
        else '�' :: fromUtf8Lossy (b :: rest₂)

/-- `str::as_bytes`. -/
def asBytes (text : Str) : Bytes := text.flatMap String.utf8EncodeChar

/-! ## Encoding a decoded sequence -/

theorem toNat_charOfNat {code : Nat} (valid : code.isValidChar) :
    (Char.ofNat code).val.toNat = code := by
  rw [Char.ofNat, dif_pos valid]
  rfl

private theorem ofNat_eq {code : Nat} (octet : UInt8)
    (same : code = octet.toNat) : UInt8.ofNat code = octet := by
  subst same
  simp

variable {a : UInt8}

theorem utf8EncodeChar_one (single : a < 0x80) :
    String.utf8EncodeChar (Char.ofNat a.toNat) = [a] := by
  have bound : a.toNat < 128 := by
    simpa [UInt8.lt_iff_toNat_lt] using single
  unfold String.utf8EncodeChar
  rw [toNat_charOfNat (Or.inl (by omega))]
  simp only [show a.toNat ≤ 127 by omega, if_true, UInt8.ofNat_toNat]

variable {b : UInt8}

theorem utf8EncodeChar_two (lead : (0xC2 ≤ a && a ≤ 0xDF && isUtf8Tail b) = true) :
    String.utf8EncodeChar (Char.ofNat ((a.toNat - 0xC0) * 64 + (b.toNat - 0x80))) = [a, b] := by
  simp only [isUtf8Tail, Bool.and_eq_true, decide_eq_true_eq, UInt8.le_iff_toNat_le] at lead
  simp at lead
  unfold String.utf8EncodeChar
  rw [toNat_charOfNat (Or.inl (by omega))]
  simp only []
  rw [if_neg (by omega), if_pos (by omega), ofNat_eq a (by omega), ofNat_eq b (by omega)]

theorem utf8EncodeChar_three {c : UInt8} (lead : (isUtf8Lead3 a b && isUtf8Tail c) = true) :
    String.utf8EncodeChar (Char.ofNat ((a.toNat - 0xE0) * 4096 + (b.toNat - 0x80) * 64 +
        (c.toNat - 0x80))) = [a, b, c] := by
  simp only [isUtf8Lead3, isUtf8Tail, Bool.and_eq_true, Bool.or_eq_true,
    decide_eq_true_eq, beq_iff_eq, UInt8.le_iff_toNat_le,
    ← UInt8.toNat_inj] at lead
  simp at lead
  unfold String.utf8EncodeChar
  rw [toNat_charOfNat (by unfold Nat.isValidChar; omega)]
  simp only []
  rw [if_neg (by omega), if_neg (by omega), if_pos (by omega),
    ofNat_eq a (by omega), ofNat_eq b (by omega), ofNat_eq c (by omega)]

theorem utf8EncodeChar_four {c d : UInt8}
    (lead : (isUtf8Lead4 a b && isUtf8Tail c && isUtf8Tail d) = true) :
    String.utf8EncodeChar (Char.ofNat ((a.toNat - 0xF0) * 262144 + (b.toNat - 0x80) * 4096 +
        (c.toNat - 0x80) * 64 + (d.toNat - 0x80))) = [a, b, c, d] := by
  simp only [isUtf8Lead4, isUtf8Tail, Bool.and_eq_true, Bool.or_eq_true,
    decide_eq_true_eq, beq_iff_eq, UInt8.le_iff_toNat_le,
    ← UInt8.toNat_inj] at lead
  simp at lead
  unfold String.utf8EncodeChar
  rw [toNat_charOfNat (by unfold Nat.isValidChar; omega)]
  simp only []
  rw [if_neg (by omega), if_neg (by omega), if_neg (by omega),
    ofNat_eq a (by omega), ofNat_eq b (by omega), ofNat_eq c (by omega),
    ofNat_eq d (by omega)]

/-- An ASCII octet only occurs as the whole encoding of its character. -/
theorem utf8EncodeChar_of_ascii_mem {symbol : Char} {octet : UInt8}
    (member : octet ∈ String.utf8EncodeChar symbol) (ascii : octet < 0x80) :
    symbol = Char.ofNat octet.toNat := by
  have bound : octet.toNat < 128 := by
    simpa [UInt8.lt_iff_toNat_lt] using ascii
  unfold String.utf8EncodeChar at member
  simp only [] at member
  split at member
  · rename_i single
    rw [mem_singleton] at member
    have same : octet.toNat = symbol.toNat := by
      rw [member, UInt8.toNat_ofNat']
      change symbol.val.toNat % 256 = symbol.val.toNat
      omega
    rw [same, Char.ofNat_toNat]
  · split at member
    · simp only [mem_cons, not_mem_nil, or_false,
        ← UInt8.toNat_inj, UInt8.toNat_ofNat'] at member
      omega
    split at member
    all_goals
      simp only [mem_cons, not_mem_nil, or_false,
        ← UInt8.toNat_inj, UInt8.toNat_ofNat'] at member
      omega

theorem asBytes_cons (symbol : Char) (text : Str) :
    asBytes (symbol :: text) = String.utf8EncodeChar symbol ++ asBytes text :=
  rfl

theorem asBytes_append (left right : Str) :
    asBytes (left ++ right) = asBytes left ++ asBytes right := by
  simp [asBytes]

theorem asBytes_injective : Function.Injective asBytes := by
  intro left right same
  have encoded : (String.ofList left).toByteArray = (String.ofList right).toByteArray :=
    congrArg toByteArray same
  exact String.ofList_inj.mp (String.toByteArray_inj.mp encoded)

theorem asBytes_of_ascii {text : Str} (plain : ∀ symbol ∈ text, symbol.toNat < 128) :
    asBytes text = text.map fun symbol => symbol.toNat.toUInt8 := by
  induction text with
  | nil => rfl
  | cons symbol rest ih =>
    have head : symbol.toNat < 128 := plain symbol (by simp)
    have tail := ih fun other member => plain other (by simp [member])
    have octet : symbol.toNat.toUInt8 < 0x80 := by
      simp only [UInt8.lt_iff_toNat_lt, Nat.toUInt8, UInt8.toNat_ofNat']
      change symbol.toNat % 256 < 128
      omega
    have same : Char.ofNat symbol.toNat.toUInt8.toNat = symbol := by
      simp only [Nat.toUInt8, UInt8.toNat_ofNat']
      rw [Nat.mod_eq_of_lt (by omega), Char.ofNat_toNat]
    have encoded := utf8EncodeChar_one octet
    rw [same] at encoded
    rw [asBytes_cons, encoded, tail]
    rfl

theorem asBytes_map_ofNat {bytes : Bytes} (plain : ∀ octet ∈ bytes, octet < 0x80) :
    asBytes (bytes.map fun octet => Char.ofNat octet.toNat) = bytes := by
  induction bytes with
  | nil => rfl
  | cons octet bytes ih =>
    rw [map_cons, asBytes_cons, utf8EncodeChar_one (plain octet mem_cons_self),
      ih fun other member => plain other (mem_cons_of_mem _ member)]
    rfl

theorem asBytes_and_lossy_of_fromUtf8 {bytes : Bytes} {text : Str}
    (decoded : fromUtf8 bytes = some text) :
    asBytes text = bytes ∧ fromUtf8Lossy bytes = text := by
  fun_induction fromUtf8 bytes generalizing text with
  | case1 =>
    cases decoded
    exact ⟨rfl, rfl⟩
  | case2 a rest single ih =>
    obtain ⟨tail, decodedTail, rfl⟩ := Option.map_eq_some_iff.mp decoded
    obtain ⟨encoded, lossy⟩ := ih decodedTail
    rw [asBytes_cons, utf8EncodeChar_one single, encoded, fromUtf8Lossy.eq_def]
    simp [single, lossy]
  | case4 a notOne b rest lead ih =>
    obtain ⟨tail, decodedTail, rfl⟩ := Option.map_eq_some_iff.mp decoded
    obtain ⟨encoded, lossy⟩ := ih decodedTail
    rw [asBytes_cons, utf8EncodeChar_two lead, encoded, fromUtf8Lossy.eq_def]
    simp only [notOne, if_false, lead, if_true, lossy]
    exact ⟨rfl, trivial⟩
  | case6 a notOne b notTwo c rest lead ih =>
    obtain ⟨tail, decodedTail, rfl⟩ := Option.map_eq_some_iff.mp decoded
    obtain ⟨encoded, lossy⟩ := ih decodedTail
    rw [asBytes_cons, utf8EncodeChar_three lead, encoded, fromUtf8Lossy.eq_def]
    simp only [Bool.and_eq_true] at lead
    simp only [notOne, if_false, notTwo, lead, if_true, lossy, Bool.false_eq_true]
    exact ⟨rfl, trivial⟩
  | case8 a notOne b notTwo c notThree d rest lead ih =>
    obtain ⟨tail, decodedTail, rfl⟩ := Option.map_eq_some_iff.mp decoded
    obtain ⟨encoded, lossy⟩ := ih decodedTail
    rw [asBytes_cons, utf8EncodeChar_four lead, encoded, fromUtf8Lossy.eq_def]
    simp only [Bool.and_eq_true] at lead
    have notLead3 : isUtf8Lead3 a b = false := by simpa [lead] using notThree
    simp only [notOne, if_false, notTwo, notLead3, lead, if_true, lossy, Bool.false_eq_true]
    exact ⟨rfl, trivial⟩
  | case3 => contradiction
  | case5 => contradiction
  | case7 => contradiction
  | case9 => contradiction

theorem asBytes_of_fromUtf8 {bytes : Bytes} {text : Str}
    (decoded : fromUtf8 bytes = some text) : asBytes text = bytes :=
  (asBytes_and_lossy_of_fromUtf8 decoded).1

theorem asBytes_infix_of_fromUtf8 {bytes : Bytes} {text part : Str}
    (decoded : fromUtf8 bytes = some text) (inside : part <:+: text) :
    asBytes part <:+: bytes := by
  obtain ⟨left, right, rfl⟩ := inside
  rw [← asBytes_of_fromUtf8 decoded, asBytes_append, asBytes_append]
  exact ⟨asBytes left, asBytes right, rfl⟩

/-! ## Decoding an encoded text -/

private theorem not_single (lead : 0xC2 ≤ a.toNat) : ¬ a < 0x80 := by
  rw [UInt8.lt_iff_toNat_lt]
  simp
  omega

/-! The tests of the decoder on a well-formed sequence. -/

private theorem single_test (single : a.toNat < 128) : a < 0x80 := by
  rw [UInt8.lt_iff_toNat_lt]
  exact single

private theorem tail_test {octet : UInt8} (tail : 0x80 ≤ octet.toNat ∧ octet.toNat ≤ 0xBF) :
    isUtf8Tail octet = true := by
  simp only [isUtf8Tail, Bool.and_eq_true, decide_eq_true_eq, UInt8.le_iff_toNat_le]
  simp
  omega

private theorem lead2_test (lead : 0xC2 ≤ a.toNat ∧ a.toNat ≤ 0xDF)
    (tail : 0x80 ≤ b.toNat ∧ b.toNat ≤ 0xBF) :
    (0xC2 ≤ a && a ≤ 0xDF && isUtf8Tail b) = true := by
  simp only [tail_test tail, Bool.and_eq_true, decide_eq_true_eq, UInt8.le_iff_toNat_le]
  simp
  omega

private theorem not_lead2_test (lead : 0xE0 ≤ a.toNat) :
    (0xC2 ≤ a && a ≤ 0xDF && isUtf8Tail b) = false := by
  simp only [Bool.and_eq_false_iff, decide_eq_false_iff_not, UInt8.le_iff_toNat_le]
  simp
  omega

private theorem lead3_test (lead : 0xE0 ≤ a.toNat ∧ a.toNat ≤ 0xEF)
    (next : 0x80 ≤ b.toNat ∧ b.toNat ≤ 0xBF)
    (long : a.toNat = 0xE0 → 0xA0 ≤ b.toNat)
    (noSurrogate : a.toNat = 0xED → b.toNat ≤ 0x9F) :
    isUtf8Lead3 a b = true := by
  simp only [isUtf8Lead3, isUtf8Tail, Bool.and_eq_true, Bool.or_eq_true,
    decide_eq_true_eq, beq_iff_eq, UInt8.le_iff_toNat_le,
    ← UInt8.toNat_inj]
  simp
  omega

private theorem not_lead3_test (lead : 0xF0 ≤ a.toNat) : isUtf8Lead3 a b = false := by
  simp only [isUtf8Lead3, isUtf8Tail, Bool.and_eq_false_iff,
    Bool.or_eq_false_iff, decide_eq_false_iff_not, beq_eq_false_iff_ne,
    UInt8.le_iff_toNat_le, ne_eq, ← UInt8.toNat_inj]
  simp
  omega

private theorem lead4_test (lead : 0xF0 ≤ a.toNat ∧ a.toNat ≤ 0xF4)
    (next : 0x80 ≤ b.toNat ∧ b.toNat ≤ 0xBF)
    (long : a.toNat = 0xF0 → 0x90 ≤ b.toNat)
    (inRange : a.toNat = 0xF4 → b.toNat ≤ 0x8F) :
    isUtf8Lead4 a b = true := by
  simp only [isUtf8Lead4, isUtf8Tail, Bool.and_eq_true, Bool.or_eq_true,
    decide_eq_true_eq, beq_iff_eq, UInt8.le_iff_toNat_le,
    ← UInt8.toNat_inj]
  simp
  omega

theorem fromUtf8_encodeChar (symbol : Char) (rest : Bytes) :
    fromUtf8 (String.utf8EncodeChar symbol ++ rest) = (fromUtf8 rest).map (symbol :: ·) := by
  have valid := symbol.valid
  unfold UInt32.isValidChar Nat.isValidChar at valid
  have whole : Char.ofNat symbol.val.toNat = symbol := Char.ofNat_toNat symbol
  have octet : ∀ code : Nat, code < 256 → (UInt8.ofNat code).toNat = code := by
    intro code small
    rw [UInt8.toNat_ofNat']
    omega
  unfold String.utf8EncodeChar
  generalize symbol.val.toNat = code at valid whole
  simp only []
  split
  · have first := octet code (by omega)
    rw [singleton_append, fromUtf8.eq_def]
    simp only [single_test (show (UInt8.ofNat code).toNat < 128 by omega), if_true, first, whole]
  split
  · have first := octet (code / 64 % 32 + 192) (by omega)
    have second := octet (code % 64 + 128) (by omega)
    generalize UInt8.ofNat (code / 64 % 32 + 192) = a at first
    generalize UInt8.ofNat (code % 64 + 128) = b at second
    rw [cons_append, singleton_append, fromUtf8.eq_def]
    simp only [not_single (show 0xC2 ≤ a.toNat by omega), if_false,
      lead2_test (a := a) (b := b) (by omega) (by omega), if_true,
      show (a.toNat - 0xC0) * 64 + (b.toNat - 0x80) = code by omega, whole]
  split
  · have first := octet (code / 4096 % 16 + 224) (by omega)
    have second := octet (code / 64 % 64 + 128) (by omega)
    have third := octet (code % 64 + 128) (by omega)
    generalize UInt8.ofNat (code / 4096 % 16 + 224) = a at first
    generalize UInt8.ofNat (code / 64 % 64 + 128) = b at second
    generalize UInt8.ofNat (code % 64 + 128) = c at third
    rw [cons_append, cons_append, singleton_append, fromUtf8.eq_def]
    simp only [not_single (show 0xC2 ≤ a.toNat by omega), if_false,
      not_lead2_test (b := b) (show 0xE0 ≤ a.toNat by omega),
      lead3_test (a := a) (b := b) (by omega) (by omega) (by omega) (by omega),
      tail_test (show 0x80 ≤ c.toNat ∧ c.toNat ≤ 0xBF by omega), if_true, Bool.and_self,
      Bool.false_eq_true,
      show (a.toNat - 0xE0) * 4096 + (b.toNat - 0x80) * 64 +
        (c.toNat - 0x80) = code by omega, whole]
  · have first := octet (code / 262144 % 8 + 240) (by omega)
    have second := octet (code / 4096 % 64 + 128) (by omega)
    have third := octet (code / 64 % 64 + 128) (by omega)
    have fourth := octet (code % 64 + 128) (by omega)
    generalize UInt8.ofNat (code / 262144 % 8 + 240) = a at first
    generalize UInt8.ofNat (code / 4096 % 64 + 128) = b at second
    generalize UInt8.ofNat (code / 64 % 64 + 128) = c at third
    generalize UInt8.ofNat (code % 64 + 128) = d at fourth
    rw [cons_append, cons_append, cons_append, singleton_append,
      fromUtf8.eq_def]
    simp only [not_single (show 0xC2 ≤ a.toNat by omega), if_false,
      not_lead2_test (b := b) (show 0xE0 ≤ a.toNat by omega),
      not_lead3_test (b := b) (show 0xF0 ≤ a.toNat by omega),
      lead4_test (a := a) (b := b) (by omega) (by omega) (by omega) (by omega),
      tail_test (show 0x80 ≤ c.toNat ∧ c.toNat ≤ 0xBF by omega),
      tail_test (show 0x80 ≤ d.toNat ∧ d.toNat ≤ 0xBF by omega), if_true, Bool.and_self,
      Bool.false_and, Bool.false_eq_true,
      show (a.toNat - 0xF0) * 262144 + (b.toNat - 0x80) * 4096 +
        (c.toNat - 0x80) * 64 + (d.toNat - 0x80) = code by omega, whole]

theorem fromUtf8_append (text : Str) (rest : Bytes) :
    fromUtf8 (asBytes text ++ rest) = (fromUtf8 rest).map (text ++ ·) := by
  induction text with
  | nil => simp [asBytes]
  | cons symbol text ih =>
    rw [asBytes_cons, append_assoc, fromUtf8_encodeChar, ih, Option.map_map]
    rfl

theorem fromUtf8_asBytes (text : Str) : fromUtf8 (asBytes text) = some text := by
  have decoded := fromUtf8_append text []
  simpa [fromUtf8] using decoded

theorem fromUtf8Lossy_asBytes (text : Str) : fromUtf8Lossy (asBytes text) = text :=
  (asBytes_and_lossy_of_fromUtf8 (fromUtf8_asBytes text)).2

end ReverseProxy
