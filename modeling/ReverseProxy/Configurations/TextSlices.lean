import ReverseProxy.Configurations.HttpEndpointInfo

/-!
# Slices of texts at octet offsets

A slice of a `str` takes offsets in octets and panics inside a character.  An
offset is between two characters exactly if the text can be divided there, and
a slice that spells another text in any ASCII case always ends between two.
-/

namespace ReverseProxy

open HttpEndpointInfo List

/-! ## Boundaries of characters -/

/-- A character is encoded as an octet that starts it and octets that continue
it. -/
theorem utf8EncodeChar_eq_cons (symbol : Char) :
    ∃ lead tail, String.utf8EncodeChar symbol = lead :: tail ∧
      isUtf8Tail lead = false ∧ ∀ octet ∈ tail, isUtf8Tail octet = true := by
  have octet : ∀ code : Nat, code < 256 → (UInt8.ofNat code).toNat = code := by
    intro code small
    rw [UInt8.toNat_ofNat']
    omega
  have lead : ∀ code : Nat, code < 256 → code < 128 ∨ 192 ≤ code →
      isUtf8Tail (UInt8.ofNat code) = false := by
    intro code small outside
    simp only [isUtf8Tail, Bool.and_eq_false_iff, decide_eq_false_iff_not,
      UInt8.le_iff_toNat_le, octet code small]
    simp
    omega
  have tail : ∀ code : Nat, isUtf8Tail (UInt8.ofNat (code % 64 + 128)) =
      true := by
    intro code
    simp only [isUtf8Tail, Bool.and_eq_true, decide_eq_true_eq,
      UInt8.le_iff_toNat_le, octet (code % 64 + 128) (by omega)]
    simp
    omega
  unfold String.utf8EncodeChar
  generalize symbol.val.toNat = code
  dsimp only
  split
  · exact ⟨_, _, rfl, lead _ (by omega) (by omega), by simp⟩
  split
  · refine ⟨_, _, rfl, lead _ (by omega) (by omega), ?_⟩
    simp only [forall_mem_singleton, tail]
  split
  all_goals
    refine ⟨_, _, rfl, lead _ (by omega) (by omega), ?_⟩
    simp only [forall_mem_cons, tail, true_and]
    exact forall_mem_nil _

theorem isCharBoundary_zero (octets : Bytes) : isCharBoundary octets 0 = true := by
  cases octets with
  | nil => rfl
  | cons octet octets => rfl

variable {text : Str}

theorem isUtf8Tail_first {octet : UInt8}
    (first : (asBytes text)[0]? = some octet) : isUtf8Tail octet = false := by
  cases text with
  | nil => cases first
  | cons symbol text =>
    obtain ⟨lead, tail, encoded, starts, _⟩ := utf8EncodeChar_eq_cons symbol
    rw [asBytes_cons, encoded] at first
    cases first
    exact starts

theorem isCharBoundary_asBytes_cons (symbol : Char) (text : Str) (index : Nat) :
    isCharBoundary (asBytes (symbol :: text)) index =
      (index == 0 || decide ((String.utf8EncodeChar symbol).length ≤ index) &&
        isCharBoundary (asBytes text) (index - (String.utf8EncodeChar symbol).length)) := by
  obtain ⟨lead, tail, encoded, starts, continues⟩ := utf8EncodeChar_eq_cons symbol
  rw [asBytes_cons, encoded]
  cases index with
  | zero => exact isCharBoundary_zero _
  | succ index =>
    by_cases inside : index < tail.length
    · have short : ¬ tail.length ≤ index := by omega
      have octet := continues tail[index] (getElem_mem inside)
      simp [isCharBoundary, getElem?_append_left inside,
        getElem?_eq_getElem inside, short, octet]
    obtain ⟨rest, rfl⟩ := Nat.exists_eq_add_of_le (Nat.not_lt.mp inside)
    have same : (lead :: tail ++ asBytes text)[tail.length + rest + 1]? =
        (asBytes text)[rest]? := by
      simp [getElem?_append_right]
    unfold isCharBoundary
    rw [same]
    simp only [length_cons, Nat.add_sub_add_right, Nat.add_sub_cancel_left]
    cases found : (asBytes text)[rest]? with
    | none => simp
    | some octet =>
      cases rest with
      | zero => simp [isUtf8Tail_first found]
      | succ rest => simp

theorem isCharBoundary_asBytes_iff {index : Nat} :
    isCharBoundary (asBytes text) index = true ↔
      ∃ front back, text = front ++ back ∧ (asBytes front).length = index := by
  induction text generalizing index with
  | nil =>
    constructor
    · intro boundary
      have zero : index = 0 := by
        simpa [isCharBoundary, asBytes] using boundary
      exact ⟨[], [], rfl, zero.symm⟩
    · rintro ⟨front, back, split, rfl⟩
      obtain ⟨rfl, rfl⟩ := nil_eq_append_iff.mp split
      rfl
  | cons symbol text ih =>
    rw [isCharBoundary_asBytes_cons]
    simp only [Bool.or_eq_true, beq_iff_eq, Bool.and_eq_true, decide_eq_true_eq, ih]
    constructor
    · rintro (rfl | ⟨fits, front, back, rfl, length⟩)
      · exact ⟨[], symbol :: text, rfl, rfl⟩
      · refine ⟨symbol :: front, back, rfl, ?_⟩
        rw [asBytes_cons, length_append, length]
        omega
    · rintro ⟨front, back, split, rfl⟩
      rcases cons_eq_append_iff.mp split with
        ⟨rfl, _⟩ | ⟨rest, rfl, rfl⟩
      · exact Or.inl rfl
      refine Or.inr ⟨?_, rest, back, rfl, ?_⟩
      all_goals
        rw [asBytes_cons, length_append]
        omega

/-! ## Texts that start with another -/

variable {start : Str}

theorem eq_append_of_asBytes {rest : Bytes} (split : asBytes text = asBytes start ++ rest) :
    ∃ back, text = start ++ back ∧ asBytes back = rest := by
  have decoded := congrArg fromUtf8 split
  rw [fromUtf8_asBytes, fromUtf8_append] at decoded
  obtain ⟨back, found, joined⟩ := Option.map_eq_some_iff.mp decoded.symm
  exact ⟨back, joined.symm, asBytes_of_fromUtf8 found⟩

theorem asBytes_ne_nil (nonempty : text ≠ []) : asBytes text ≠ [] :=
  fun empty => nonempty (asBytes_injective empty)

/-! ## ASCII case -/

variable {left right : Bytes}

theorem isNamed_iff : isNamed left right = true ↔ left.map toLowerCase = right.map toLowerCase := by
  simp [isNamed]

theorem isNamed_self (text : Bytes) : isNamed text text = true := isNamed_iff.mpr rfl

theorem isNamed_length (same : isNamed left right = true) : left.length = right.length := by
  have lengths := congrArg List.length (isNamed_iff.mp same)
  simpa using lengths

theorem isNamed_trans {middle : Bytes} (first : isNamed left middle = true)
    (second : isNamed middle right = true) : isNamed left right = true :=
  isNamed_iff.mpr ((isNamed_iff.mp first).trans (isNamed_iff.mp second))

theorem isNamed_append {left' right' : Bytes}
    (first : isNamed left left' = true) (second : isNamed right right' = true) :
    isNamed (left ++ right) (left' ++ right') = true := by
  apply isNamed_iff.mpr
  rw [map_append, map_append, isNamed_iff.mp first, isNamed_iff.mp second]

theorem isNamed_split {text : Bytes} (same : isNamed text (left ++ right) = true) :
    ∃ head tail, text = head ++ tail ∧ isNamed head left = true ∧ isNamed tail right = true := by
  have folded := isNamed_iff.mp same
  rw [map_append] at folded
  obtain ⟨head, tail, joined, first, second⟩ := map_eq_append_iff.mp folded
  exact ⟨head, tail, joined, isNamed_iff.mpr first, isNamed_iff.mpr second⟩

theorem isNamed_take (count : Nat) (same : isNamed left right = true) :
    isNamed (left.take count) (right.take count) = true := by
  apply isNamed_iff.mpr
  rw [map_take, map_take, isNamed_iff.mp same]

theorem utf8EncodeChar_toLower_ascii : ∀ number < 128,
    String.utf8EncodeChar (Char.ofNat number).toLower =
      (String.utf8EncodeChar (Char.ofNat number)).map toLowerCase := by
  decide +kernel

theorem utf8EncodeChar_toLower (symbol : Char) :
    String.utf8EncodeChar symbol.toLower = (String.utf8EncodeChar symbol).map toLowerCase := by
  by_cases narrow : symbol.toNat < 128
  · have folded := utf8EncodeChar_toLower_ascii symbol.toNat narrow
    rwa [Char.ofNat_toNat] at folded
  have kept : symbol.toLower = symbol := by
    apply dif_neg
    rintro ⟨_, high⟩
    have bound : symbol.toNat ≤ 90 := UInt32.le_iff_toNat_le.mp high
    omega
  have wide : ∀ octet ∈ String.utf8EncodeChar symbol, toLowerCase octet = octet := by
    intro octet member
    apply if_neg
    rintro ⟨_, high⟩
    have small : octet.toNat ≤ 90 := UInt8.le_iff_toNat_le.mp high
    have single := utf8EncodeChar_of_ascii_mem member
      (UInt8.lt_iff_toNat_lt.mpr (Nat.lt_of_le_of_lt small (by decide)))
    apply narrow
    rw [single]
    have code := toNat_charOfNat (show octet.toNat.isValidChar from
      Or.inl (by omega))
    change (Char.ofNat octet.toNat).val.toNat < 128
    omega
  rw [kept, map_congr_left wide, map_id']

theorem asBytes_map_toLower (text : Str) :
    asBytes (text.map Char.toLower) = (asBytes text).map toLowerCase := by
  induction text with
  | nil => rfl
  | cons symbol text ih =>
    rw [map_cons, asBytes_cons, ih, utf8EncodeChar_toLower, asBytes_cons, map_append]

theorem isNamed_asBytes (left right : Str) :
    isNamed (asBytes left) (asBytes right) = eqIgnoreAsciiCase left right := by
  unfold isNamed eqIgnoreAsciiCase
  rw [← asBytes_map_toLower, ← asBytes_map_toLower, Bool.eq_iff_iff,
    beq_iff_eq, beq_iff_eq, asBytes_injective.eq_iff]

/-- `start` begins `text`, in any ASCII case. -/
def startsIgnoreAsciiCase (text start : Str) : Bool := decide (start.length ≤ text.length) &&
    eqIgnoreAsciiCase (text.take start.length) start

theorem eqIgnoreAsciiCase_length {left right : Str} (same : eqIgnoreAsciiCase left right = true) :
    left.length = right.length := by
  have lengths := congrArg List.length (beq_iff_eq.mp same)
  simpa using lengths

theorem startsIgnoreAsciiCase_iff :
    startsIgnoreAsciiCase text start = true ↔
      ∃ front back, text = front ++ back ∧ eqIgnoreAsciiCase front start = true := by
  simp only [startsIgnoreAsciiCase, Bool.and_eq_true, decide_eq_true_eq]
  constructor
  · rintro ⟨_, same⟩
    exact ⟨_, _, (take_append_drop start.length text).symm, same⟩
  · rintro ⟨front, back, rfl, same⟩
    have length := eqIgnoreAsciiCase_length same
    refine ⟨by simp only [length_append]; omega, ?_⟩
    rw [← length, take_left]
    exact same

theorem startsIgnoreAsciiCase_iff_isPrefix :
    startsIgnoreAsciiCase text start = true ↔ start.map Char.toLower <+: text.map Char.toLower := by
  rw [startsIgnoreAsciiCase_iff]
  constructor
  · rintro ⟨front, back, rfl, same⟩
    rw [map_append, beq_iff_eq.mp same]
    exact prefix_append _ _
  · rintro ⟨rest, joined⟩
    obtain ⟨front, back, split, same, _⟩ := map_eq_append_iff.mp joined.symm
    exact ⟨front, back, split, beq_iff_eq.mpr same⟩

theorem starts_comparable {first second : Str}
    (startsFirst : startsIgnoreAsciiCase text first = true)
    (startsSecond : startsIgnoreAsciiCase text second = true) :
    startsIgnoreAsciiCase first second = true ∨ startsIgnoreAsciiCase second first = true := by
  simp only [startsIgnoreAsciiCase_iff_isPrefix] at *
  exact Or.symm <| prefix_or_prefix_of_prefix startsFirst startsSecond

theorem named_slice_iff :
    (asBytes start).length ≤ (asBytes text).length ∧
        isNamed ((asBytes text).take (asBytes start).length) (asBytes start) = true ↔
      startsIgnoreAsciiCase text start = true := by
  rw [startsIgnoreAsciiCase_iff]
  constructor
  · rintro ⟨_, named⟩
    -- The folded texts are encoded texts, so one is divided behind the other.
    have folded : asBytes (text.map Char.toLower) =
        asBytes (start.map Char.toLower) ++
          ((asBytes text).drop (asBytes start).length).map toLowerCase := by
      rw [asBytes_map_toLower, asBytes_map_toLower, ← isNamed_iff.mp named,
        ← map_append, take_append_drop]
    obtain ⟨back, divided, _⟩ := eq_append_of_asBytes folded
    obtain ⟨front, rest, split, same, _⟩ := map_eq_append_iff.mp divided
    exact ⟨front, rest, split, beq_iff_eq.mpr same⟩
  · rintro ⟨front, back, rfl, same⟩
    rw [← isNamed_asBytes] at same
    have length := isNamed_length same
    rw [asBytes_append, ← length, take_left]
    exact ⟨by simp only [length_append]; omega, same⟩

/-! ## Slices inside a character -/

/-- The text has that many octets, and they end inside a character. -/
def CutsCharacter (text : Str) (size : Nat) : Prop := size ≤ (asBytes text).length ∧
    ∀ front back, text = front ++ back → (asBytes front).length ≠ size

variable {size : Nat}

theorem cutsCharacter_iff :
    CutsCharacter text size ↔ size ≤ (asBytes text).length ∧
      isCharBoundary (asBytes text) size = false := by
  rw [← Bool.not_eq_true, isCharBoundary_asBytes_iff]
  simp only [CutsCharacter, not_exists, not_and, ne_eq]

theorem not_cuts_of_starts (starts : startsIgnoreAsciiCase text start = true) :
    ¬ CutsCharacter text (asBytes start).length := by
  rintro ⟨_, inside⟩
  obtain ⟨front, back, split, same⟩ := startsIgnoreAsciiCase_iff.mp starts
  rw [← isNamed_asBytes] at same
  exact inside front back split (isNamed_length same)

theorem drop_of_starts {front back : Str} (same : eqIgnoreAsciiCase front start = true) :
    (asBytes (front ++ back)).drop (asBytes start).length = asBytes back := by
  rw [← isNamed_asBytes] at same
  rw [asBytes_append, ← isNamed_length same, drop_left]

theorem isCharBoundary_of_not_cuts (between : ¬ CutsCharacter text size)
    (fits : size ≤ (asBytes text).length) :
    isCharBoundary (asBytes text) size = true := by
  by_contra inside
  exact between (cutsCharacter_iff.mpr ⟨fits, by simpa using inside⟩)

theorem CutsCharacter.lt_length (cuts : CutsCharacter text size) :
    size < (asBytes text).length := by
  obtain ⟨fits, inside⟩ := cuts
  exact lt_of_le_of_ne fits fun whole => inside text [] (append_nil _).symm whole.symm

theorem not_cuts_inside (starts : startsIgnoreAsciiCase text start = true)
    (plain : ∀ symbol ∈ start, symbol.toNat < 128)
    (inside : size ≤ start.length) : ¬ CutsCharacter text size := by
  have shorter : startsIgnoreAsciiCase text (start.take size) = true := by
    rw [startsIgnoreAsciiCase_iff_isPrefix] at starts ⊢
    have taken : start.take size <+: start := take_prefix size start
    exact (taken.map _).trans starts
  have length : (asBytes (start.take size)).length = size := by
    rw [asBytes_of_ascii fun symbol member =>
      plain symbol (mem_of_mem_take member)]
    simp [inside]
  have between := not_cuts_of_starts shorter
  rwa [length] at between

theorem startsIgnoreAsciiCase_append {path : Str} (rest : Str)
    (starts : startsIgnoreAsciiCase path start = true) :
    startsIgnoreAsciiCase (path ++ rest) start = true := by
  obtain ⟨front, back, rfl, same⟩ := startsIgnoreAsciiCase_iff.mp starts
  exact startsIgnoreAsciiCase_iff.mpr ⟨front, back ++ rest, append_assoc .., same⟩

theorem CutsCharacter.append {path : Str} (rest : Str)
    (cuts : CutsCharacter path size) : CutsCharacter (path ++ rest) size := by
  obtain ⟨fits, inside⟩ := cuts
  refine ⟨?_, ?_⟩
  · rw [asBytes_append, length_append]
    omega
  · intro front back split length
    rcases append_eq_append_iff.mp split with
      ⟨more, rfl, _⟩ | ⟨between, divided, _⟩
    · rw [asBytes_append, length_append] at length
      exact inside path [] (append_nil _).symm (by omega)
    · exact inside front between divided length

end ReverseProxy
