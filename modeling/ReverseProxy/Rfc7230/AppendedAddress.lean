import ReverseProxy.H1ProxyServer.ForwardedHead
import ReverseProxy.Rfc7230.ListElements

/-!
# An address behind the elements of a field

A value is read as text, trimmed and followed by a comma and an address.
Counting octets decides when the combined list of such values is the list of
the values themselves with the address as its last element.
-/

namespace ReverseProxy

open Library Rfc7230 List

/-! ## Elements of a trimmed value -/

/-- What is left of a value as text. -/
def trimmedText (value : Bytes) : Bytes := asBytes (trim ((fromUtf8 value).getD []))

/-- The value is text with only blanks around it. -/
def BlanksAround (value : Bytes) : Prop := ∃ text before after, fromUtf8 value = some text ∧
    value = before ++ asBytes (trim text) ++ after ∧ (∀ octet ∈ before, isOws octet = true) ∧
        ∀ octet ∈ after, isOws octet = true

variable {value : Bytes}

theorem BlanksAround.listElements (around : BlanksAround value) :
    listElements [trimmedText value] = listElements [value] := by
  obtain ⟨text, before, after, decoded, whole, blankBefore, blankAfter⟩ := around
  have trimmed : trimmedText value = asBytes (trim text) := by
    rw [trimmedText, decoded]
    rfl
  rw [trimmed, whole, listElements_append_blanks _ blankAfter,
    listElements_blanks_append _ blankBefore]

theorem countP_trimmedText_le (counted : UInt8 → Bool) (value : Bytes) :
    (trimmedText value).countP counted ≤ value.countP counted := by
  unfold trimmedText
  cases decoded : fromUtf8 value with
  | none => exact Nat.zero_le _
  | some text =>
    exact (asBytes_infix_of_fromUtf8 decoded (trim_isInfix text)).sublist.countP_le

theorem countP_trimmedText {counted : UInt8 → Bool} {text : Str}
    (decoded : fromUtf8 value = some text)
    (white : ∀ symbol, isWhitespace symbol = true →
      ∀ octet ∈ String.utf8EncodeChar symbol, counted octet = false) :
    (trimmedText value).countP counted = value.countP counted := by
  obtain ⟨front, back, whole, whiteFront, whiteBack⟩ := exists_white_trim text
  have none : ∀ {symbols : Str}, (∀ symbol ∈ symbols, isWhitespace symbol = true) →
        (asBytes symbols).countP counted = 0 := by
    intro symbols allWhite
    rw [countP_eq_zero]
    intro octet member counts
    obtain ⟨symbol, inside, encoded⟩ := mem_flatMap.mp member
    rw [white symbol (allWhite symbol inside) octet encoded] at counts
    cases counts
  have bytes : asBytes front ++ trimmedText value ++ asBytes back = value := by
    rw [trimmedText, decoded, Option.getD_some, ← asBytes_append,
      ← asBytes_append, ← whole, asBytes_of_fromUtf8 decoded]
  have counts := congrArg (countP counted) bytes
  rw [countP_append, countP_append, none whiteFront, none whiteBack] at counts
  omega

theorem fromUtf8_of_plain (plain : ∀ octet ∈ value, octet < 0x80) :
    ∃ text, fromUtf8 value = some text := by
  refine ⟨value.map fun octet => Char.ofNat octet.toNat, ?_⟩
  have decoded := fromUtf8_asBytes (value.map fun octet => Char.ofNat octet.toNat)
  rwa [asBytes_map_ofNat plain] at decoded

theorem blanksAround_of_countP {text : Str} (decoded : fromUtf8 value = some text)
    (counts : (trimmedText value).countP isSolid = value.countP isSolid) :
    BlanksAround value := by
  obtain ⟨front, back, whole, whiteFront, whiteBack⟩ := exists_white_trim text
  have trimmed : trimmedText value = asBytes (trim text) := by
    rw [trimmedText, decoded]
    rfl
  have bytes : value = asBytes front ++ asBytes (trim text) ++ asBytes back := by
    rw [← asBytes_append, ← asBytes_append, ← whole, asBytes_of_fromUtf8 decoded]
  have total := congrArg (countP isSolid) bytes
  rw [countP_append, countP_append, ← trimmed, ← counts] at total
  have blank : ∀ {symbols : Str}, (∀ symbol ∈ symbols, isWhitespace symbol = true) →
        (asBytes symbols).countP isSolid = 0 → ∀ octet ∈ asBytes symbols, isOws octet = true := by
    intro symbols allWhite zero octet member
    have notSolid := countP_eq_zero.mp zero octet member
    obtain ⟨symbol, inside, encoded⟩ := mem_flatMap.mp member
    by_cases comma : octet = 44
    · subst comma
      have isComma := utf8EncodeChar_of_ascii_mem encoded (by decide)
      have white := allWhite symbol inside
      rw [isComma] at white
      exact absurd white (by decide)
    · simpa [isSolid, comma] using notSolid
  exact ⟨text, asBytes front, asBytes back, decoded, bytes,
    blank whiteFront (by omega), blank whiteBack (by omega)⟩

/-! ## Putting an address behind every value -/

/-- The octets of addresses. -/
def isAddressOctet (octet : UInt8) : Bool := (ascii "0123456789abcdef.:").contains octet

theorem isAddressOctet_cases {octet : UInt8} (ofAddress : isAddressOctet octet = true) :
    isSolid octet = true ∧ octet < 0x80 ∧ isWhitespace (Char.ofNat octet.toNat) = false := by
  have each : ∀ octet ∈ ascii "0123456789abcdef.:", isSolid octet = true ∧
      octet < 0x80 ∧ isWhitespace (Char.ofNat octet.toNat) = false :=
    all_iff_forall_prop.mp (by decide)
  exact each octet (contains_iff_mem.mp ofAddress)

/-- What is sent for a value, without the blank in front. -/
def withAddress (address value : Bytes) : Bytes := trimmedText value ++ 44 :: address

section

variable {address : Bytes} (ofAddress : ∀ octet ∈ address, isAddressOctet octet = true)
  {values : List Bytes}

include ofAddress in
theorem listElements_withAddress (nonempty : address ≠ []) (value : Bytes) :
    listElements [withAddress address value] = listElements [trimmedText value] ++ [address] := by
  rw [withAddress, listElements_comma, listElements_word nonempty
    fun octet member => (isAddressOctet_cases (ofAddress octet member)).1]

variable {counted : UInt8 → Bool}

theorem countP_withAddress (comma : counted 44 = false) (values : List Bytes) :
    (values.map (withAddress address)).flatten.countP counted =
      (values.map trimmedText).flatten.countP counted + values.length * address.countP counted := by
  induction values with
  | nil => simp
  | cons value values ih =>
    simp only [map_cons, flatten_cons, countP_append,
      withAddress, countP_cons, comma, length_cons,
      Nat.succ_mul] at ih ⊢
    simp only [Bool.false_eq_true, if_false]
    omega

theorem countP_flatten_trimmed_le (counted : UInt8 → Bool) (values : List Bytes) :
    (values.map trimmedText).flatten.countP counted ≤
      values.flatten.countP counted := by
  induction values with
  | nil => exact le_refl _
  | cons value values ih =>
    simp only [map_cons, flatten_cons, countP_append]
    exact Nat.add_le_add (countP_trimmedText_le counted value) ih

theorem countP_trimmed_each (total : (values.map trimmedText).flatten.countP counted =
      values.flatten.countP counted) :
    ∀ value ∈ values, (trimmedText value).countP counted = value.countP counted := by
  induction values with
  | nil => simp
  | cons first values ih =>
    simp only [map_cons, flatten_cons, countP_append] at total
    have ofFirst := countP_trimmedText_le counted first
    have ofOthers := countP_flatten_trimmed_le counted values
    intro value member
    rcases mem_cons.mp member with rfl | later
    · omega
    · exact ih (by omega) value later

theorem countP_trimmed_total (each : ∀ value ∈ values,
      (trimmedText value).countP counted = value.countP counted) :
    (values.map trimmedText).flatten.countP counted =
      values.flatten.countP counted := by
  induction values with
  | nil => rfl
  | cons first values ih =>
    simp only [map_cons, flatten_cons, countP_append]
    rw [each first mem_cons_self,
      ih fun value member => each value (mem_cons_of_mem _ member)]

theorem countP_of_appended (solid : ∀ octet, counted octet = true → isSolid octet = true)
    (appended : listElements (values.map (withAddress address)) =
      listElements values ++ [address]) :
    (values.map trimmedText).flatten.countP counted + values.length * address.countP counted =
      values.flatten.countP counted + address.countP counted := by
  have comma : counted 44 = false := by
    cases counts : counted 44 with
    | false => rfl
    | true => exact absurd (solid 44 counts) (by decide)
  have total := congrArg (fun elements => elements.flatten.countP counted) appended
  simp only [flatten_append, countP_append] at total
  rw [countP_listElements solid, countP_listElements solid,
    countP_withAddress comma, flatten_singleton] at total
  exact total

include ofAddress in
theorem decoded_of_appended (appended : listElements (values.map (withAddress address)) =
      listElements values ++ [address]) :
    ∀ value ∈ values, ∃ text, fromUtf8 value = some text := by
  have solid : ∀ octet : UInt8, decide (0x80 ≤ octet) = true → isSolid octet = true := by
    intro octet above
    have high : 128 ≤ octet.toNat := by
      simpa [UInt8.le_iff_toNat_le] using above
    have different : ∀ {other : UInt8}, other.toNat < 128 → octet ≠ other := by
      rintro other low rfl
      omega
    simp [isSolid, isOws, different (show (32 : UInt8).toNat < 128 by decide),
      different (show (9 : UInt8).toNat < 128 by decide),
      different (show (44 : UInt8).toNat < 128 by decide)]
  have none : address.countP (fun octet => decide (0x80 ≤ octet)) = 0 := by
    rw [countP_eq_zero]
    intro octet member above
    have below := (isAddressOctet_cases (ofAddress octet member)).2.1
    exact UInt8.not_lt.mpr (by simpa using above) below
  have total := countP_of_appended solid appended
  rw [none, Nat.mul_zero] at total
  have each := countP_trimmed_each total
  intro value member
  cases decoded : fromUtf8 value with
  | some text => exact ⟨text, rfl⟩
  | none =>
    have lost : trimmedText value = [] := by
      rw [trimmedText, decoded]
      rfl
    have plain := each value member
    rw [lost, countP_nil, eq_comm, countP_eq_zero] at plain
    obtain ⟨text, read⟩ := fromUtf8_of_plain fun octet inside => by simpa using plain octet inside
    rw [read] at decoded
    cases decoded

include ofAddress in
/-- The address is put behind the whole list exactly if there is one value,
and no element of it is lost with its white space. -/
theorem appended_iff (nonempty : address ≠ []) (present : values ≠ []) :
    listElements (values.map (withAddress address)) = listElements values ++ [address] ↔
      ∃ value, values = [value] ∧ BlanksAround value := by
  constructor
  · intro appended
    have decoded := decoded_of_appended ofAddress appended
    have white : ∀ symbol, isWhitespace symbol = true →
        ∀ octet ∈ String.utf8EncodeChar symbol, isAddressOctet octet = false := by
      intro symbol isWhite octet encoded
      cases counts : isAddressOctet octet with
      | false => rfl
      | true =>
        obtain ⟨_, low, notWhite⟩ := isAddressOctet_cases counts
        rw [utf8EncodeChar_of_ascii_mem encoded low, notWhite] at isWhite
        cases isWhite
    -- Every value costs one more address.
    have single : values.length = 1 := by
      have solid : ∀ octet, isAddressOctet octet = true →
          isSolid octet = true := fun octet counts =>
        (isAddressOctet_cases counts).1
      have total := countP_of_appended solid appended
      have each : ∀ value ∈ values,
          (trimmedText value).countP isAddressOctet =
            value.countP isAddressOctet := by
        intro value member
        obtain ⟨text, ofValue⟩ := decoded value member
        exact countP_trimmedText ofValue white
      have whole : address.countP isAddressOctet = address.length :=
        countP_eq_length.mpr ofAddress
      have long : 0 < address.length := length_pos_of_ne_nil nonempty
      rw [countP_trimmed_total each, whole] at total
      exact Nat.eq_of_mul_eq_mul_right long (by omega)
    obtain ⟨value, rfl⟩ := length_eq_one_iff.mp single
    obtain ⟨text, ofValue⟩ := decoded value mem_cons_self
    refine ⟨value, rfl, blanksAround_of_countP ofValue ?_⟩
    have total := countP_of_appended (fun octet => id) appended
    simpa using total
  · rintro ⟨value, rfl, around⟩
    rw [map_singleton, listElements_withAddress ofAddress nonempty, around.listElements]

end

end ReverseProxy
