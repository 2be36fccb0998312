import ReverseProxy.Library.Split
import ReverseProxy.Rfc7230.Framing

/-!
# Lists in header fields

Fields of one name combine to a list of elements between commas; blanks around
an element and empty elements do not count.  Octets other than blanks and
commas are all in the elements, which is what comparing two lists rests on.
-/

namespace ReverseProxy.Rfc7230

open Library List

/-- The elements of the fields combined into one list. -/
def listElements (values : List Bytes) : List Bytes := codings values

theorem listElements_append (left right : List Bytes) :
    listElements (left ++ right) = listElements left ++ listElements right := by
  simp [listElements, codings]

theorem listElements_cons (value : Bytes) (values : List Bytes) :
    listElements (value :: values) = listElements [value] ++ listElements values :=
  listElements_append [value] values

theorem listElements_comma (front back : Bytes) :
    listElements [front ++ 44 :: back] = listElements [front] ++ listElements [back] := by
  simp [listElements, codings, splitOn_append_cons_self]

theorem listElements_piece {piece : Bytes} (noComma : (44 : UInt8) ∉ piece) :
    listElements [piece] = if trimOws piece = [] then [] else [trimOws piece] := by
  have only : piece.splitOn 44 = [piece] := splitOn_eq_singleton noComma
  by_cases blank : trimOws piece = []
  all_goals simp [listElements, codings, only, blank]

/-! ## Blanks -/

theorem trimOws_blanks_append {before : Bytes} (value : Bytes)
    (blank : ∀ octet ∈ before, isOws octet = true) :
    trimOws (before ++ value) = trimOws value := by
  rw [trimOws, dropWhile_append_of_pos blank, trimOws]

theorem trimOws_append_blanks (value : Bytes) {after : Bytes}
    (blank : ∀ octet ∈ after, isOws octet = true) :
    trimOws (value ++ after) = trimOws value := by
  rw [trimOws, trimOws, dropWhile_append]
  split
  · next nothing =>
      have all : after.dropWhile isOws = [] := dropWhile_eq_nil_iff.mpr blank
      rw [all, isEmpty_iff.mp nothing]
  · rw [rdropWhile, reverse_append,
      dropWhile_append_of_pos (by simpa using blank), rdropWhile]

theorem trimOws_of_solid {word : Bytes}
    (solid : ∀ octet ∈ word, isOws octet = false) : trimOws word = word := by
  have front : word.dropWhile isOws = word := by
    rw [dropWhile_eq_self_iff]
    intro inside
    simp [solid _ (getElem_mem inside)]
  rw [trimOws, front, rdropWhile_eq_self_iff]
  intro inside
  simp [solid _ (getLast_mem inside)]

theorem comma_not_mem_blanks {octets : Bytes} (blank : ∀ octet ∈ octets, isOws octet = true) :
    (44 : UInt8) ∉ octets := by
  intro member
  exact absurd (blank 44 member) (by decide)

theorem listElements_blanks_append {before : Bytes} (value : Bytes)
    (blank : ∀ octet ∈ before, isOws octet = true) :
    listElements [before ++ value] = listElements [value] := by
  have noComma := comma_not_mem_blanks blank
  cases split : splitOnce 44 value with
  | none =>
    have absent := splitOnce_eq_none_iff.mp split
    rw [listElements_piece absent, listElements_piece (by simp [noComma, absent]),
      trimOws_blanks_append value blank]
  | some parts =>
    obtain ⟨front, back⟩ := parts
    obtain ⟨rfl, absent⟩ := splitOnce_eq_some_iff.mp split
    rw [← append_assoc, listElements_comma, listElements_comma, listElements_piece absent,
      listElements_piece (by simp [noComma, absent]),
      trimOws_blanks_append front blank]

theorem listElements_append_blanks (value : Bytes) {after : Bytes}
    (blank : ∀ octet ∈ after, isOws octet = true) :
    listElements [value ++ after] = listElements [value] := by
  have noComma := comma_not_mem_blanks blank
  cases split : rsplitOnce 44 value with
  | none =>
    have absent := rsplitOnce_eq_none_iff.mp split
    rw [listElements_piece absent, listElements_piece (by simp [noComma, absent]),
      trimOws_append_blanks value blank]
  | some parts =>
    obtain ⟨front, back⟩ := parts
    obtain ⟨rfl, absent⟩ := rsplitOnce_eq_some_iff.mp split
    rw [append_assoc, cons_append, listElements_comma,
      listElements_comma front back, listElements_piece absent,
      listElements_piece (show (44 : UInt8) ∉ back ++ after by simp [noComma, absent]),
      trimOws_append_blanks back blank]

/-! ## Octets that count -/

/-- Neither a blank nor a comma. -/
def isSolid (octet : UInt8) : Bool := !isOws octet && octet != 44

theorem listElements_word {word : Bytes} (nonempty : word ≠ [])
    (solid : ∀ octet ∈ word, isSolid octet = true) :
    listElements [word] = [word] := by
  have noBlank : ∀ octet ∈ word, isOws octet = false := fun octet member => by
    simpa using (Bool.and_eq_true_iff.mp (solid octet member)).1
  have noComma : (44 : UInt8) ∉ word := fun member =>
    absurd (solid 44 member) (by decide)
  rw [listElements_piece noComma, trimOws_of_solid noBlank, if_neg nonempty]

theorem flatten_splitOn_comma (value : Bytes) :
    (value.splitOn 44).flatten = value.filter (· != 44) := by
  rw [splitOn_eq_splitOnP]
  induction value with
  | nil => rfl
  | cons octet value ih =>
    rw [splitOnP_cons_eq_if_modifyHead]
    by_cases comma : octet = 44
    · simp [comma, ih]
    obtain ⟨first, others, split⟩ := exists_cons_of_ne_nil
      (splitOnP_ne_nil (fun item : UInt8 => item == 44) value)
    rw [split] at ih
    simp [comma, split, ← ih]

theorem exists_blanks_trimOws (value : Bytes) :
    ∃ before after, value = before ++ trimOws value ++ after ∧
      (∀ octet ∈ before, isOws octet = true) ∧ ∀ octet ∈ after, isOws octet = true := by
  refine ⟨value.takeWhile isOws, (value.dropWhile isOws).rtakeWhile isOws,
    ?_, fun octet => mem_takeWhile_imp,
    fun octet => mem_rtakeWhile_imp⟩
  rw [trimOws, append_assoc, rdropWhile_append_rtakeWhile,
    takeWhile_append_dropWhile]

section

variable {counted : UInt8 → Bool} (solid : ∀ octet, counted octet = true → isSolid octet = true)
include solid

theorem countP_blanks {octets : Bytes} (blank : ∀ octet ∈ octets, isOws octet = true) :
    octets.countP counted = 0 := by
  rw [countP_eq_zero]
  intro octet member counts
  have isSolidOctet := solid octet counts
  simp [isSolid, blank octet member] at isSolidOctet

theorem countP_trimOws_of_solid (value : Bytes) :
    (trimOws value).countP counted = value.countP counted := by
  obtain ⟨before, after, whole, blankBefore, blankAfter⟩ := exists_blanks_trimOws value
  have counts := congrArg (countP counted) whole
  rw [countP_append, countP_append, countP_blanks solid blankBefore,
    countP_blanks solid blankAfter] at counts
  omega

theorem countP_listElements_singleton (value : Bytes) :
    (listElements [value]).flatten.countP counted = value.countP counted := by
  have parts : listElements [value] = ((value.splitOn 44).map trimOws).filter (· ≠ []) := by
    simp [listElements, codings]
  have trimmed : ((value.splitOn 44).map trimOws).map (countP counted) =
      (value.splitOn 44).map (countP counted) := by
    rw [map_map]
    exact map_congr_left fun part _ => countP_trimOws_of_solid solid part
  rw [parts, flatten_filter_ne_nil, countP_flatten, trimmed,
    ← countP_flatten, flatten_splitOn_comma, countP_filter]
  congr 1
  funext octet
  cases counts : counted octet with
  | false => rfl
  | true =>
    have isSolidOctet := solid octet counts
    simp only [isSolid, Bool.and_eq_true] at isSolidOctet
    simpa using isSolidOctet.2

/-- The elements hold all octets but blanks and commas. -/
theorem countP_listElements (values : List Bytes) :
    (listElements values).flatten.countP counted =
      values.flatten.countP counted := by
  induction values with
  | nil => rfl
  | cons value values ih =>
    rw [listElements_cons, flatten_append, countP_append, ih,
      countP_listElements_singleton solid, flatten_cons,
      countP_append]

end

theorem not_solid_of_listElements {value octet}
    (none : listElements [value] = []) (member : octet ∈ value) :
    isSolid octet = false := by
  have counts := countP_listElements_singleton
    (show ∀ octet, isSolid octet = true → isSolid octet = true from
      fun _ => id) value
  rw [none] at counts
  simpa using countP_eq_zero.mp counts.symm octet member

end ReverseProxy.Rfc7230
