import ReverseProxy.Library.Split
import ReverseProxy.Rust.Text

/-!
# `application/x-www-form-urlencoded`

Parameters of the token request, of the authorize query and of the consent
form are decoded by one routine.  Values that go back into a redirect are
percent-encoded.
-/

namespace ReverseProxy

open Library List

/-! ## Decoding -/

def hexValue (octet : UInt8) : Option UInt8 :=
  if 48 ≤ octet && octet ≤ 57 then some (octet - 48)
  else if 97 ≤ octet && octet ≤ 102 then some (octet - 97 + 10)
  else if 65 ≤ octet && octet ≤ 70 then some (octet - 65 + 10)
  else none

/-- The loop of `form_url_decode`: `+` is a space, and a `%` that does not
start a valid escape stays as written. -/
def formUrlDecodeBytes : Bytes → Bytes
  | [] => []
  | octet :: rest =>
    if octet = 43 then 32 :: formUrlDecodeBytes rest
    else if octet = 37 then
      match rest with
      | first :: second :: after =>
        match hexValue first, hexValue second with
        | some high, some low =>
          (high <<< 4 ||| low) :: formUrlDecodeBytes after
        | _, _ => 37 :: formUrlDecodeBytes (first :: second :: after)
      | short => 37 :: formUrlDecodeBytes short
    else octet :: formUrlDecodeBytes rest

def formUrlDecode (src : Str) : Str := fromUtf8Lossy (formUrlDecodeBytes (asBytes src))

/-- The decoded parameters in the order of the request. -/
abbrev Parameters := List (Str × Str)

/-- One pair: without `=` the value is empty. -/
def parsePair (pair : Str) : Str × Str :=
  match splitOnce '=' pair with
  | some (name, value) => (formUrlDecode name, formUrlDecode value)
  | none => (formUrlDecode pair, formUrlDecode [])

/-- The first of several parameters with one name wins, as `List.lookup`
takes it. -/
def parseFormUrlencoded (src : Str) : Parameters :=
  ((src.splitOn '&').filter (· ≠ [])).map parsePair

variable (parameters : Parameters)

/-- `get` of the handlers: an absent parameter reads as the empty text. -/
def Parameters.text (name : String) : Str :=
  (parameters.lookup name.toList).getD []

/-- A parameter that is present and not empty. -/
def Parameters.given (name : String) : Option Str :=
  (parameters.lookup name.toList).filter (· ≠ [])

/-! ## Encoding -/

def isUnreserved (octet : UInt8) : Bool :=
  (65 ≤ octet && octet ≤ 90) || (97 ≤ octet && octet ≤ 122) ||
    (48 ≤ octet && octet ≤ 57) || octet == 45 || octet == 95 ||
    octet == 46 || octet == 126

/-- A digit of `{:02X}`. -/
def upperHexDigit (digit : Nat) : Char :=
  if digit < 10 then Char.ofNat (48 + digit) else Char.ofNat (55 + digit)

def percentEncodeOctet (octet : UInt8) : Str :=
  if isUnreserved octet then [Char.ofNat octet.toNat]
  else ['%', upperHexDigit (octet.toNat / 16), upperHexDigit (octet.toNat % 16)]

def percentEncode (src : Str) : Str := (asBytes src).flatMap percentEncodeOctet

/-! ## Decoding what was encoded -/

/-- The form a client sends for these parameters. -/
def formUrlEncode : Str :=
  ['&'].intercalate (parameters.map fun parameter =>
    percentEncode parameter.1 ++ '=' :: percentEncode parameter.2)

private theorem hexValue_upperHexDigit : ∀ digit < 16,
    String.utf8EncodeChar (upperHexDigit digit) = [(upperHexDigit digit).toNat.toUInt8] ∧
      hexValue (upperHexDigit digit).toNat.toUInt8 = some digit.toUInt8 ∧
      upperHexDigit digit ≠ '&' ∧ upperHexDigit digit ≠ '=' := by
  decide

private theorem nibbles : ∀ number < 256,
    ((number / 16).toUInt8 <<< (4 : UInt8) ||| (number % 16).toUInt8) =
      number.toUInt8 := by
  decide +kernel

private theorem isUnreserved_bounds : ∀ number < 256,
    isUnreserved number.toUInt8 = true →
      number < 128 ∧ number.toUInt8 ≠ 43 ∧ number.toUInt8 ≠ 37 ∧
        Char.ofNat number ≠ '&' ∧ Char.ofNat number ≠ '=' := by
  decide +kernel

theorem formUrlDecodeBytes_octet (octet : UInt8) (rest : Bytes) :
    formUrlDecodeBytes (asBytes (percentEncodeOctet octet) ++ rest) =
      octet :: formUrlDecodeBytes rest := by
  have small := octet.toNat_lt
  have same : octet.toNat.toUInt8 = octet := by simp
  unfold percentEncodeOctet
  by_cases unreserved : isUnreserved octet = true
  · obtain ⟨single, notPlus, notPercent, _⟩ :=
      isUnreserved_bounds octet.toNat small (by rw [same]; exact unreserved)
    rw [same] at notPlus notPercent
    have encoded : asBytes [Char.ofNat octet.toNat] = [octet] := by
      rw [asBytes_cons, utf8EncodeChar_one (by rw [UInt8.lt_iff_toNat_lt]; exact single)]
      rfl
    rw [if_pos unreserved, encoded, singleton_append, formUrlDecodeBytes.eq_def]
    simp only [notPlus, notPercent, if_false]
  · obtain ⟨highOctet, high, _⟩ := hexValue_upperHexDigit (octet.toNat / 16) (by omega)
    obtain ⟨lowOctet, low, _⟩ := hexValue_upperHexDigit (octet.toNat % 16) (by omega)
    have encoded : asBytes ['%', upperHexDigit (octet.toNat / 16),
        upperHexDigit (octet.toNat % 16)] =
          [37, (upperHexDigit (octet.toNat / 16)).toNat.toUInt8,
            (upperHexDigit (octet.toNat % 16)).toNat.toUInt8] := by
      rw [asBytes_cons, asBytes_cons, asBytes_cons, highOctet, lowOctet]
      rfl
    rw [if_neg unreserved, encoded, cons_append, cons_append,
      singleton_append, formUrlDecodeBytes.eq_def]
    simp only [show (37 : UInt8) ≠ 43 by decide, if_false, if_true, high,
      low, nibbles octet.toNat small, same]

theorem formUrlDecode_percentEncode (text : Str) : formUrlDecode (percentEncode text) = text := by
  have octets : ∀ bytes : Bytes, formUrlDecodeBytes
      (asBytes (bytes.flatMap percentEncodeOctet)) = bytes := by
    intro bytes
    induction bytes with
    | nil => rfl
    | cons octet bytes ih =>
      rw [flatMap_cons, asBytes_append, formUrlDecodeBytes_octet, ih]
  unfold formUrlDecode percentEncode
  rw [octets, fromUtf8Lossy_asBytes]

theorem separators_not_mem_percentEncode (text : Str) :
    '&' ∉ percentEncode text ∧ '=' ∉ percentEncode text := by
  have symbols : ∀ octet : UInt8, ∀ symbol ∈ percentEncodeOctet octet,
      symbol ≠ '&' ∧ symbol ≠ '=' := by
    intro octet symbol member
    have small := octet.toNat_lt
    unfold percentEncodeOctet at member
    split at member
    · rename_i unreserved
      rw [mem_singleton] at member
      rw [member]
      exact (isUnreserved_bounds octet.toNat small (by simpa using unreserved)).2.2.2
    simp only [mem_cons, not_mem_nil, or_false] at member
    rcases member with rfl | rfl | rfl
    · decide
    all_goals exact (hexValue_upperHexDigit _ (by omega)).2.2
  constructor
  · intro member
    obtain ⟨octet, _, inside⟩ := mem_flatMap.mp member
    exact (symbols octet _ inside).1 rfl
  · intro member
    obtain ⟨octet, _, inside⟩ := mem_flatMap.mp member
    exact (symbols octet _ inside).2 rfl

theorem parseFormUrlencoded_formUrlEncode :
    parseFormUrlencoded (formUrlEncode parameters) = parameters := by
  by_cases empty : parameters = []
  · rw [empty]
    rfl
  have pairs : (formUrlEncode parameters).splitOn '&' = parameters.map fun parameter =>
        percentEncode parameter.1 ++ '=' :: percentEncode parameter.2 := by
    apply splitOn_intercalate
    · intro pair member
      obtain ⟨parameter, _, rfl⟩ := mem_map.mp member
      simp [separators_not_mem_percentEncode]
    · simpa using empty
  have nonempty : (parameters.map fun parameter =>
      percentEncode parameter.1 ++ '=' :: percentEncode parameter.2).filter
        (· ≠ []) = parameters.map fun parameter =>
          percentEncode parameter.1 ++ '=' :: percentEncode parameter.2 := by
    apply filter_eq_self.mpr
    intro pair member
    obtain ⟨parameter, _, rfl⟩ := mem_map.mp member
    simp
  have parsed : ∀ parameter : Str × Str, parsePair
      (percentEncode parameter.1 ++ '=' :: percentEncode parameter.2) =
        parameter := by
    intro parameter
    have split : splitOnce '=' (percentEncode parameter.1 ++ '=' :: percentEncode parameter.2) =
          some (percentEncode parameter.1, percentEncode parameter.2) :=
      splitOnce_eq_some_iff.mpr ⟨rfl, (separators_not_mem_percentEncode parameter.1).2⟩
    rw [parsePair, split]
    simp only [formUrlDecode_percentEncode]
  unfold parseFormUrlencoded
  rw [pairs, nonempty, map_map]
  have identity : (parsePair ∘ fun parameter : Str × Str =>
      percentEncode parameter.1 ++ '=' :: percentEncode parameter.2) = id := by
    funext parameter
    exact parsed parameter
  rw [identity, map_id]

/-! ## The map of a form -/

/-- `or_insert_with`: a name that is in the map keeps its value. -/
def insertFirst (map : Str → Option Str) (parameter : Str × Str) : Str → Option Str :=
  if map parameter.1 = none then Function.update map parameter.1 (some parameter.2) else map

/-- The map that `parse_form_urlencoded` builds. -/
def formMap (src : Str) : Str → Option Str :=
  (parseFormUrlencoded src).foldl insertFirst fun _ => none

theorem foldl_insertFirst (map : Str → Option Str) (name : Str) :
    parameters.foldl insertFirst map name = (map name).or (parameters.lookup name) := by
  induction parameters generalizing map with
  | nil => simp
  | cons parameter parameters ih =>
    rw [foldl_cons, ih, insertFirst, lookup_cons]
    by_cases same : name = parameter.1
    · subst same
      cases present : map parameter.1 with
      | none => simp
      | some value => simp [present]
    · have other : (name == parameter.1) = false := by simpa using same
      rw [other]
      split <;> simp [same]

/-- A `%` that does not begin a valid escape stays as written. -/
theorem formUrlDecodeBytes_literal {rest : Bytes}
    (invalid : ∀ first second after, rest = first :: second :: after →
      hexValue first = none ∨ hexValue second = none) :
    formUrlDecodeBytes (37 :: rest) = 37 :: formUrlDecodeBytes rest := by
  rw [formUrlDecodeBytes.eq_def]
  simp only [show (37 : UInt8) ≠ 43 by decide, if_false, if_true]
  split
  · split
    · grind
    · rfl
  · rfl

/-- A form gives back the mapping it was made of.  In every form the first of
several parameters with one name wins, and a `%` that does not begin a valid
escape stays as written. -/
theorem form_coding :
    (∀ parameters : Parameters, (parameters.map Prod.fst).Nodup →
      ∀ name value, formMap (formUrlEncode parameters) name = some value ↔
        (name, value) ∈ parameters) ∧
    (∀ src name value, formMap src name = some value ↔
      ∃ before after, parseFormUrlencoded src = before ++ (name, value) :: after ∧
        ∀ earlier ∈ before, earlier.1 ≠ name) ∧
    ∀ rest : Bytes, (∀ first second after, rest = first :: second :: after →
        hexValue first = none ∨ hexValue second = none) →
      formUrlDecodeBytes (37 :: rest) = 37 :: formUrlDecodeBytes rest := by
  have first : ∀ src name value, formMap src name = some value ↔
      ∃ before after, parseFormUrlencoded src = before ++ (name, value) :: after ∧
        ∀ earlier ∈ before, earlier.1 ≠ name := by
    intro src name value
    rw [formMap, foldl_insertFirst, Option.none_or, lookup_eq_some_iff]
    simp [ne_comm]
  refine ⟨?_, first, fun rest => formUrlDecodeBytes_literal⟩
  intro parameters distinct name value
  rw [first, parseFormUrlencoded_formUrlEncode]
  constructor
  · rintro ⟨before, after, rfl, _⟩
    simp
  · intro member
    obtain ⟨before, after, rfl⟩ := append_of_mem member
    refine ⟨before, after, rfl, ?_⟩
    intro earlier inside same
    rw [map_append, nodup_append] at distinct
    exact distinct.2.2 _ (mem_map_of_mem inside) _ mem_cons_self same

/-! ## The consent form -/

def escapeSymbol : Char → Str
  | '&' => "&amp;".toList
  | '<' => "&lt;".toList
  | '>' => "&gt;".toList
  | '"' => "&quot;".toList
  | '\'' => "&#x27;".toList
  | other => [other]

def htmlEscape (src : Str) : Str := src.flatMap escapeSymbol

/-- An attribute value with its quotes. -/
def quoted (src : Str) : Str := '"' :: htmlEscape src ++ ['"']

def hiddenField (name value : Str) : Str :=
  "<input type=\"hidden\" name=".toList ++ quoted name ++ " value=".toList ++ quoted value ++ ['>']

theorem escapeSymbol_inert (symbol : Char) :
    escapeSymbol symbol ≠ [] ∧ ∀ written ∈ escapeSymbol symbol, written ∉ "<>\"'".toList := by
  unfold escapeSymbol
  split <;> simp
  grind

/-- No escape is the start of another. -/
theorem escapeSymbol_append_inj {left right : Char} {after behind : Str}
    (same : escapeSymbol left ++ after = escapeSymbol right ++ behind) :
    left = right ∧ after = behind := by
  unfold escapeSymbol at same
  split at same <;> split at same <;> simp at same ⊢ <;> grind

theorem htmlEscape_inert {src : Str} {symbol : Char} (member : symbol ∈ htmlEscape src) :
    symbol ∉ "<>\"'".toList := by
  obtain ⟨origin, _, inside⟩ := mem_flatMap.mp member
  exact (escapeSymbol_inert origin).2 symbol inside

theorem htmlEscape_injective : Function.Injective htmlEscape := by
  intro left right same
  induction left generalizing right with
  | nil =>
    cases right with
    | nil => rfl
    | cons other right => simp_all [htmlEscape, (escapeSymbol_inert other).1]
  | cons symbol left ih =>
    cases right with
    | nil => simp_all [htmlEscape, (escapeSymbol_inert symbol).1]
    | cons other right =>
      obtain ⟨rfl, rest⟩ := escapeSymbol_append_inj same
      rw [ih rest]

theorem quoted_append_inj {left right after behind : Str}
    (same : quoted left ++ after = quoted right ++ behind) : left = right ∧ after = behind := by
  have quoteless : ∀ src, '"' ∉ htmlEscape src := fun _ member => htmlEscape_inert member (by simp)
  simp only [quoted, cons_append, append_assoc, cons.injEq, true_and, nil_append] at same
  obtain ⟨texts, rest⟩ := (append_cons_inj (quoteless left) (quoteless right)).mp same
  exact ⟨htmlEscape_injective texts, rest⟩

theorem quoted_pair_iff {before between after name value rest other text behind : Str} :
    before ++ quoted name ++ between ++ quoted value ++ after ++ rest =
        before ++ quoted other ++ between ++ quoted text ++ after ++ behind ↔
      name = other ∧ value = text ∧ rest = behind := by
  constructor
  · simp only [append_assoc, append_cancel_left_eq]
    intro same
    obtain ⟨names, values⟩ := quoted_append_inj same
    obtain ⟨texts, ends⟩ := quoted_append_inj (append_cancel_left values)
    exact ⟨names, texts, append_cancel_left ends⟩
  · rintro ⟨rfl, rfl, rfl⟩
    rfl

/-- What is echoed into the form holds no markup, and the text of a hidden field
tells its name, its value and where it ends. -/
theorem hidden_fields_inert :
    (∀ src, ∀ symbol ∈ htmlEscape src, symbol ∉ "<>\"'".toList) ∧
      ∀ name value rest other text behind,
        hiddenField name value ++ rest = hiddenField other text ++ behind ↔
          name = other ∧ value = text ∧ rest = behind :=
  ⟨fun _ _ => htmlEscape_inert, fun _ _ _ _ _ _ => quoted_pair_iff⟩

end ReverseProxy
