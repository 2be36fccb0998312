import Mathlib.Data.List.DropRight
import Mathlib.Tactic.Ring
import ReverseProxy.Library.Search
import ReverseProxy.Rust.Utf8

/-!
# Byte strings and text

The standard library functions the proxy calls, and the extension traits
`SliceOfU8Ext` and `StrUtils` of the `rust_extensions` crate: their code is not
part of the repository, so they enter as classes with what is documented.
-/

namespace ReverseProxy

open Library

/-- A byte-string literal `b"..."`. -/
def ascii (text : String) : Bytes := text.toList.map fun symbol => symbol.toNat.toUInt8

def httpCrLf : Bytes := [13, 10]

/-- `usize` on the 64-bit targets the proxy is built for. -/
def usizeSize : Nat := 2 ^ 64

/-! ## White space and decimal numbers -/

/-- `char::is_whitespace`: the Unicode `White_Space` property. -/
def isWhitespace (symbol : Char) : Bool :=
  let code := symbol.toNat
  (9 ≤ code && code ≤ 13) || code == 0x20 || code == 0x85 || code == 0xA0 ||
    code == 0x1680 || (0x2000 ≤ code && code ≤ 0x200A) || code == 0x2028 ||
    code == 0x2029 || code == 0x202F || code == 0x205F || code == 0x3000

/-- `str::trim`. -/
def trim (text : Str) : Str := (text.dropWhile isWhitespace).rdropWhile isWhitespace

theorem trim_eq_self {text : Str}
    (first : ∀ symbol, text.head? = some symbol → isWhitespace symbol = false)
    (last : ∀ symbol, text.getLast? = some symbol →
      isWhitespace symbol = false) : trim text = text := by
  have front : text.dropWhile isWhitespace = text := by
    cases text with
    | nil => rfl
    | cons symbol rest => simp [first symbol rfl]
  rw [trim, front]
  apply (List.rdropWhile_eq_self_iff ..).mpr
  intro nonempty
  rw [last _ (List.getLast?_eq_some_getLast nonempty)]
  simp

theorem exists_white_trim (text : Str) :
    ∃ front back, text = front ++ trim text ++ back ∧
      (∀ symbol ∈ front, isWhitespace symbol = true) ∧
        ∀ symbol ∈ back, isWhitespace symbol = true := by
  refine ⟨text.takeWhile isWhitespace, (text.dropWhile isWhitespace).rtakeWhile isWhitespace, ?_,
    fun symbol => List.mem_takeWhile_imp,
    fun symbol => List.mem_rtakeWhile_imp⟩
  rw [trim, List.append_assoc, List.rdropWhile_append_rtakeWhile, List.takeWhile_append_dropWhile]

theorem trim_ne_nil {text : Str} {symbol : Char} (last : text.getLast? = some symbol)
    (solid : isWhitespace symbol = false) : trim text ≠ [] := by
  intro empty
  obtain ⟨front, back, split, frontWhite, backWhite⟩ := exists_white_trim text
  have member : symbol ∈ text := List.mem_of_getLast? last
  rw [split, empty, List.append_nil] at member
  rcases List.mem_append.mp member with inFront | inBack
  · rw [frontWhite symbol inFront] at solid
    cases solid
  · rw [backWhite symbol inBack] at solid
    cases solid

/-- `str::split_whitespace`. -/
def splitWhitespace (text : Str) : List Str := (text.splitOnP isWhitespace).filter (· ≠ [])

def isAsciiDigit (symbol : Char) : Bool := '0' ≤ symbol && symbol ≤ '9'

/-- The number a string of decimal digits spells. -/
def decimal (digits : Str) : Nat :=
  digits.foldl (fun number digit => number * 10 + (digit.toNat - 48)) 0

/-- `str::parse::<usize>`: an optional plus sign, then at least one digit, and
no overflow. -/
def parseUsize (text : Str) : Option Nat :=
  let digits := match text with
    | '+' :: rest => rest
    | other => other
  if digits ≠ [] ∧ digits.all isAsciiDigit ∧ decimal digits < usizeSize then
    some (decimal digits)
  else
    none

/-! ## ASCII case -/

/-- `str::eq_ignore_ascii_case`. -/
def eqIgnoreAsciiCase (left right : Str) : Bool := left.map Char.toLower == right.map Char.toLower

/-- `to_lower_case` of `http_header.rs`. -/
def toLowerCase (octet : UInt8) : UInt8 :=
  if 65 ≤ octet ∧ octet ≤ 90 then octet - 65 + 97 else octet

/-! ## Extension traits of `rust_extensions` -/

class SliceOfU8Ext where
  findSequencePos : Bytes → Bytes → Nat → Option Nat
  findBytePos : Bytes → UInt8 → Nat → Option Nat
  findSequencePos_eq_some_iff : ∀ {src needle : Bytes} {start pos : Nat},
    start ≤ src.length → needle ≠ [] →
      (findSequencePos src needle start = some pos ↔ FirstAt needle src start pos)
  findBytePos_eq_some_iff : ∀ {src : Bytes} {octet : UInt8} {start pos : Nat}, start ≤ src.length →
      (findBytePos src octet start = some pos ↔ FirstAt [octet] src start pos)

class StrUtils where
  eqCaseInsensitive : Str → Str → Bool
  eqCaseInsensitive_ascii : ∀ {left right : Str}, (∀ symbol ∈ left, symbol.toNat < 128) →
    (∀ symbol ∈ right, symbol.toNat < 128) →
      eqCaseInsensitive left right = eqIgnoreAsciiCase left right
  startsWithCaseInsensitive : Str → Str → Bool
  startsWithCaseInsensitive_ascii : ∀ {text start : Str}, (∀ symbol ∈ text, symbol.toNat < 128) →
    (∀ symbol ∈ start, symbol.toNat < 128) →
      startsWithCaseInsensitive text start =
        (decide (start.length ≤ text.length) && eqIgnoreAsciiCase (text.take start.length) start)

export SliceOfU8Ext (findSequencePos findBytePos)
export StrUtils (eqCaseInsensitive startsWithCaseInsensitive)

/-- The linear search as a concrete instance, used where a statement is
evaluated on a fixed input. -/
@[reducible] def linearSearch : SliceOfU8Ext :=
  { findSequencePos := fun src needle start => indexFrom needle src start
    findBytePos := fun src octet start => indexFrom [octet] src start
    findSequencePos_eq_some_iff := fun inside nonempty =>
      indexFrom_eq_some_iff inside nonempty
    findBytePos_eq_some_iff := fun inside =>
      indexFrom_eq_some_iff inside (by simp) }

@[reducible] def asciiCase : StrUtils :=
  { eqCaseInsensitive := eqIgnoreAsciiCase
    eqCaseInsensitive_ascii := fun _ _ => rfl
    startsWithCaseInsensitive := fun text start =>
      decide (start.length ≤ text.length) && eqIgnoreAsciiCase (text.take start.length) start
    startsWithCaseInsensitive_ascii := fun _ _ => rfl }

end ReverseProxy
