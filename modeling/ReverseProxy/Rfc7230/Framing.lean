import ReverseProxy.H1Utils.HeadLines

/-!
# Message framing of RFC 7230

The length of a message body as sections 3.2 and 3.3.3 define it from the
header fields of the message.  Nothing here depends on how the proxy reads a
head; `none` is a message that has to be rejected.
-/

namespace ReverseProxy.Rfc7230

/-- Optional white space around a field value. -/
def isOws (octet : UInt8) : Bool := octet == 32 || octet == 9

def trimOws (value : Bytes) : Bytes := (value.dropWhile isOws).rdropWhile isOws

/-- Everything after the colon of each field with the given name, in the order
of the lines. -/
def rawValues (header : Bytes) (lines : List Bytes) : List Bytes := lines.filterMap fun line =>
    match splitField line with
    | some (name, value) => if isNamed name header then some value else none
    | none => none

def fieldValues (header : Bytes) (lines : List Bytes) : List Bytes :=
  (rawValues header lines).map trimOws

theorem rawValues_append (header : Bytes) (left right : List Bytes) :
    rawValues header (left ++ right) = rawValues header left ++ rawValues header right := by
  simp [rawValues]

variable {lines : List Bytes}

theorem rawValues_eq_nil {header : Bytes} (absent : ∀ line ∈ lines, rawValues header [line] = []) :
    rawValues header lines = [] := by
  induction lines with
  | nil => rfl
  | cons line lines ih =>
    rw [show line :: lines = [line] ++ lines from rfl, rawValues_append,
      absent line List.mem_cons_self,
      ih fun other member => absent other (List.mem_cons_of_mem _ member)]
    rfl

theorem mem_rawValues_iff {header value : Bytes} :
    value ∈ rawValues header lines ↔
      ∃ line ∈ lines, ∃ name, splitField line = some (name, value) ∧ isNamed name header := by
  constructor
  · intro member
    obtain ⟨line, inside, selected⟩ := List.mem_filterMap.mp member
    refine ⟨line, inside, ?_⟩
    split at selected
    · next name found split =>
        split at selected
        · next named =>
            cases selected
            exact ⟨name, split, named⟩
        · contradiction
    · contradiction
  · rintro ⟨line, inside, name, split, named⟩
    exact List.mem_filterMap.mpr ⟨line, inside, by simp [split, named]⟩

/-! ## Content-Length -/

def isDigit (octet : UInt8) : Bool := 48 ≤ octet && octet ≤ 57

/-- The number a string of decimal digits spells. -/
def digitsValue (digits : Bytes) : Nat :=
  digits.foldl (fun number digit => number * 10 + (digit.toNat - 48)) 0

/-- `Content-Length = 1*DIGIT`. -/
def contentLengthNumber (value : Bytes) : Option Nat :=
  if value ≠ [] ∧ value.all isDigit then some (digitsValue value) else none

/-! ## Transfer-Encoding -/

/-- The codings of the fields combined into one list. -/
def codings (values : List Bytes) : List Bytes :=
  ((values.flatMap (·.splitOn 44)).map trimOws).filter (· ≠ [])

def finalCodingChunked (values : List Bytes) : Bool :=
  match (codings values).getLast? with
  | some coding => isNamed coding (ascii "chunked")
  | none => false

/-! ## Body length -/

inductive BodyLength where
  | length (size : Nat)
  | chunked
deriving DecidableEq, Repr

/-- All `Content-Length` fields spell one number; without such a field the
body of a request is empty. -/
def agreedLength : List Bytes → Option Nat
  | [] => some 0
  | value :: others =>
    match contentLengthNumber value with
    | none => none
    | some size =>
      if others.all (contentLengthNumber · == some size) then some size
      else none

/-- Rules 3 to 6 of section 3.3.3 for a request. -/
def requestBody (lines : List Bytes) : Option BodyLength :=
  let encodings := fieldValues transferEncodingHeader lines
  if encodings ≠ [] then
    if finalCodingChunked encodings then some .chunked else none
  else
    (agreedLength (fieldValues contentLenHeader lines)).map .length

theorem agreedLength_eq_some_iff {values : List Bytes} {size : Nat} :
    agreedLength values = some size ↔
      (∀ value ∈ values, contentLengthNumber value = some size) ∧ (values = [] → size = 0) := by
  cases values with
  | nil => simp [agreedLength, eq_comm]
  | cons value others =>
    cases number : contentLengthNumber value with
    | none => simp [agreedLength, number]
    | some first =>
      constructor
      · intro agreed
        simp only [agreedLength, number] at agreed
        split at agreed
        · next same =>
            cases agreed
            simpa [number] using same
        · contradiction
      · rintro ⟨same, _⟩
        have equal : first = size := by
          simpa [number] using same value (by simp)
        subst equal
        have others : others.all (contentLengthNumber · == some first) = true := by
          simp only [List.all_eq_true, beq_iff_eq]
          intro other member
          exact same other (by simp [member])
        simp [agreedLength, number, others]

theorem requestBody_eq_length_iff {size : Nat} :
    requestBody lines = some (.length size) ↔
      fieldValues transferEncodingHeader lines = [] ∧
        agreedLength (fieldValues contentLenHeader lines) = some size := by
  unfold requestBody
  by_cases encodings : fieldValues transferEncodingHeader lines = []
  · simp [encodings]
  by_cases chunked :
      finalCodingChunked (fieldValues transferEncodingHeader lines)
  · simp [encodings, chunked]
  · simp [encodings, chunked]

theorem requestBody_eq_chunked_iff :
    requestBody lines = some .chunked ↔
      finalCodingChunked (fieldValues transferEncodingHeader lines) := by
  unfold requestBody
  by_cases encodings : fieldValues transferEncodingHeader lines = []
  · simp [encodings, finalCodingChunked, codings]
  by_cases chunked :
      finalCodingChunked (fieldValues transferEncodingHeader lines)
  · simp [encodings, chunked]
  · simp [encodings, chunked]

end ReverseProxy.Rfc7230
