import ReverseProxy.Rust.Outcome
import ReverseProxy.Rust.Text

/-!
# One header line

`HttpHeader::new` looks for the colon from the start of the line to the end of
the whole payload, not to the end of the line, and a value starts two octets
after the colon whatever the octet after the colon is.
-/

namespace ReverseProxy

structure HeaderPosition where
  start : Nat
  stop : Nat
deriving DecidableEq, Repr

structure HttpHeader where
  payload : Bytes
  headerStart : Nat
  headerSeparatorIndex : Nat
  headerEnd : Nat

/-- The loop of `compare_case_insensitive` runs over `right` and unwraps the
next octet of `left`. -/
def compareCaseInsensitive : Bytes → Bytes → Outcome Bool
  | _, [] => .ret true
  | [], _ :: _ => .panic
  | p :: left, v :: right =>
    if v == p then compareCaseInsensitive left right
    else if toLowerCase v != toLowerCase p then .ret false
    else compareCaseInsensitive left right

theorem compareCaseInsensitive_of_length {left right : Bytes}
    (lengths : left.length = right.length) :
    compareCaseInsensitive left right = .ret (left.map toLowerCase == right.map toLowerCase) := by
  induction right generalizing left with
  | nil =>
    have empty : left = [] := by simpa using lengths
    simp [compareCaseInsensitive, empty]
  | cons v right ih =>
    match left with
    | [] => simp at lengths
    | p :: left =>
      have tail := ih (by simpa using lengths : left.length = right.length)
      by_cases same : v = p
      · subst same
        simp [compareCaseInsensitive, tail]
      by_cases folded : toLowerCase v = toLowerCase p
      · simp [compareCaseInsensitive, same, folded, tail]
      · have reverse : toLowerCase p ≠ toLowerCase v := Ne.symm folded
        simp [compareCaseInsensitive, same, folded, reverse]

namespace HttpHeader

section

variable [SliceOfU8Ext]

def new (payload : Bytes) (headerStartPos headerEnd : Nat) :
    Option HttpHeader :=
  (findBytePos payload 58 headerStartPos).map fun headerSeparatorIndex =>
    { payload
      headerStart := headerStartPos
      headerSeparatorIndex
      headerEnd }

end

def isMyHeaderName (header : HttpHeader) (value : Bytes) : Outcome Bool :=
  if header.headerSeparatorIndex - header.headerStart ≠ value.length then
    .ret false
  else do
    let headerName ← slice header.payload header.headerStart header.headerSeparatorIndex
    compareCaseInsensitive headerName value

def getValueAsStr (header : HttpHeader) : Outcome (Option Str) := do
  let value ← slice header.payload (header.headerSeparatorIndex + 2) header.headerEnd
  return (fromUtf8 value).map trim

def getValue (header : HttpHeader) : HeaderPosition :=
  { start := header.headerSeparatorIndex + 2
    stop := header.headerEnd }

def getUsizeValue (header : HttpHeader) : Outcome (Option Nat) := do
  let value ← header.getValueAsStr
  return value.bind parseUsize

end HttpHeader

end ReverseProxy
