import ReverseProxy.Rfc7230.Framing

/-!
# Message bodies of RFC 7230

The chunked coding of section 4.1 and the bodies that belong to a framing.
-/

namespace ReverseProxy.Rfc7230

def hexDigit (octet : UInt8) : Option Nat :=
  if 48 ≤ octet ∧ octet ≤ 57 then some (octet.toNat - 48)
  else if 97 ≤ octet ∧ octet ≤ 102 then some (octet.toNat - 97 + 10)
  else if 65 ≤ octet ∧ octet ≤ 70 then some (octet.toNat - 65 + 10)
  else none

/-- The number a string of hexadecimal digits spells. -/
def hexNumber : Bytes → Option Nat
  | [] => some 0
  | octet :: rest =>
    match hexDigit octet, hexNumber rest with
    | some digit, some number => some (digit * 16 ^ rest.length + number)
    | _, _ => none

/-- `chunk-size = 1*HEXDIG`. -/
def ChunkSize (size : Bytes) (number : Nat) : Prop := size ≠ [] ∧ hexNumber size = some number

/-- An extension starts with a semicolon and stays on the line of the size. -/
def ChunkExtension (extension : Bytes) : Prop :=
  extension = [] ∨ (extension.head? = some 59 ∧ CrLfFree extension)

/-- `chunked-body = *chunk last-chunk trailer-part CRLF`. -/
inductive ChunkedBody : Bytes → Prop where
  | last {size extension : Bytes} {trailers : List Bytes}
      (sizeZero : ChunkSize size 0) (extended : ChunkExtension extension)
      (fields : ∀ line ∈ trailers, CrLfFree line ∧ line ≠ []) :
      ChunkedBody (size ++ extension ++ httpCrLf ++ joinLines trailers ++ httpCrLf)
  | chunk {size extension data more : Bytes}
      (sizeData : ChunkSize size data.length) (nonempty : data ≠ [])
      (extended : ChunkExtension extension) (rest : ChunkedBody more) :
      ChunkedBody (size ++ extension ++ httpCrLf ++ data ++ httpCrLf ++ more)

theorem ChunkedBody.ne_nil {body : Bytes} (chunked : ChunkedBody body) : body ≠ [] := by
  cases chunked with
  | last sizeZero extended fields => simp [httpCrLf]
  | chunk sizeData nonempty extended rest => simp [httpCrLf]

theorem ChunkedBody.ends_crLf {body : Bytes} (chunked : ChunkedBody body) : httpCrLf <:+ body := by
  induction chunked with
  | last sizeZero extended fields => exact List.suffix_append _ _
  | chunk sizeData nonempty extended rest ih =>
    exact ih.trans (List.suffix_append _ _)

/-- The bodies a framing admits. -/
def MessageBody : BodyLength → Bytes → Prop
  | .length size, body => body.length = size
  | .chunked, body => ChunkedBody body

/-- A request message: a head and a body of the framing of that head. -/
def RequestMessage (head : MessageHead) (body : Bytes) : Prop :=
  ∃ framing, requestBody head.lines = some framing ∧ MessageBody framing body

theorem hexNumber_append (left right : Bytes) :
    hexNumber (left ++ right) =
      match hexNumber left, hexNumber right with
      | some high, some low => some (high * 16 ^ right.length + low)
      | _, _ => none := by
  induction left with
  | nil =>
    cases number : hexNumber right with
    | none => simp [hexNumber, number]
    | some low => simp [hexNumber, number]
  | cons octet rest ih =>
    rw [List.cons_append, hexNumber, ih, hexNumber]
    cases hexDigit octet with
    | none => rfl
    | some digit =>
      cases hexNumber rest with
      | none => rfl
      | some high =>
        cases hexNumber right with
        | none => rfl
        | some low =>
          simp only [List.length_append, Option.some.injEq]
          ring

end ReverseProxy.Rfc7230
