import ReverseProxy.H1Utils.Http1ResponseBuilder
import ReverseProxy.Rfc7230.Fields

/-!
# Reading a rendered response

The builder copies header values as they are.  What it renders is one response
with the given fields and body if every value is a plain field value.
-/

namespace ReverseProxy

open Rfc7230 List

/-- The fields of a response as they go over the wire. -/
def wireFields (headers : List (Str × Str)) (body : Bytes) : List (Bytes × Bytes) :=
  headers.map (fun header => (asBytes header.1, asBytes header.2)) ++
    [(ascii "content-length", ascii (toString body.length))]

/-- A header that is read back as it is and does not frame the body. -/
def isPlainHeader (header : Str × Str) : Bool :=
  isPlainField (asBytes header.1) (asBytes header.2) &&
    !isNamed (asBytes header.1) contentLenHeader &&
    !isNamed (asBytes header.1) transferEncodingHeader

/-- A status line that is read back, of a response that has a body. -/
def isPlainStatus (status : Nat) : Bool :=
  statusCode (ascii (responseFirstLine status)) = some status &&
    !(ascii (responseFirstLine status)).contains 13 &&
    200 ≤ status && !bodyForbidden (ascii "GET") status

def fieldLine (field : Bytes × Bytes) : Bytes := field.1 ++ ascii ": " ++ field.2

theorem ascii_append (left right : String) : ascii (left ++ right) = ascii left ++ ascii right := by
  simp [ascii]

theorem buildWithBody_eq (status : Nat) (headers : List (Str × Str)) (body : Bytes) :
    buildWithBody status headers body =
      ascii (responseFirstLine status) ++ httpCrLf ++
        joinLines ((wireFields headers body).map fieldLine) ++ httpCrLf ++
        body := by
  have lines : (headers.flatMap fun header =>
      asBytes header.1 ++ ascii ": " ++ asBytes header.2 ++ httpCrLf) =
        joinLines ((headers.map fun header =>
          (asBytes header.1, asBytes header.2)).map fieldLine) := by
    simp [joinLines, fieldLine, flatMap_map]
  have length : ascii ("content-length: " ++ toString body.length) =
      fieldLine (ascii "content-length", ascii (toString body.length)) := by
    unfold fieldLine
    rw [ascii_append]
    rfl
  unfold buildWithBody wireFields
  rw [lines, length, map_append, joinLines_append]
  simp

variable {headers : List (Str × Str)}

theorem wireFields_plain (body : Bytes) (plain : ∀ header ∈ headers, isPlainHeader header = true) :
    ∀ field ∈ wireFields headers body, isPlainField field.1 field.2 = true := by
  intro field member
  rcases mem_append.mp member with given | length
  · obtain ⟨header, inside, rfl⟩ := mem_map.mp given
    have whole := plain header inside
    simp only [isPlainHeader, Bool.and_eq_true] at whole
    exact whole.1.1
  · rw [mem_singleton] at length
    rw [length]
    exact plain_contentLength _

theorem parseField_fieldLine {fields : List (Bytes × Bytes)}
    (plain : ∀ field ∈ fields, isPlainField field.1 field.2 = true) :
    (fields.map fieldLine).map parseField = fields.map some := by
  rw [map_map]
  apply map_congr_left
  intro field member
  exact parseField_plain (plain field member)

theorem fieldValues_fieldLine (header : Bytes) {fields : List (Bytes × Bytes)}
    (plain : ∀ field ∈ fields, isPlainField field.1 field.2 = true) :
    fieldValues header (fields.map fieldLine) =
      (fields.filter fun field => isNamed field.1 header).map (·.2) := by
  induction fields with
  | nil => rfl
  | cons field fields ih =>
    have plainField := plain field (by simp)
    have others := ih fun other member => plain other (by simp [member])
    unfold fieldValues rawValues at others ⊢
    rw [map_cons, filterMap_cons, filter_cons, fieldLine,
      splitField_plain plainField]
    by_cases named : isNamed field.1 header = true
    · simp only [named, if_true, map_cons, others, trimOws_plain plainField]
    · simp only [named, Bool.false_eq_true, if_false, others]

theorem wireFields_named (header : Bytes) (body : Bytes)
    (others : ∀ given ∈ headers, isNamed (asBytes given.1) header = false) :
    (wireFields headers body).filter (fun field => isNamed field.1 header) =
      if isNamed (ascii "content-length") header then
        [(ascii "content-length", ascii (toString body.length))]
      else [] := by
  have none : (headers.map fun given =>
      (asBytes given.1, asBytes given.2)).filter (fun field => isNamed field.1 header) = [] := by
    apply filter_eq_nil_iff.mpr
    intro field member
    obtain ⟨given, inside, rfl⟩ := mem_map.mp member
    simp [others given inside]
  unfold wireFields
  rw [filter_append, none, nil_append, filter_cons]
  simp

theorem buildWithBody_isResponse {status : Nat} (body : Bytes)
    (plainStatus : isPlainStatus status = true)
    (plain : ∀ header ∈ headers, isPlainHeader header = true) :
    IsResponse (buildWithBody status headers body) status (wireFields headers body) body := by
  have plainFields := wireFields_plain body plain
  simp only [isPlainStatus, Bool.and_eq_true, Bool.not_eq_true', decide_eq_true_eq] at plainStatus
  obtain ⟨⟨⟨code, noReturn⟩, final⟩, hasBody⟩ := plainStatus
  let head := MessageHead.ofPlain (ascii (responseFirstLine status))
    ((wireFields headers body).map fieldLine) (by
      refine ⟨by simpa using noReturn, ?_⟩
      intro line member
      obtain ⟨field, inside, rfl⟩ := mem_map.mp member
      exact plain_line (plainFields field inside))
  have lengths : fieldValues contentLenHeader head.lines = [ascii (toString body.length)] := by
    change fieldValues contentLenHeader (List.map _ _) = _
    rw [fieldValues_fieldLine _ plainFields, wireFields_named]
    · rfl
    · intro header member
      have whole := plain header member
      simp only [isPlainHeader, Bool.and_eq_true, Bool.not_eq_true'] at whole
      exact whole.1.2
  have encodings : fieldValues transferEncodingHeader head.lines = [] := by
    change fieldValues transferEncodingHeader (List.map _ _) = _
    rw [fieldValues_fieldLine _ plainFields, wireFields_named]
    · rfl
    · intro header member
      have whole := plain header member
      simp only [isPlainHeader, Bool.and_eq_true, Bool.not_eq_true'] at whole
      exact whole.2
  refine ⟨head, ?_, code, parseField_fieldLine plainFields, status,
    .body (.length body.length), code, final, ?_, rfl⟩
  · rw [buildWithBody_eq]
    rfl
  · rw [encodings, lengths]
    simp only [responseBody, hasBody, Bool.false_eq_true, if_false, ne_eq,
      not_true_eq_false, cons_ne_nil, agreedLength,
      contentLengthNumber_toString, all_nil, if_true, Option.map_some]

theorem plain_of_isResponse {bytes body : Bytes} {status : Nat}
    (response : IsResponse bytes status (wireFields headers body) body) :
    ∀ header ∈ headers, (asBytes header.2).all isFieldOctet = true := by
  obtain ⟨head, _, _, lines, _⟩ := response
  intro header member
  have inside : some (asBytes header.1, asBytes header.2) ∈
      head.lines.map parseField := by
    rw [lines]
    apply mem_map_of_mem
    exact mem_append_left _ (mem_map.mpr ⟨header, member, rfl⟩)
  obtain ⟨line, _, parsed⟩ := mem_map.mp inside
  exact parseField_octets parsed

end ReverseProxy
