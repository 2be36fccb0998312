import ReverseProxy.Library.Runs
import ReverseProxy.Rfc7230.Framing

/-!
# Framing recorded by the header loop

The accumulator `content_length` of the header loop is a fold over the header
lines in which the last line that sets it wins.
-/

namespace ReverseProxy.Http1Headers

open Outcome

/-- The text of a field value that starts one octet after the colon. -/
def readText (value : Bytes) : Option Str := (fromUtf8 value.tail).map trim

def readLength (value : Bytes) : Option Nat := (readText value).bind parseUsize

def readsChunked [StrUtils] (value : Bytes) : Bool :=
  match readText value with
  | some text => eqCaseInsensitive text "chunked".toList
  | none => false

/-- What one line does to the recorded framing. -/
def framingStep [StrUtils] (current : HttpContentLength) (line : Bytes) :
    HttpContentLength :=
  match splitField line with
  | none => current
  | some (name, value) =>
    if isNamed name contentLenHeader then
      match readLength value with
      | some size => .known size
      | none => current
    else if isNamed name transferEncodingHeader then
      if readsChunked value then .chunked else current
    else current

def recordedFraming [StrUtils] (lines : List Bytes) : HttpContentLength :=
  lines.foldl framingStep .none

/-- The header loop neither panics nor gives up on the line. -/
def ReadableLine (line : Bytes) : Prop :=
  match splitField line with
  | none => True
  | some (name, value) =>
    (isNamed name contentLenHeader → value ≠ [] ∧ (readLength value).isSome) ∧
    (isNamed name transferEncodingHeader → value ≠ [] ∧ (readText value).isSome)

theorem isNamed_exclusive {name header other : Bytes} (named : isNamed name header)
    (different : header.map toLowerCase ≠ other.map toLowerCase) :
    isNamed name other = false := by
  simp only [isNamed, beq_iff_eq, beq_eq_false_iff_ne] at *
  rw [named]
  exact different

theorem valueText_nonempty {value : Bytes} (nonempty : value ≠ []) :
    valueText value = .ret (readText value) := by
  cases value with
  | nil => contradiction
  | cons octet rest => rfl

/-! ## One line -/

section

variable [StrUtils] {pos : Nat} {name value : Bytes} {found : Found}

theorem readField_contentLength (named : isNamed name contentLenHeader) :
    readField pos name value found = (valueText value >>= fun text =>
        match text.bind parseUsize with
        | none => .ret none
        | some size =>
          .ret (some { found with contentLength := .known size })) := by
  have host : isNamed name hostHeader = false := isNamed_exclusive named (by decide)
  have cookie : isNamed name cookieHeader = false := isNamed_exclusive named (by decide)
  simp only [readField, host, cookie, named, if_true, Bool.false_eq_true, if_false]
  rfl

theorem readField_transferEncoding (named : isNamed name transferEncodingHeader) :
    readField pos name value found = (valueText value >>= fun text =>
        match text with
        | none => .ret none
        | some text =>
          if eqCaseInsensitive text "chunked".toList then
            .ret (some { found with contentLength := .chunked })
          else
            .ret (some found)) := by
  have host : isNamed name hostHeader = false := isNamed_exclusive named (by decide)
  have cookie : isNamed name cookieHeader = false := isNamed_exclusive named (by decide)
  have contentLen : isNamed name contentLenHeader = false := isNamed_exclusive named (by decide)
  simp only [readField, host, cookie, contentLen, named, if_true, Bool.false_eq_true, if_false]
  rfl

theorem readField_other (pos : Nat) (value : Bytes) (found : Found)
    (notLength : isNamed name contentLenHeader = false)
    (notCoding : isNamed name transferEncodingHeader = false) :
    ∃ next, readField pos name value found = .ret (some next) ∧
      next.contentLength = found.contentLength := by
  unfold readField
  cases isNamed name hostHeader with
  | true => exact ⟨_, rfl, rfl⟩
  | false =>
    cases isNamed name cookieHeader with
    | true => exact ⟨_, rfl, rfl⟩
    | false =>
      simp only [notLength, notCoding]
      cases isNamed name upgradeHeader with
      | true => exact ⟨_, rfl, rfl⟩
      | false => exact ⟨_, rfl, rfl⟩

theorem readField_eq_some {next : Found}
    (read : readField pos name value found = .ret (some next)) :
    (isNamed name contentLenHeader →
      value ≠ [] ∧ ∃ size, readLength value = some size ∧ next.contentLength = .known size) ∧
    (isNamed name transferEncodingHeader →
      value ≠ [] ∧ (readText value).isSome ∧ next.contentLength =
          if readsChunked value then .chunked else found.contentLength) := by
  constructor
  · intro named
    rw [readField_contentLength named] at read
    cases value with
    | nil => simp [valueText] at read
    | cons octet rest =>
      rw [valueText_nonempty (by simp), bind_ret] at read
      refine ⟨by simp, ?_⟩
      cases length : readLength (octet :: rest) with
      | none =>
        unfold readLength at length
        simp [length] at read
      | some size =>
        unfold readLength at length
        simp only [length, ret.injEq, Option.some.injEq] at read
        exact ⟨size, rfl, by simp [← read]⟩
  · intro named
    rw [readField_transferEncoding named] at read
    cases value with
    | nil => simp [valueText] at read
    | cons octet rest =>
      rw [valueText_nonempty (by simp), bind_ret] at read
      refine ⟨by simp, ?_⟩
      cases decoded : readText (octet :: rest) with
      | none => simp [decoded] at read
      | some text =>
        simp only [decoded] at read
        refine ⟨rfl, ?_⟩
        by_cases chunked : eqCaseInsensitive text "chunked".toList
        · rw [if_pos chunked] at read
          cases read
          simp only [readsChunked, decoded, chunked, if_true]
        rw [if_neg chunked] at read
        cases read
        simp only [readsChunked, decoded, chunked]
        rfl

theorem readField_of_readable (readable : (isNamed name contentLenHeader →
        value ≠ [] ∧ (readLength value).isSome) ∧
      (isNamed name transferEncodingHeader → value ≠ [] ∧ (readText value).isSome)) :
    ∃ next, readField pos name value found = .ret (some next) := by
  by_cases contentLen : isNamed name contentLenHeader
  · obtain ⟨nonempty, length⟩ := readable.1 contentLen
    obtain ⟨size, length⟩ := Option.isSome_iff_exists.mp length
    unfold readLength at length
    rw [readField_contentLength contentLen, valueText_nonempty nonempty, bind_ret, length]
    exact ⟨_, rfl⟩
  by_cases coding : isNamed name transferEncodingHeader
  · obtain ⟨nonempty, text⟩ := readable.2 coding
    obtain ⟨text, decoded⟩ := Option.isSome_iff_exists.mp text
    rw [readField_transferEncoding coding, valueText_nonempty nonempty, bind_ret, decoded]
    by_cases chunked : eqCaseInsensitive text "chunked".toList
    · simp only [chunked, if_true]
      exact ⟨_, rfl⟩
    · simp only [chunked]
      exact ⟨_, rfl⟩
  · obtain ⟨next, read, _⟩ := readField_other pos value found
      (by simpa using contentLen) (by simpa using coding)
    exact ⟨next, read⟩

variable {line after : Bytes}

theorem readLine_eq_some {next : Found} (read : readLine pos line after found = .ret (some next)) :
    ReadableLine line ∧ next.contentLength = framingStep found.contentLength line := by
  unfold readLine at read
  unfold ReadableLine framingStep
  cases split : splitField line with
  | none =>
    simp only [split] at read ⊢
    split at read
    · cases read
      exact ⟨trivial, rfl⟩
    · simp at read
  | some field =>
    obtain ⟨name, value⟩ := field
    simp only [split] at read ⊢
    obtain ⟨length, coding⟩ := readField_eq_some read
    by_cases contentLen : isNamed name contentLenHeader
    · obtain ⟨nonempty, size, readSize, recorded⟩ := length contentLen
      have notCoding : isNamed name transferEncodingHeader = false :=
        isNamed_exclusive contentLen (by decide)
      simp [contentLen, notCoding, nonempty, readSize, recorded]
    by_cases transferEncoding : isNamed name transferEncodingHeader
    · obtain ⟨nonempty, text, recorded⟩ := coding transferEncoding
      simp [contentLen, transferEncoding, nonempty, text, recorded]
    obtain ⟨other, readOther, kept⟩ := readField_other pos value
      found (by simpa using contentLen) (by simpa using transferEncoding)
    rw [readOther] at read
    cases read
    simp [contentLen, transferEncoding, kept]

theorem readLine_of_readable (pos : Nat) (after : Bytes) (found : Found)
    (readable : ReadableLine line) (colon : (58 : UInt8) ∈ line) :
    ∃ next, readLine pos line after found = .ret (some next) := by
  unfold readLine
  unfold ReadableLine at readable
  cases split : splitField line with
  | none => exact (splitField_eq_none_iff.mp split colon).elim
  | some field =>
    obtain ⟨name, value⟩ := field
    simp only [split] at readable ⊢
    exact readField_of_readable readable

/-! ## All lines -/

theorem scanLines_eq_some {rest : Bytes} {lines : List Bytes} {next : Found}
    (scanned : scanLines rest pos found lines = .ret (some next)) :
    (∀ line ∈ lines, ReadableLine line) ∧
      next.contentLength = lines.foldl framingStep found.contentLength := by
  induction lines generalizing pos found with
  | nil =>
    cases scanned
    simp
  | cons line lines ih =>
    rw [scanLines, bind_eq_ret_iff] at scanned
    obtain ⟨result, read, continued⟩ := scanned
    cases result with
    | none => simp at continued
    | some middle =>
      obtain ⟨readable, recorded⟩ := readLine_eq_some read
      obtain ⟨others, folded⟩ := ih continued
      constructor
      · intro other member
        rcases List.mem_cons.mp member with rfl | member
        · exact readable
        · exact others other member
      · rw [folded, recorded, List.foldl_cons]

theorem scanLines_of_readable (rest : Bytes) (pos : Nat) (found : Found)
    {lines : List Bytes} (readable : ∀ line ∈ lines, ReadableLine line)
    (colons : ∀ line ∈ lines, (58 : UInt8) ∈ line) :
    ∃ next, scanLines rest pos found lines = .ret (some next) := by
  induction lines generalizing pos found with
  | nil => exact ⟨found, rfl⟩
  | cons line lines ih =>
    obtain ⟨middle, read⟩ := readLine_of_readable pos
      (joinLines lines ++ httpCrLf ++ rest) found (readable line (by simp)) (colons line (by simp))
    obtain ⟨next, scanned⟩ := ih (pos + line.length + httpCrLf.length) middle
      (fun other member => readable other (by simp [member]))
      (fun other member => colons other (by simp [member]))
    exact ⟨next, by rw [scanLines, read]; exact scanned⟩

end

/-! ## The recorded framing in terms of the field values -/

section

open Library Rfc7230

variable [StrUtils] {lines : List Bytes}

theorem framingStep_contentLength {line name value : Bytes} {size : Nat}
    (field : splitField line = some (name, value))
    (named : isNamed name contentLenHeader)
    (length : readLength value = some size) (current : HttpContentLength) :
    framingStep current line = .known size := by
  simp [framingStep, field, named, length]

theorem framingStep_transferEncoding {line name value : Bytes}
    (field : splitField line = some (name, value))
    (named : isNamed name transferEncodingHeader)
    (chunked : readsChunked value) (current : HttpContentLength) :
    framingStep current line = .chunked := by
  have notLength : isNamed name contentLenHeader = false := isNamed_exclusive named (by decide)
  simp [framingStep, field, named, notLength, chunked]

theorem framingStep_cases {line : Bytes} (inside : line ∈ lines) :
    (∀ current, framingStep current line = current) ∨
    (∃ value ∈ rawValues contentLenHeader lines, ∃ size,
      readLength value = some size ∧ ∀ current, framingStep current line = .known size) ∨
    (∃ value ∈ rawValues transferEncodingHeader lines,
      readsChunked value ∧ ∀ current, framingStep current line = .chunked) := by
  cases field : splitField line with
  | none => exact Or.inl fun current => by simp [framingStep, field]
  | some parts =>
    obtain ⟨name, value⟩ := parts
    by_cases contentLen : isNamed name contentLenHeader
    · have member := mem_rawValues_iff.mpr ⟨line, inside, name, field, contentLen⟩
      cases length : readLength value with
      | none =>
        refine Or.inl fun current => ?_
        simp [framingStep, field, contentLen, length]
      | some size =>
        exact Or.inr (Or.inl ⟨value, member, size, length,
          framingStep_contentLength field contentLen length⟩)
    · by_cases coding : isNamed name transferEncodingHeader
      · have member := mem_rawValues_iff.mpr ⟨line, inside, name, field, coding⟩
        by_cases chunked : readsChunked value
        · exact Or.inr (Or.inr ⟨value, member, chunked,
            framingStep_transferEncoding field coding chunked⟩)
        · refine Or.inl fun current => ?_
          simp [framingStep, field, contentLen, coding, chunked]
      · refine Or.inl fun current => ?_
        simp [framingStep, field, contentLen, coding]

theorem recordedFraming_chunked (lengths : rawValues contentLenHeader lines = [])
    (chunked : ∃ value ∈ rawValues transferEncodingHeader lines, readsChunked value) :
    recordedFraming lines = .chunked := by
  obtain ⟨value, member, reads⟩ := chunked
  obtain ⟨line, inside, name, field, named⟩ := mem_rawValues_iff.mp member
  apply foldl_overwrite
  · intro other member
    rcases framingStep_cases member with keeps | ⟨value, member, _⟩ | ⟨_, _, _, overwrites⟩
    · exact Or.inl keeps
    · simp [lengths] at member
    · exact Or.inr overwrites
  · exact Or.inr ⟨line, inside, framingStep_transferEncoding field named reads⟩

theorem recordedFraming_known {size : Nat} (lengths : ∀ value ∈ rawValues contentLenHeader lines,
      readLength value = some size)
    (present : rawValues contentLenHeader lines ≠ [])
    (codings : ∀ value ∈ rawValues transferEncodingHeader lines, ¬ readsChunked value) :
    recordedFraming lines = .known size := by
  obtain ⟨value, member⟩ := List.exists_mem_of_ne_nil _ present
  obtain ⟨line, inside, name, field, named⟩ := mem_rawValues_iff.mp member
  apply foldl_overwrite
  · intro other otherInside
    rcases framingStep_cases otherInside with keeps |
      ⟨value, member, found, length, overwrites⟩ | ⟨value, member, reads, _⟩
    · exact Or.inl keeps
    · have same : found = size := by simpa [length] using lengths value member
      exact Or.inr (same ▸ overwrites)
    · exact (codings value member reads).elim
  · exact Or.inr ⟨line, inside, framingStep_contentLength field named (lengths value member)⟩

theorem recordedFraming_none (lengths : rawValues contentLenHeader lines = [])
    (codings : ∀ value ∈ rawValues transferEncodingHeader lines, ¬ readsChunked value) :
    recordedFraming lines = .none := by
  apply foldl_overwrite
  · intro line inside
    rcases framingStep_cases inside with keeps | ⟨value, member, _⟩ | ⟨value, member, reads, _⟩
    · exact Or.inl keeps
    · simp [lengths] at member
    · exact (codings value member reads).elim
  · exact Or.inl rfl

theorem recordedFraming_last (lines : List Bytes) (line : Bytes) :
    recordedFraming (lines ++ [line]) = framingStep (recordedFraming lines) line := by
  simp [recordedFraming]

end

/-! ## Accepted heads -/

section

variable [StrUtils] [SliceOfU8Ext] {head : MessageHead} {rest : Bytes} {headers : Http1Headers}

/-- What the parser guarantees about a head it accepts. -/
structure AcceptedHead (head : MessageHead) (headers : Http1Headers) : Prop where
  verified : verifyHttp11FirstLine head.firstLine = .ok ()
  readable : ∀ line ∈ head.lines, ReadableLine line
  firstLineEnd : headers.firstLineEnd = head.firstLine.length
  stop : headers.stop = head.bytes.length
  contentLength : headers.contentLength = recordedFraming head.lines

theorem acceptedHead_of_parse (accepted : parse (head.bytes ++ rest) = .ret (some headers)) :
    AcceptedHead head headers := by
  rw [parse_head] at accepted
  cases verified : verifyHttp11FirstLine head.firstLine with
  | error message => simp [verified] at accepted
  | ok value =>
    simp only [verified, bind_eq_ret_iff] at accepted
    obtain ⟨result, scanned, made⟩ := accepted
    cases result with
    | none => simp at made
    | some found =>
      obtain ⟨readable, recorded⟩ := scanLines_eq_some scanned
      cases made
      exact
        { verified
          readable
          firstLineEnd := rfl
          stop := rfl
          contentLength := recorded }

theorem parse_of_readable (rest : Bytes) (verified : verifyHttp11FirstLine head.firstLine = .ok ())
    (readable : ∀ line ∈ head.lines, ReadableLine line)
    (colons : ∀ line ∈ head.lines, (58 : UInt8) ∈ line) :
    ∃ headers, parse (head.bytes ++ rest) = .ret (some headers) := by
  obtain ⟨found, scanned⟩ := scanLines_of_readable rest
    (head.firstLine ++ httpCrLf).length {} readable colons
  rw [parse_head, verified]
  simp only [scanned, bind_ret, Option.map_some]
  exact ⟨_, rfl⟩

end

end ReverseProxy.Http1Headers
