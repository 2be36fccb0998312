import ReverseProxy.H1Utils.RecordedFraming

/-!
# What parsing a head can end in

The parser panics on a framing header with nothing behind its colon and
returns on every other buffer.  Whether a head is accepted depends on the
bytes behind it only through the colon its last line may lack.
-/

namespace ReverseProxy.Http1Headers

open Library Outcome List

/-! ## One line -/

/-- The two headers whose value the header loop reads itself. -/
def isFraming (name : Bytes) : Bool :=
  isNamed name contentLenHeader || isNamed name transferEncodingHeader

theorem not_mem_of_isNamed {octet : UInt8} {name header : Bytes}
    (named : isNamed name header) (fixed : toLowerCase octet = octet)
    (absent : octet ∉ header.map toLowerCase) : octet ∉ name := by
  intro member
  simp only [isNamed, beq_iff_eq] at named
  apply absent
  rw [← named]
  exact mem_map.mpr ⟨octet, member, fixed⟩

theorem not_mem_of_isFraming {octet : UInt8} {name : Bytes}
    (framing : isFraming name) (fixed : toLowerCase octet = octet)
    (notLength : octet ∉ contentLenHeader.map toLowerCase)
    (notCoding : octet ∉ transferEncodingHeader.map toLowerCase) :
    octet ∉ name := by
  rcases Bool.or_eq_true_iff.mp framing with length | coding
  · exact not_mem_of_isNamed length fixed notLength
  · exact not_mem_of_isNamed coding fixed notCoding

theorem colon_not_mem_of_isFraming {name : Bytes} (framing : isFraming name) :
    (58 : UInt8) ∉ name :=
  not_mem_of_isFraming framing (by decide) (by decide) (by decide)

theorem crLfFree_of_isFraming {name : Bytes} (framing : isFraming name) :
    CrLfFree (name ++ [58]) := by
  apply SeparatorFree.of_not_mem
  have absent : (13 : UInt8) ∉ name :=
    not_mem_of_isFraming framing (by decide) (by decide) (by decide)
  simp [absent]

section

variable [StrUtils] {pos : Nat} {name value line after : Bytes} {found : Found}

theorem readField_eq_panic (framing : isFraming name) : readField pos name [] found = .panic := by
  rcases Bool.or_eq_true_iff.mp framing with length | coding
  · rw [readField_contentLength length]
    rfl
  · rw [readField_transferEncoding coding]
    rfl

theorem readField_returns (fine : ¬ (isFraming name ∧ value = [])) :
    ∃ result, readField pos name value found = .ret result := by
  by_cases length : isNamed name contentLenHeader
  · have nonempty : value ≠ [] := fun empty =>
      fine ⟨by simp [isFraming, length], empty⟩
    rw [readField_contentLength length, valueText_nonempty nonempty, bind_ret]
    split <;> exact ⟨_, rfl⟩
  by_cases coding : isNamed name transferEncodingHeader
  · have nonempty : value ≠ [] := fun empty =>
      fine ⟨by simp [isFraming, coding], empty⟩
    rw [readField_transferEncoding coding, valueText_nonempty nonempty, bind_ret]
    split
    · exact ⟨_, rfl⟩
    · split <;> exact ⟨_, rfl⟩
  · obtain ⟨next, read, _⟩ := readField_other pos value found
      (by simpa using length) (by simpa using coding)
    exact ⟨some next, read⟩

theorem readLine_eq_panic (framing : isFraming name) :
    readLine pos (name ++ [58]) after found = .panic := by
  rw [readLine, splitField_append [] (colon_not_mem_of_isFraming framing)]
  exact readField_eq_panic framing

theorem readLine_returns (fine : ∀ name, isFraming name → line ≠ name ++ [58]) :
    ∃ result, readLine pos line after found = .ret result := by
  unfold readLine
  cases split : splitField line with
  | none =>
    dsimp only
    split <;> exact ⟨_, rfl⟩
  | some field =>
    obtain ⟨name, value⟩ := field
    obtain ⟨rfl, _⟩ := splitField_eq_some_iff.mp split
    apply readField_returns
    rintro ⟨framing, rfl⟩
    exact fine name framing rfl

theorem readLine_accepts_iff :
    (∃ next, readLine pos line after found = .ret (some next)) ↔
      ReadableLine line ∧ ((58 : UInt8) ∈ line ∨ (58 : UInt8) ∈ after) := by
  constructor
  · rintro ⟨next, read⟩
    refine ⟨(readLine_eq_some read).1, ?_⟩
    by_contra neither
    obtain ⟨inLine, inAfter⟩ := not_or.mp neither
    rw [readLine, splitField_eq_none_iff.mpr inLine] at read
    simp [inAfter] at read
  · rintro ⟨readable, colon⟩
    by_cases inLine : (58 : UInt8) ∈ line
    · exact readLine_of_readable pos after found readable inLine
    · have inAfter := colon.resolve_left inLine
      rw [readLine, splitField_eq_none_iff.mpr inLine]
      exact ⟨found, by simp [inAfter]⟩

theorem readLine_unique {other : Bytes} {next otherNext : Found}
    (read : readLine pos line after found = .ret (some next))
    (otherRead : readLine pos line other found = .ret (some otherNext)) :
    next = otherNext := by
  unfold readLine at read otherRead
  cases split : splitField line with
  | none =>
    simp only [split] at read otherRead
    split at read
    · split at otherRead
      · cases read
        cases otherRead
        rfl
      · cases otherRead
    · cases read
  | some field =>
    simp only [split] at read otherRead
    rw [read] at otherRead
    cases otherRead
    rfl

end

/-! ## Panics -/

/-- Readable lines, and then a framing header with nothing behind its
colon. -/
inductive ReachesEmptyFraming : Bytes → Prop where
  | here {name after : Bytes} (framing : isFraming name) :
      ReachesEmptyFraming (name ++ [58] ++ httpCrLf ++ after)
  | past {line tail : Bytes} (free : CrLfFree line) (nonempty : line ≠ [])
      (readable : ReadableLine line) (reaches : ReachesEmptyFraming tail) :
      ReachesEmptyFraming (line ++ httpCrLf ++ tail)

theorem ReachesEmptyFraming.colon_mem {tail : Bytes}
    (reaches : ReachesEmptyFraming tail) : (58 : UInt8) ∈ tail := by
  induction reaches with
  | here framing => simp
  | past free nonempty readable _ ih => exact mem_append_right _ ih

theorem ReachesEmptyFraming.append {tail : Bytes}
    (reaches : ReachesEmptyFraming tail) (further : Bytes) :
    ReachesEmptyFraming (tail ++ further) := by
  induction reaches with
  | @here name after framing =>
    rw [append_assoc]
    exact .here framing
  | @past line tail free nonempty readable _ ih =>
    rw [append_assoc]
    exact .past free nonempty readable ih

section

variable [StrUtils] [SliceOfU8Ext] {before tail : Bytes} {firstLineEnd fuel : Nat} {found : Found}

theorem parseLoop_of_reaches (reaches : ReachesEmptyFraming tail) (enough : tail.length < fuel) :
    parseLoop (before ++ tail) firstLineEnd fuel before.length found =
      .panic := by
  induction reaches generalizing before fuel found with
  | @here name after framing =>
    obtain ⟨fuel, rfl⟩ : ∃ rounds, fuel = rounds + 1 := Nat.exists_eq_succ_of_ne_zero (by omega)
    simp only [← append_assoc]
    rw [append_assoc before name, parseLoop_line before after firstLineEnd fuel found
        (crLfFree_of_isFraming framing) (by simp),
      readLine_eq_panic framing]
    rfl
  | @past line tail free nonempty readable reaches ih =>
    obtain ⟨fuel, rfl⟩ : ∃ rounds, fuel = rounds + 1 := Nat.exists_eq_succ_of_ne_zero (by omega)
    obtain ⟨next, read⟩ : ∃ next, readLine before.length line tail found = .ret (some next) :=
      readLine_accepts_iff.mpr ⟨readable, .inr reaches.colon_mem⟩
    simp only [← append_assoc]
    rw [parseLoop_line before tail firstLineEnd fuel found free nonempty, read, bind_ret]
    apply ih
    simp only [length_append, httpCrLf, length_cons] at enough
    omega

/-- By induction on the rounds; a line end is found or the loop gives up. -/
theorem parseLoop_returns (fine : ¬ ReachesEmptyFraming tail) (enough : tail.length < fuel) :
    ∃ result, parseLoop (before ++ tail) firstLineEnd fuel before.length found = .ret result := by
  induction fuel generalizing before tail found with
  | zero => omega
  | succ fuel ih =>
    cases position : findSequencePos (before ++ tail) httpCrLf before.length with
    | none => exact ⟨none, by rw [parseLoop, position]⟩
    | some stop =>
      obtain ⟨line, suffix, rfl, free, _⟩ := exists_line before position
      by_cases empty : line = []
      · subst empty
        have ended := parseLoop_end before suffix firstLineEnd fuel found
        exact ⟨_, by simpa using ended⟩
      have notFraming : ∀ name, isFraming name → line ≠ name ++ [58] := by
        rintro name framing rfl
        exact fine (.here framing)
      obtain ⟨result, read⟩ : ∃ result, readLine before.length line suffix found = .ret result :=
        readLine_returns notFraming
      simp only [← append_assoc]
      rw [parseLoop_line before suffix firstLineEnd fuel found free empty, read, bind_ret]
      cases result with
      | none => exact ⟨none, rfl⟩
      | some next =>
        have readable := (readLine_eq_some read).1
        apply ih
        · exact fun reaches => fine (.past free empty readable reaches)
        · simp only [length_append, httpCrLf, length_cons] at enough
          omega

end

/-- A valid first line in front of readable lines and of a framing header with
nothing behind its colon. -/
def HasEmptyFraming (src : Bytes) : Prop := ∃ firstLine tail, src = firstLine ++ httpCrLf ++ tail ∧
    CrLfFree firstLine ∧ verifyHttp11FirstLine firstLine = .ok () ∧
    ReachesEmptyFraming tail

theorem HasEmptyFraming.append {src : Bytes} (empty : HasEmptyFraming src)
    (further : Bytes) : HasEmptyFraming (src ++ further) := by
  obtain ⟨firstLine, tail, rfl, free, verified, reaches⟩ := empty
  exact ⟨firstLine, tail ++ further, by simp, free, verified, reaches.append further⟩

section

variable [StrUtils] [SliceOfU8Ext] {src : Bytes}

theorem parse_of_hasEmptyFraming (empty : HasEmptyFraming src) : parse src = .panic := by
  obtain ⟨firstLine, tail, rfl, free, verified, reaches⟩ := empty
  rw [parse_firstLine tail free, verified]
  apply parseLoop_of_reaches reaches
  simp only [length_append, httpCrLf, length_cons]
  omega

theorem parse_returns (fine : ¬ HasEmptyFraming src) : ∃ result, parse src = .ret result := by
  cases position : findSequencePos src httpCrLf 0 with
  | none => exact ⟨none, by rw [parse, position]⟩
  | some firstLineEnd =>
    obtain ⟨firstLine, tail, rfl, free, _⟩ := exists_line [] position
    rw [parse_firstLine tail free]
    cases verified : verifyHttp11FirstLine firstLine with
    | error message => exact ⟨none, rfl⟩
    | ok value =>
      apply parseLoop_returns
      · exact fun reaches =>
          fine ⟨firstLine, tail, rfl, free, verified, reaches⟩
      · simp only [length_append, httpCrLf, length_cons]
        omega

end

/-! ## Accepted heads -/

/-- What a head has to satisfy in front of the bytes `rest`. -/
structure Passable (head : MessageHead) (rest : Bytes) : Prop where
  verified : verifyHttp11FirstLine head.firstLine = .ok ()
  readable : ∀ line ∈ head.lines, ReadableLine line
  colon : ∀ line ∈ head.lines.getLast?, (58 : UInt8) ∈ line ∨ (58 : UInt8) ∈ rest

theorem colon_mem_tail_iff {lines : List Bytes} {rest : Bytes} :
    (58 : UInt8) ∈ joinLines lines ++ httpCrLf ++ rest ↔
      (∃ line ∈ lines, (58 : UInt8) ∈ line) ∨ (58 : UInt8) ∈ rest := by
  simp [joinLines, httpCrLf]

theorem colon_of_last {line rest : Bytes} {lines : List Bytes}
    (last : ∀ last ∈ (line :: lines).getLast?, (58 : UInt8) ∈ last ∨ (58 : UInt8) ∈ rest) :
    ((58 : UInt8) ∈ line ∨ (58 : UInt8) ∈ joinLines lines ++ httpCrLf ++ rest) ∧
      ∀ last ∈ lines.getLast?, (58 : UInt8) ∈ last ∨ (58 : UInt8) ∈ rest := by
  rw [colon_mem_tail_iff]
  cases lines with
  | nil => simpa using last
  | cons other others =>
    rw [getLast?_cons_cons] at last
    refine ⟨.inr ?_, last⟩
    have member := getLast_mem (cons_ne_nil other others)
    rcases last _ (getLast?_eq_some_getLast _) with inLast | behind
    · exact .inl ⟨_, member, inLast⟩
    · exact .inr behind

section

variable [StrUtils] {rest : Bytes} {lines : List Bytes} {pos : Nat} {found : Found}

theorem scanLines_accepts_iff :
    (∃ next, scanLines rest pos found lines = .ret (some next)) ↔
      (∀ line ∈ lines, ReadableLine line) ∧ ∀ line ∈ lines.getLast?,
          (58 : UInt8) ∈ line ∨ (58 : UInt8) ∈ rest := by
  induction lines generalizing pos found with
  | nil => simp [scanLines]
  | cons line lines ih =>
    have step : (∃ next, scanLines rest pos found (line :: lines) = .ret (some next)) ↔
        (∃ middle, readLine pos line (joinLines lines ++ httpCrLf ++ rest) found =
            .ret (some middle)) ∧
        (∀ line ∈ lines, ReadableLine line) ∧
        ∀ line ∈ lines.getLast?, (58 : UInt8) ∈ line ∨ (58 : UInt8) ∈ rest := by
      simp only [scanLines, bind_eq_ret_iff]
      constructor
      · rintro ⟨next, result, read, continued⟩
        cases result with
        | none => simp at continued
        | some middle => exact ⟨⟨middle, read⟩, ih.mp ⟨next, continued⟩⟩
      · rintro ⟨⟨middle, read⟩, others⟩
        obtain ⟨next, continued⟩ := ih.mpr others
        exact ⟨next, some middle, read, continued⟩
    rw [step, readLine_accepts_iff, forall_mem_cons (a := line)]
    constructor
    · rintro ⟨⟨readable, here⟩, rests, colon⟩
      refine ⟨⟨readable, rests⟩, ?_⟩
      cases lines with
      | nil => simpa [httpCrLf] using here
      | cons other others => exact colon
    · rintro ⟨⟨readable, rests⟩, colon⟩
      obtain ⟨here, later⟩ := colon_of_last colon
      exact ⟨⟨readable, here⟩, rests, later⟩

theorem scanLines_unique {otherRest : Bytes} {next otherNext : Found}
    (scanned : scanLines rest pos found lines = .ret (some next))
    (otherScanned : scanLines otherRest pos found lines = .ret (some otherNext)) :
    next = otherNext := by
  induction lines generalizing pos found with
  | nil =>
    cases scanned
    cases otherScanned
    rfl
  | cons line lines ih =>
    rw [scanLines, bind_eq_ret_iff] at scanned otherScanned
    obtain ⟨result, read, continued⟩ := scanned
    obtain ⟨otherResult, otherRead, otherContinued⟩ := otherScanned
    cases result with
    | none => simp at continued
    | some middle =>
      cases otherResult with
      | none => simp at otherContinued
      | some otherMiddle =>
        obtain rfl := readLine_unique read otherRead
        exact ih continued otherContinued

variable [SliceOfU8Ext] {head : MessageHead} {headers : Http1Headers}

theorem parse_eq_some_iff :
    parse (head.bytes ++ rest) = .ret (some headers) ↔
      verifyHttp11FirstLine head.firstLine = .ok () ∧
        ∃ found, scanLines rest (head.firstLine ++ httpCrLf).length {}
            head.lines = .ret (some found) ∧
          headers = found.headers head.firstLine.length head.bytes.length := by
  rw [parse_head]
  cases verified : verifyHttp11FirstLine head.firstLine with
  | error message => simp
  | ok value =>
    simp only [true_and, bind_eq_ret_iff]
    constructor
    · rintro ⟨result, scanned, made⟩
      cases result with
      | none => simp at made
      | some found =>
        cases made
        exact ⟨found, scanned, rfl⟩
    · rintro ⟨found, scanned, rfl⟩
      exact ⟨some found, scanned, rfl⟩

theorem parse_accepts_iff :
    (∃ headers, parse (head.bytes ++ rest) = .ret (some headers)) ↔
      Passable head rest := by
  constructor
  · rintro ⟨headers, accepted⟩
    obtain ⟨verified, found, scanned, _⟩ := parse_eq_some_iff.mp accepted
    obtain ⟨readable, colon⟩ := scanLines_accepts_iff.mp ⟨found, scanned⟩
    exact ⟨verified, readable, colon⟩
  · intro passable
    obtain ⟨found, scanned⟩ := scanLines_accepts_iff.mpr ⟨passable.readable, passable.colon⟩
    exact ⟨_, parse_eq_some_iff.mpr ⟨passable.verified, found, scanned, rfl⟩⟩

theorem parse_unique {otherRest : Bytes} {otherHeaders : Http1Headers}
    (accepted : parse (head.bytes ++ rest) = .ret (some headers))
    (otherAccepted : parse (head.bytes ++ otherRest) = .ret (some otherHeaders)) :
    headers = otherHeaders := by
  obtain ⟨_, found, scanned, rfl⟩ := parse_eq_some_iff.mp accepted
  obtain ⟨_, other, otherScanned, rfl⟩ := parse_eq_some_iff.mp otherAccepted
  rw [scanLines_unique scanned otherScanned]

end

end ReverseProxy.Http1Headers
