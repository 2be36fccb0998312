import ReverseProxy.H1ProxyServer.RequestLine

/-!
# Replacing the target of a first line

`push_first_line_with_other_path` replaces what stands between the first space
and the next one.  That is the target exactly when one token stands before it
and the target fills the place.
-/

namespace ReverseProxy

open Library List

/-! ## Tokens around a space -/

theorem asBytes_eq_append_space {text : Str} {before after : Bytes}
    (source : asBytes text = before ++ 32 :: after) :
    ∃ left right, text = left ++ ' ' :: right ∧ asBytes left = before ∧ asBytes right = after := by
  induction text generalizing before with
  | nil => simp [asBytes] at source
  | cons symbol text ih =>
    rw [asBytes_cons] at source
    rcases append_eq_append_iff.mp source with
      ⟨middle, rfl, tails⟩ | ⟨middle, encoded, tails⟩
    · obtain ⟨left, right, rfl, rfl, rfl⟩ := ih tails
      exact ⟨symbol :: left, right, rfl, asBytes_cons _ _, rfl⟩
    cases middle with
    | nil =>
      have space : asBytes text = [] ++ 32 :: after := by
        simpa using tails.symm
      obtain ⟨left, right, rfl, leftEq, rfl⟩ := ih space
      refine ⟨symbol :: left, right, rfl, ?_, rfl⟩
      rw [asBytes_cons, leftEq, encoded]
      simp
    | cons octet middle =>
      obtain ⟨rfl, rest⟩ := List.cons.inj tails
      have space := utf8EncodeChar_of_ascii_mem
        (show (32 : UInt8) ∈ String.utf8EncodeChar symbol by
          rw [encoded]
          simp) (by decide)
      have isSpace : symbol = ' ' := space
      subst isSpace
      have single : String.utf8EncodeChar ' ' = [32] := by decide
      rw [single] at encoded
      have lengths := congrArg List.length encoded
      simp only [length_append, length_cons, length_nil] at lengths
      have none : before = [] ∧ middle = [] := by
        constructor
        all_goals exact eq_nil_of_length_eq_zero (by omega)
      obtain ⟨rfl, rfl⟩ := none
      exact ⟨[], text, rfl, rfl, by simpa using rest.symm⟩

theorem fromUtf8_eq_some_iff {bytes : Bytes} {text : Str} :
    fromUtf8 bytes = some text ↔ asBytes text = bytes := by
  constructor
  · exact asBytes_of_fromUtf8
  · rintro rfl
    exact fromUtf8_asBytes text

variable {line : Bytes} {tokens : List Str}

theorem lineTokens_eq_some_iff :
    lineTokens line = some tokens ↔
      ∃ text, asBytes text = line ∧ splitWhitespace text = tokens := by
  simp [lineTokens, Option.map_eq_some_iff, fromUtf8_eq_some_iff]

theorem splitWhitespace_space (left right : Str) :
    splitWhitespace (left ++ ' ' :: right) = splitWhitespace left ++ splitWhitespace right := by
  rw [splitWhitespace, splitOnP_append_cons left right
    (show isWhitespace ' ' = true by decide), filter_append]
  rfl

theorem lineTokens_space_iff {before after : Bytes} :
    lineTokens (before ++ 32 :: after) = some tokens ↔
      ∃ left right, lineTokens before = some left ∧
        lineTokens after = some right ∧ tokens = left ++ right := by
  constructor
  · intro found
    obtain ⟨text, source, rfl⟩ := lineTokens_eq_some_iff.mp found
    obtain ⟨left, right, rfl, rfl, rfl⟩ := asBytes_eq_append_space source
    exact ⟨_, _, lineTokens_eq_some_iff.mpr ⟨left, rfl, rfl⟩,
      lineTokens_eq_some_iff.mpr ⟨right, rfl, rfl⟩,
      splitWhitespace_space left right⟩
  · rintro ⟨_, _, foundLeft, foundRight, rfl⟩
    obtain ⟨left, rfl, rfl⟩ := lineTokens_eq_some_iff.mp foundLeft
    obtain ⟨right, rfl, rfl⟩ := lineTokens_eq_some_iff.mp foundRight
    refine lineTokens_eq_some_iff.mpr ⟨left ++ ' ' :: right, ?_, splitWhitespace_space left right⟩
    rw [asBytes_append, asBytes_cons]
    rfl

variable {token : Str}

theorem infix_of_mem_splitWhitespace {text : Str}
    (member : token ∈ splitWhitespace text) : token <:+: text :=
  infix_of_mem_splitOnP (mem_filter.mp member).1

theorem token_isInfix (found : lineTokens line = some tokens) (member : token ∈ tokens) :
    asBytes token <:+: line := by
  obtain ⟨text, rfl, rfl⟩ := lineTokens_eq_some_iff.mp found
  obtain ⟨left, right, rfl⟩ := infix_of_mem_splitWhitespace member
  rw [asBytes_append, asBytes_append]
  exact ⟨asBytes left, asBytes right, rfl⟩

theorem oneToken_of_lineTokens (found : lineTokens line = some tokens)
    (member : token ∈ tokens) : OneToken token := by
  obtain ⟨text, rfl, rfl⟩ := lineTokens_eq_some_iff.mp found
  exact oneToken_of_mem member

theorem lineTokens_oneToken (one : OneToken token) : lineTokens (asBytes token) = some [token] := by
  refine lineTokens_eq_some_iff.mpr ⟨token, rfl, ?_⟩
  rw [splitWhitespace, splitOnP_eq_singleton one.solid,
    filter_cons_of_pos (by simpa using one.nonempty)]
  rfl

/-! ## The replaced line -/

/-- The target token of the line, and nothing else, is replaced. -/
def ReplacesTarget (line replaced : Bytes) (path : Str) : Prop :=
  ∃ method target others before after,
    lineTokens line = some (method :: target :: others) ∧
      lineTokens replaced = some (method :: path :: others) ∧
        line = before ++ asBytes target ++ after ∧ replaced = before ++ asBytes path ++ after

/-- One token and one space stand before the target, and a space behind it. -/
def TargetInPlace (line : Bytes) : Prop := ∃ method front target back,
    line = front ++ 32 :: (asBytes target ++ 32 :: back) ∧
      (32 : UInt8) ∉ front ∧ lineTokens front = some [method] ∧ OneToken target

/-- The path is the target already, and stands where it would be written. -/
def HasPath (line : Bytes) (path : Str) : Prop :=
  (∃ method others, lineTokens line = some (method :: path :: others)) ∧
    ∀ piece, (line.splitOn 32)[1]? = some piece → piece = asBytes path

theorem firstLineWithOtherPath_cases (line path : Bytes) :
    ((32 : UInt8) ∉ line ∧ firstLineWithOtherPath line path = line) ∨
      ∃ front piece tail, line = front ++ 32 :: (piece ++ tail) ∧
        (32 : UInt8) ∉ front ∧ (32 : UInt8) ∉ piece ∧ (line.splitOn 32)[1]? = some piece ∧
            (tail = [] ∨ ∃ back, tail = 32 :: back) ∧ firstLineWithOtherPath line path =
                front ++ 32 :: (path ++ tail) := by
  cases split : splitOnce 32 line with
  | none =>
    have absent := splitOnce_eq_none_iff.mp split
    refine .inl ⟨absent, ?_⟩
    rw [firstLineWithOtherPath, splitOn_eq_singleton absent]
    simp [replaceTarget]
  | some parts =>
    obtain ⟨front, rest⟩ := parts
    obtain ⟨rfl, frontFree⟩ := splitOnce_eq_some_iff.mp split
    have pieces := splitOn_append_cons_self_of_not_mem frontFree rest
    cases splitRest : splitOnce 32 rest with
    | none =>
      have absent := splitOnce_eq_none_iff.mp splitRest
      rw [splitOn_eq_singleton absent] at pieces
      refine .inr ⟨front, rest, [], by simp, frontFree, absent,
        by rw [pieces]; rfl, .inl rfl, ?_⟩
      rw [firstLineWithOtherPath, pieces]
      simp [replaceTarget]
    | some parts =>
      obtain ⟨piece, back⟩ := parts
      obtain ⟨rfl, pieceFree⟩ := splitOnce_eq_some_iff.mp splitRest
      have parts : spacedParts (front ++ 32 :: (piece ++ 32 :: back)) = some (front, piece, back) :=
        spacedParts_eq_some_iff.mpr ⟨rfl, frontFree, pieceFree⟩
      rw [splitOn_append_cons_self_of_not_mem pieceFree] at pieces
      refine .inr ⟨front, piece, 32 :: back, rfl, frontFree, pieceFree,
        by rw [pieces]; rfl, .inr ⟨back, rfl⟩, ?_⟩
      rw [firstLineWithOtherPath_eq parts]

theorem lineTokens_tail {piece tail : Bytes} (shape : tail = [] ∨ ∃ back, tail = 32 :: back)
    (found : lineTokens (piece ++ tail) = some tokens) :
    ∃ own later, lineTokens piece = some own ∧ tokens = own ++ later ∧ (tail = [] → later = []) ∧
        ∀ other otherTokens, lineTokens other = some otherTokens →
          lineTokens (other ++ tail) = some (otherTokens ++ later) := by
  rcases shape with rfl | ⟨back, rfl⟩
  · rw [append_nil] at found
    refine ⟨tokens, [], found, by simp, fun _ => rfl, ?_⟩
    intro other otherTokens otherFound
    simpa using otherFound
  obtain ⟨own, later, foundOwn, foundLater, rfl⟩ := lineTokens_space_iff.mp found
  refine ⟨own, later, foundOwn, rfl, by simp, ?_⟩
  intro other otherTokens otherFound
  exact lineTokens_space_iff.mpr ⟨otherTokens, later, otherFound, foundLater, rfl⟩

variable {path : Str}

theorem HasPath.unchanged (has : HasPath line path) :
    firstLineWithOtherPath line (asBytes path) = line := by
  rcases firstLineWithOtherPath_cases line (asBytes path) with
    ⟨_, same⟩ | ⟨front, piece, tail, split, _, _, second, _, made⟩
  · exact same
  · rw [made, split, has.2 piece second]

theorem HasPath.of_unchanged {method : Str} {others : List Str}
    (tokens : lineTokens line = some (method :: path :: others))
    (same : firstLineWithOtherPath line (asBytes path) = line) :
    HasPath line path := by
  refine ⟨⟨method, others, tokens⟩, ?_⟩
  intro piece second
  rcases firstLineWithOtherPath_cases line (asBytes path) with
    ⟨absent, _⟩ | ⟨front, found, tail, split, _, _, foundSecond, _, made⟩
  · rw [splitOn_eq_singleton absent] at second
    cases second
  rw [second] at foundSecond
  cases foundSecond
  rw [made, split] at same
  simpa using same.symm

theorem TargetInPlace.replaces (place : TargetInPlace line)
    (decodes : (lineTokens line).isSome) (one : OneToken path) :
    ReplacesTarget line (firstLineWithOtherPath line (asBytes path)) path := by
  obtain ⟨method, front, target, back, rfl, frontFree, own, oneTarget⟩ := place
  obtain ⟨tokens, found⟩ := Option.isSome_iff_exists.mp decodes
  obtain ⟨_, _, _, foundRest, _⟩ := lineTokens_space_iff.mp found
  obtain ⟨_, later, _, foundLater, _⟩ := lineTokens_space_iff.mp foundRest
  have parts : spacedParts (front ++ 32 :: (asBytes target ++ 32 :: back)) =
      some (front, asBytes target, back) :=
    spacedParts_eq_some_iff.mpr ⟨rfl, frontFree, oneTarget.space_not_mem⟩
  have tokensWith : ∀ token, OneToken token →
      lineTokens (front ++ 32 :: (asBytes token ++ 32 :: back)) =
        some (method :: token :: later) := by
    intro token oneOther
    refine lineTokens_space_iff.mpr ⟨[method], token :: later, own, ?_, rfl⟩
    rw [lineTokens_token oneOther, foundLater]
    rfl
  rw [firstLineWithOtherPath_eq parts]
  exact ⟨method, target, later, front ++ [32], 32 :: back,
    tokensWith target oneTarget, tokensWith path one, by simp, by simp⟩

/-- A replaced target stands in its place, or is the path already. -/
theorem ReplacesTarget.place (verified : verifyHttp11FirstLine line = .ok ()) (replaces :
      ReplacesTarget line (firstLineWithOtherPath line (asBytes path)) path) :
    OneToken path ∧ (TargetInPlace line ∨ HasPath line path) := by
  obtain ⟨method, target, others, before, after, found, newFound, source, replaced⟩ := replaces
  obtain ⟨_, verifiedFound, valid⟩ := verifyHttp11FirstLine_eq_ok_iff.mp verified
  rw [found] at verifiedFound
  cases verifiedFound
  obtain ⟨_, _, _, sameTokens, more⟩ := valid.shape
  cases sameTokens
  have one : OneToken path := oneToken_of_lineTokens newFound (by simp)
  refine ⟨one, ?_⟩
  by_cases already : path = target
  · -- nothing changed, so the path stood there
    subst already
    exact .inr (.of_unchanged found (replaced.trans source.symm))
  refine .inl ?_
  rcases firstLineWithOtherPath_cases line (asBytes path) with
    ⟨_, same⟩ | ⟨front, piece, tail, split, frontFree, _, _, shape, made⟩
  · rw [same, found] at newFound
    exact absurd (by simpa using newFound.symm) already
  rw [split] at found
  rw [made] at newFound replaced
  obtain ⟨left, right, foundLeft, foundRight, tokens⟩ := lineTokens_space_iff.mp found
  obtain ⟨own, later, foundOwn, rfl, ended, withOther⟩ := lineTokens_tail shape foundRight
  have newTokens := lineTokens_space_iff.mpr ⟨left, _, foundLeft,
    withOther _ _ (lineTokens_oneToken one), rfl⟩
  rw [newFound] at newTokens
  replace newTokens := Option.some.inj newTokens
  -- the piece has one token, since the two lines have as many
  obtain ⟨only, rfl⟩ : ∃ only, own = [only] := by
    apply length_eq_one_iff.mp
    have lengths := congrArg List.length tokens
    have newLengths := congrArg List.length newTokens
    simp only [length_cons, length_append] at lengths newLengths
    simp only [length_nil] at newLengths
    omega
  match left with
  | [] =>
    simp only [nil_append, singleton_append, List.cons.injEq] at tokens newTokens
    obtain ⟨rfl, rfl⟩ := newTokens
    exact absurd (List.cons.inj tokens.2).1.symm already
  | [first] =>
    simp only [singleton_append, List.cons.injEq] at tokens
    obtain ⟨rfl, rfl, rfl⟩ := tokens
    -- the two lines lose as many octets, so the token fills the piece
    have fills : asBytes target = piece := by
      apply (token_isInfix foundOwn (by simp)).eq_of_length
      have lengths := congrArg List.length (split.symm.trans source)
      have newLengths := congrArg List.length replaced
      simp only [length_cons, length_append]
        at lengths newLengths
      omega
    rcases shape with rfl | ⟨back, rfl⟩
    · exact absurd (ended rfl) more
    · exact ⟨method, front, target, back, by rw [split, fills],
        frontFree, foundLeft, oneToken_of_lineTokens found (by simp)⟩
  | first :: second :: left =>
    simp only [cons_append, List.cons.injEq] at tokens newTokens
    exact absurd (newTokens.2.1.trans tokens.2.1.symm) already

theorem replacesTarget_iff (verified : verifyHttp11FirstLine line = .ok ()) :
    ReplacesTarget line (firstLineWithOtherPath line (asBytes path)) path ↔
      OneToken path ∧ (TargetInPlace line ∨ HasPath line path) := by
  obtain ⟨tokens, found, _⟩ := verifyHttp11FirstLine_eq_ok_iff.mp verified
  constructor
  · exact fun replaces => replaces.place verified
  · rintro ⟨one, place | has⟩
    · exact place.replaces (by rw [found]; rfl) one
    · obtain ⟨method, others, tokens⟩ := has.1
      obtain ⟨before, after, source⟩ :=
        token_isInfix tokens (show path ∈ method :: path :: others by simp)
      rw [has.unchanged]
      exact ⟨method, path, others, before, after, tokens, tokens, source.symm, source.symm⟩

theorem ReplacesTarget.verified_iff {replaced : Bytes}
    (verified : verifyHttp11FirstLine line = .ok ())
    (replaces : ReplacesTarget line replaced path) :
    verifyHttp11FirstLine replaced = .ok () ↔
      (isResponseLine line = true → isValidStatusCode path = true) := by
  obtain ⟨method, target, others, _, _, found, newFound, _⟩ := replaces
  obtain ⟨_, verifiedFound, valid⟩ := verifyHttp11FirstLine_eq_ok_iff.mp verified
  rw [found] at verifiedFound
  cases verifiedFound
  have request := isResponseLine_eq_false_iff found
  rw [verifyHttp11FirstLine_eq_ok_iff, newFound]
  dsimp only [VerifiedTokens] at valid
  by_cases status : method = http11
  · rw [if_pos status] at valid
    simp_all [VerifiedTokens]
  · rw [if_neg status] at valid
    simp_all [VerifiedTokens]

end ReverseProxy
