import ReverseProxy.Library.Split
import ReverseProxy.H1ProxyServer.CompileHeaders

/-!
# Readings of the request line

The first line is verified by its tokens, cut at its first two spaces to find
method and target, and split at every space to replace the target.  The three
agree exactly on lines with single spaces there.
-/

namespace ReverseProxy

open Library Outcome List

/-! ## The first two spaces -/

/-- What stands before, between and behind the first two space octets. -/
def spacedParts (data : Bytes) : Option (Bytes × Bytes × Bytes) :=
  match splitOnce 32 data with
  | none => none
  | some (first, rest) =>
    match splitOnce 32 rest with
    | none => none
    | some (second, others) => some (first, second, others)

theorem spacedParts_eq_some_iff {data first second others : Bytes} :
    spacedParts data = some (first, second, others) ↔
      data = first ++ 32 :: (second ++ 32 :: others) ∧
        (32 : UInt8) ∉ first ∧ (32 : UInt8) ∉ second := by
  unfold spacedParts
  constructor
  · intro parts
    split at parts
    · cases parts
    next split =>
      split at parts
      · cases parts
      next splitRest =>
        cases parts
        obtain ⟨rfl, firstFree⟩ := splitOnce_eq_some_iff.mp split
        obtain ⟨rfl, secondFree⟩ := splitOnce_eq_some_iff.mp splitRest
        exact ⟨rfl, firstFree, secondFree⟩
  · rintro ⟨rfl, firstFree, secondFree⟩
    rw [splitOnce_eq_some_iff.mpr ⟨rfl, firstFree⟩]
    dsimp only
    rw [splitOnce_eq_some_iff.mpr ⟨rfl, secondFree⟩]

theorem spacedParts_isSome_iff {data : Bytes} : (spacedParts data).isSome ↔ 2 ≤ data.count 32 := by
  constructor
  · intro some
    obtain ⟨⟨first, second, others⟩, parts⟩ := Option.isSome_iff_exists.mp some
    rw [(spacedParts_eq_some_iff.mp parts).1]
    simp only [count_append, count_cons_self]
    omega
  · intro spaces
    unfold spacedParts
    cases split : splitOnce 32 data with
    | none =>
      rw [count_eq_zero.mpr (splitOnce_eq_none_iff.mp split)] at spaces
      omega
    | some parts =>
      obtain ⟨first, rest⟩ := parts
      obtain ⟨rfl, absent⟩ := splitOnce_eq_some_iff.mp split
      rw [count_append, count_cons_self, count_eq_zero.mpr absent] at spaces
      cases splitRest : splitOnce 32 rest with
      | none =>
        rw [count_eq_zero.mpr (splitOnce_eq_none_iff.mp splitRest)]
          at spaces
        omega
      | some parts =>
        dsimp only
        rw [splitRest]
        rfl

section

variable [SliceOfU8Ext]

theorem unwrapBytePos_append (before data : Bytes) (octet : UInt8) :
    unwrapBytePos (before ++ data) octet before.length =
      match splitOnce octet data with
      | none => .panic
      | some (segment, _) => .ret (before.length + segment.length) := by
  unfold unwrapBytePos
  cases split : splitOnce octet data with
  | none =>
    cases found : findBytePos (before ++ data) octet before.length with
    | none => rfl
    | some pos =>
      rw [SliceOfU8Ext.findBytePos_eq_some_iff (by simp)] at found
      exact (splitOnce_eq_none_iff.mp split found.mem).elim
  | some parts =>
    obtain ⟨segment, rest⟩ := parts
    obtain ⟨rfl, absent⟩ := splitOnce_eq_some_iff.mp split
    have first := firstAt_of_not_mem before rest absent
    rw [append_assoc] at first
    rw [(SliceOfU8Ext.findBytePos_eq_some_iff (by simp)).mpr first]

/-- The positions both accessors and the placeholder look up. -/
theorem spacePositions_eq {α : Type} (data : Bytes) (next : Nat → Nat → Outcome α) :
    (do
      let indexStart ← unwrapBytePos data 32 0
      let indexEnd ← unwrapBytePos data 32 (indexStart + 1)
      next indexStart indexEnd) =
      match spacedParts data with
      | none => .panic
      | some (first, second, _) =>
        next first.length (first.length + 1 + second.length) := by
  have start := unwrapBytePos_append [] data 32
  rw [nil_append, length_nil] at start
  rw [start, spacedParts]
  cases split : splitOnce 32 data with
  | none => rfl
  | some parts =>
    obtain ⟨first, rest⟩ := parts
    obtain ⟨rfl, _⟩ := splitOnce_eq_some_iff.mp split
    have stop := unwrapBytePos_append (first ++ [32]) rest 32
    simp only [append_assoc, singleton_append, length_append,
      length_singleton] at stop
    simp only [Nat.zero_add, bind_ret, stop]
    cases splitOnce 32 rest with
    | none => rfl
    | some parts => rfl

omit [SliceOfU8Ext] in
theorem slice_second (first second others : Bytes) :
    slice (first ++ 32 :: (second ++ 32 :: others)) (first.length + 1)
      (first.length + 1 + second.length) = .ret second := by
  have sliced := slice_append (first ++ [32]) second (32 :: others)
  simpa using sliced

theorem getPathAndQuery_eq (line : Bytes) :
    getPathAndQuery line =
      match spacedParts line with
      | none => .panic
      | some (_, target, _) => unwrapUtf8 target := by
  rw [getPathAndQuery, spacePositions_eq]
  cases parts : spacedParts line with
  | none => rfl
  | some found =>
    obtain ⟨method, target, others⟩ := found
    obtain ⟨rfl, _⟩ := spacedParts_eq_some_iff.mp parts
    simp only [slice_second, bind_ret]

theorem getVerbAndPath_eq (line : Bytes) :
    getVerbAndPath line =
      match spacedParts line with
      | none => .panic
      | some (method, target, _) => do
        let verb ← unwrapUtf8 method
        let path ← unwrapUtf8 target
        return (verb, path) := by
  rw [getVerbAndPath, spacePositions_eq]
  cases parts : spacedParts line with
  | none => rfl
  | some found =>
    obtain ⟨method, target, others⟩ := found
    obtain ⟨rfl, _⟩ := spacedParts_eq_some_iff.mp parts
    simp only [slice_second, bind_ret, take_left]

/-- The placeholder cuts the whole buffer, not the first line. -/
theorem HttpHeadersReader.getPathAndQuery_eq (reader : HttpHeadersReader) :
    reader.getPathAndQuery =
      match spacedParts reader.payload with
      | none => .panic
      | some (_, target, _) => .ret target := by
  rw [HttpHeadersReader.getPathAndQuery, spacePositions_eq]
  cases parts : spacedParts reader.payload with
  | none => rfl
  | some found =>
    obtain ⟨method, target, others⟩ := found
    obtain ⟨source, _⟩ := spacedParts_eq_some_iff.mp parts
    simp only [source, slice_second]

end

variable {line : Bytes}

theorem firstLineWithOtherPath_eq {method target others : Bytes}
    (parts : spacedParts line = some (method, target, others)) (path : Bytes) :
    firstLineWithOtherPath line path = method ++ 32 :: (path ++ 32 :: others) := by
  obtain ⟨rfl, methodFree, targetFree⟩ := spacedParts_eq_some_iff.mp parts
  rw [firstLineWithOtherPath, splitOn_append_cons_self_of_not_mem methodFree,
    splitOn_append_cons_self_of_not_mem targetFree, replaceTarget,
    intercalate_cons_of_ne_nil (by simp),
    intercalate_cons_of_ne_nil (by simp), intercalate_splitOn]
  simp

/-! ## Tokens -/

/-- A text that white space does not cut. -/
structure OneToken (text : Str) : Prop where
  nonempty : text ≠ []
  solid : ∀ symbol ∈ text, isWhitespace symbol = false

variable {token : Str}

theorem oneToken_of_mem {text : Str} (member : token ∈ splitWhitespace text) :
    OneToken token := by
  obtain ⟨inside, nonempty⟩ := mem_filter.mp member
  exact ⟨by simpa using nonempty, mem_splitOnP inside⟩

theorem splitWhitespace_token (one : OneToken token) (rest : Str) :
    splitWhitespace (token ++ ' ' :: rest) = token :: splitWhitespace rest := by
  rw [splitWhitespace, splitOnP_append_cons_of_forall_mem one.solid ' '
    (by decide), filter_cons_of_pos (by simpa using one.nonempty)]
  rfl

theorem OneToken.not_mem (one : OneToken token) {octet : UInt8} (small : octet < 0x80)
    (white : isWhitespace (Char.ofNat octet.toNat) = true) :
    octet ∉ asBytes token := by
  intro present
  obtain ⟨symbol, member, encoded⟩ := mem_flatMap.mp present
  have isOctet := utf8EncodeChar_of_ascii_mem encoded small
  have solid := one.solid symbol member
  rw [isOctet, white] at solid
  cases solid

theorem OneToken.space_not_mem (one : OneToken token) : (32 : UInt8) ∉ asBytes token :=
  one.not_mem (by decide) (by decide)

/-- The tokens `verify_http11_first_line` sees. -/
def lineTokens (line : Bytes) : Option (List Str) := (fromUtf8 line).map splitWhitespace

theorem lineTokens_token (one : OneToken token) (rest : Bytes) :
    lineTokens (asBytes token ++ 32 :: rest) = (lineTokens rest).map (token :: ·) := by
  have space : asBytes token ++ 32 :: rest = asBytes (token ++ [' ']) ++ rest := by
    rw [asBytes_append, append_assoc]
    rfl
  rw [lineTokens, lineTokens, space, fromUtf8_append, Option.map_map, Option.map_map]
  congr 1
  funext text
  have tokens := splitWhitespace_token one text
  simpa using tokens

theorem asBytes_of_unwrapUtf8 {bytes : Bytes} {text : Str}
    (read : unwrapUtf8 bytes = .ret text) : asBytes text = bytes := by
  unfold unwrapUtf8 at read
  split at read
  · next decoded =>
      cases read
      exact asBytes_of_fromUtf8 decoded
  · cases read

/-! ## Verified lines by their tokens -/

/-- What the verification asks of the tokens. -/
def VerifiedTokens : List Str → Prop
  | first :: second :: others =>
    if first = http11 then others ≠ [] ∧ isValidStatusCode second = true
    else others = [http11] ∧ isValidHttpMethod first = true
  | _ => False

theorem verifyHttp11FirstLine_eq_ok_iff :
    verifyHttp11FirstLine line = .ok () ↔
      ∃ tokens, lineTokens line = some tokens ∧ VerifiedTokens tokens := by
  unfold verifyHttp11FirstLine
  cases line with
  | nil =>
    have none : lineTokens [] = some [] := rfl
    simp [none, VerifiedTokens]
  | cons octet octets =>
    rw [if_neg (by simp)]
    cases decoded : fromUtf8 (octet :: octets) with
    | none => simp [lineTokens, decoded]
    | some text =>
      have solid : ∀ token ∈ splitWhitespace text, token ≠ [] :=
        fun token member => (oneToken_of_mem member).nonempty
      simp only [lineTokens, decoded, Option.map_some, Option.some.injEq, exists_eq_left']
      match tokens : splitWhitespace text with
      | [] => simp [VerifiedTokens]
      | [_] => simp [VerifiedTokens]
      | first :: second :: others =>
        rw [tokens] at solid
        have target : second ≠ [] := solid second (by simp)
        dsimp only [VerifiedTokens]
        by_cases status : first = http11
        · rw [if_pos status, if_pos (by simpa using status)]
          by_cases none : others = []
          · simp [none]
          rw [if_neg (by simpa using none)]
          by_cases valid : isValidStatusCode second
          · simp [none, valid]
          · simp [valid]
        · rw [if_neg status, if_neg (by simpa using status)]
          match others with
          | [] => simp
          | [version] =>
            by_cases current : version = http11
            · by_cases known : isValidHttpMethod first
              · simp [current, known, target]
              · simp [current, known]
            · simp [current]
          | _ :: _ :: _ => simp

theorem VerifiedTokens.shape {tokens : List Str} (valid : VerifiedTokens tokens) :
    ∃ method target others, tokens = method :: target :: others ∧ others ≠ [] := by
  match tokens, valid with
  | first :: second :: others, valid =>
    refine ⟨first, second, others, rfl, ?_⟩
    dsimp only [VerifiedTokens] at valid
    split at valid
    · exact valid.1
    · simp [valid.1]

/-! ## Agreement -/

theorem isResponseLine_eq_false_iff {first : Str} {others : List Str}
    (tokens : lineTokens line = some (first :: others)) :
    isResponseLine line = false ↔ first ≠ http11 := by
  obtain ⟨text, decoded, split⟩ := Option.map_eq_some_iff.mp tokens
  simp [isResponseLine, decoded, split]

theorem lineTokens_of_verified (verified : verifyHttp11FirstLine line = .ok ())
    (request : isResponseLine line = false) :
    ∃ method target, lineTokens line = some [method, target, http11] := by
  obtain ⟨tokens, found, valid⟩ := verifyHttp11FirstLine_eq_ok_iff.mp verified
  obtain ⟨method, target, others, rfl, _⟩ := valid.shape
  dsimp only [VerifiedTokens] at valid
  rw [if_neg ((isResponseLine_eq_false_iff found).mp request)] at valid
  exact ⟨method, target, by rw [found, valid.1]⟩

section

variable [SliceOfU8Ext]

/-- The line is a request line, the accessors return its method and target
tokens, and replacing the target replaces that token alone. -/
structure RequestLineAgrees (line : Bytes) : Prop where
  request : isResponseLine line = false
  agrees : ∃ method target, lineTokens line = some [method, target, http11] ∧
    getVerbAndPath line = .ret (method, target) ∧ getPathAndQuery line = .ret target ∧
        ∀ path, OneToken path →
          lineTokens (firstLineWithOtherPath line (asBytes path)) = some [method, path, http11]

/-- The line starts with a method token that is not the version, one space,
a target token and a space. -/
def SingleSpaced (line : Bytes) : Prop := ∃ method target rest,
    line = asBytes method ++ 32 :: (asBytes target ++ 32 :: rest) ∧
      OneToken method ∧ OneToken target ∧ method ≠ http11

theorem SingleSpaced.agrees {line : Bytes} (verified : verifyHttp11FirstLine line = .ok ())
    (spaced : SingleSpaced line) : RequestLineAgrees line := by
  obtain ⟨method, target, rest, rfl, oneMethod, oneTarget, notVersion⟩ := spaced
  have parts : spacedParts (asBytes method ++ 32 :: (asBytes target ++ 32 :: rest)) =
        some (asBytes method, asBytes target, rest) :=
    spacedParts_eq_some_iff.mpr ⟨rfl, oneMethod.space_not_mem, oneTarget.space_not_mem⟩
  have tokens : lineTokens (asBytes method ++ 32 :: (asBytes target ++ 32 :: rest)) =
        (lineTokens rest).map (method :: target :: ·) := by
    rw [lineTokens_token oneMethod, lineTokens_token oneTarget, Option.map_map]
    rfl
  obtain ⟨all, decoded, _⟩ := verifyHttp11FirstLine_eq_ok_iff.mp verified
  obtain ⟨others, found, _⟩ := Option.map_eq_some_iff.mp (tokens ▸ decoded)
  rw [found, Option.map_some] at tokens
  have request := (isResponseLine_eq_false_iff tokens).mpr notVersion
  obtain ⟨_, _, three⟩ := lineTokens_of_verified verified request
  rw [tokens] at three
  cases three
  refine ⟨request, method, target, tokens, ?_, ?_, ?_⟩
  · rw [getVerbAndPath_eq, parts]
    simp [unwrapUtf8, fromUtf8_asBytes]
  · rw [getPathAndQuery_eq, parts]
    simp [unwrapUtf8, fromUtf8_asBytes]
  · intro path onePath
    rw [firstLineWithOtherPath_eq parts, lineTokens_token oneMethod,
      lineTokens_token onePath, found]
    rfl

theorem RequestLineAgrees.singleSpaced {line : Bytes}
    (agrees : RequestLineAgrees line) : SingleSpaced line := by
  obtain ⟨method, target, tokens, verb, _⟩ := agrees.agrees
  rw [getVerbAndPath_eq] at verb
  cases parts : spacedParts line with
  | none => simp [parts] at verb
  | some found =>
    obtain ⟨first, second, rest⟩ := found
    obtain ⟨rfl, _⟩ := spacedParts_eq_some_iff.mp parts
    simp only [parts, bind_eq_ret_iff] at verb
    obtain ⟨verbText, verbRead, path, pathRead, pair⟩ := verb
    cases pair
    have one : ∀ token ∈ [method, target, http11], OneToken token := by
      obtain ⟨text, _, split⟩ := Option.map_eq_some_iff.mp tokens
      intro token member
      exact oneToken_of_mem (split ▸ member)
    refine ⟨method, target, rest, ?_, one method (by simp), one target (by simp), ?_⟩
    · rw [asBytes_of_unwrapUtf8 verbRead, asBytes_of_unwrapUtf8 pathRead]
    · exact (isResponseLine_eq_false_iff tokens).mp agrees.request

theorem requestLineAgrees_iff_singleSpaced {line : Bytes}
    (verified : verifyHttp11FirstLine line = .ok ()) :
    RequestLineAgrees line ↔ SingleSpaced line :=
  ⟨fun agrees => agrees.singleSpaced, fun spaced => spaced.agrees verified⟩

end

section

attribute [local instance] linearSearch

theorem requestLineAgrees_iff_singleSpaced_get :
    RequestLineAgrees (ascii "GET /a  HTTP/1.1") ↔ SingleSpaced (ascii "GET /a  HTTP/1.1") :=
  requestLineAgrees_iff_singleSpaced (by decide +kernel)

/-- A line with tabs is accepted and panics the accessors, and a status line is
accepted. -/
theorem tabs_panic_accessors :
    verifyHttp11FirstLine (ascii "GET\t/a\tHTTP/1.1") = .ok () ∧
      getVerbAndPath (ascii "GET\t/a\tHTTP/1.1") = .panic ∧
        ¬ RequestLineAgrees (ascii "GET\t/a\tHTTP/1.1") ∧
          verifyHttp11FirstLine (ascii "HTTP/1.1 200 OK") = .ok () ∧
            ¬ RequestLineAgrees (ascii "HTTP/1.1 200 OK") := by
  have panics : getVerbAndPath (ascii "GET\t/a\tHTTP/1.1") = .panic := by
    decide +kernel
  have status : isResponseLine (ascii "HTTP/1.1 200 OK") = true := by
    decide +kernel
  refine ⟨by decide +kernel, panics, ?_, by decide +kernel, ?_⟩
  · intro agrees
    obtain ⟨_, _, _, verb, _⟩ := agrees.agrees
    rw [panics] at verb
    cases verb
  · intro agrees
    rw [agrees.request] at status
    cases status

end

end ReverseProxy
