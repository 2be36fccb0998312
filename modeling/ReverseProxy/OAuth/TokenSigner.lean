import ReverseProxy.Library.Split
import ReverseProxy.OAuth.OAuthResponse

/-!
# Signed tokens

A token is `v1.<payload>.<tag>`: the payload carries kind, expiry, scope and
audience, and the tag is an HMAC over everything before the last dot.  `base64`,
`sha2` and `serde_json` enter as classes with what is documented of them.
-/

namespace ReverseProxy

open Library List

/-! ## Crates -/

/-- The alphabet of base64url. -/
def isBase64Url (symbol : Char) : Bool :=
  ('a' ≤ symbol && symbol ≤ 'z') || ('A' ≤ symbol && symbol ≤ 'Z') ||
    isAsciiDigit symbol || symbol == '-' || symbol == '_'

/-- The two engines of the `base64` crate the server uses, and what they say
about a text they can not decode. -/
class Base64 where
  base64UrlEncode : Bytes → Str
  base64UrlDecode : Str → Option Bytes
  base64StandardDecode : Str → Option Bytes
  base64DecodeError : Str → Str
  base64UrlDecode_encode : ∀ bytes, base64UrlDecode (base64UrlEncode bytes) = some bytes
  base64UrlEncode_alphabet : ∀ bytes, ∀ symbol ∈ base64UrlEncode bytes, isBase64Url symbol = true
  base64UrlEncode_ne_nil : ∀ bytes, bytes ≠ [] → base64UrlEncode bytes ≠ []

export Base64 (base64UrlEncode base64UrlDecode base64StandardDecode base64DecodeError)

/-- `Sha256::digest` of the `sha2` crate. -/
class Sha256 where
  sha256 : Bytes → Bytes
  sha256_ne_nil : ∀ bytes, sha256 bytes ≠ []

export Sha256 (sha256)

/-! ## Comparing and tagging -/

/-- All octets are compared, so the time does not tell where two texts
differ. -/
def constantTimeEq (left right : Bytes) : Bool :=
  if left.length ≠ right.length then false
  else
    (zip left right).foldl (fun difference pair => difference ||| (pair.1 ^^^ pair.2)) 0 == 0

private theorem or_eq_zero_iff (left right : UInt8) :
    left ||| right = 0 ↔ left = 0 ∧ right = 0 := by
  simp only [← UInt8.toNat_inj, UInt8.toNat_or, UInt8.toNat_zero]
  exact Nat.or_eq_zero_iff

private theorem foldl_difference_eq_zero_iff (pairs : List (UInt8 × UInt8)) (start : UInt8) :
    pairs.foldl (fun difference pair => difference ||| (pair.1 ^^^ pair.2)) start = 0 ↔
      start = 0 ∧ ∀ pair ∈ pairs, pair.1 = pair.2 := by
  induction pairs generalizing start with
  | nil => simp
  | cons pair pairs ih =>
    rw [foldl_cons, ih, or_eq_zero_iff, UInt8.xor_eq_zero_iff]
    simp [and_assoc]

theorem constantTimeEq_iff {left right : Bytes} :
    constantTimeEq left right = true ↔ left = right := by
  unfold constantTimeEq
  split
  · rename_i lengths
    simp only [Bool.false_eq_true, false_iff]
    exact fun same => lengths (by rw [same])
  rename_i lengths
  rw [beq_iff_eq, foldl_difference_eq_zero_iff]
  simp only [true_and]
  constructor
  · intro agree
    apply ext_getElem (by simpa using lengths)
    intro index inLeft inRight
    apply agree (left[index], right[index])
    exact mem_iff_getElem.mpr ⟨index, by simp [inLeft, inRight], by simp⟩
  · rintro rfl pair member
    obtain ⟨index, inside, rfl⟩ := mem_iff_getElem.mp member
    simp

section

variable [Base64] [Sha256]

/-- `hmac_sha256`: RFC 2104 with blocks of 64 octets. -/
def hmacSha256 (key message : Bytes) : Bytes :=
  let short := if key.length > 64 then sha256 key else key
  let blockKey := short ++ replicate (64 - short.length) 0
  sha256 (blockKey.map (0x5C ^^^ ·) ++ sha256 (blockKey.map (0x36 ^^^ ·) ++ message))

/-- The S256 transformation of a code verifier. -/
def s256 (codeVerifier : Str) : Str := base64UrlEncode (sha256 (asBytes codeVerifier))

def verifyS256 (codeVerifier codeChallenge : Str) : Bool :=
  if codeVerifier.isEmpty || codeChallenge.isEmpty then false
  else constantTimeEq (asBytes (s256 codeVerifier)) (asBytes codeChallenge)

theorem verifyS256_iff {codeVerifier codeChallenge : Str} (nonempty : codeVerifier ≠ []) :
    verifyS256 codeVerifier codeChallenge = true ↔ s256 codeVerifier = codeChallenge := by
  unfold verifyS256
  by_cases empty : codeChallenge = []
  · have never : s256 codeVerifier ≠ [] := Base64.base64UrlEncode_ne_nil _ (Sha256.sha256_ne_nil _)
    simp [empty, never]
  · simp [nonempty, empty, constantTimeEq_iff, asBytes_injective.eq_iff]

end

/-! ## Payloads -/

inductive TokenKind where
  | access
  | refresh
deriving DecidableEq, Repr

def TokenKind.asStr : TokenKind → Str
  | access => ['a']
  | refresh => ['r']

def TokenKind.parse (src : Str) : Option TokenKind :=
  if src = ['a'] then some access
  else if src = ['r'] then some refresh
  else none

theorem TokenKind.parse_asStr (kind : TokenKind) : TokenKind.parse kind.asStr = some kind := by
  cases kind with
  | access => rfl
  | refresh => rfl

structure TokenPayload where
  k : Str
  exp : Int
  sc : Str
  aud : Option Str
deriving DecidableEq, Repr

/-- The values of an `i64`. -/
def IsI64 (number : Int) : Prop := -2 ^ 63 ≤ number ∧ number < 2 ^ 63

/-- The sum of two `i64` values, wrapping as release builds do. -/
def addI64 (left right : Int) : Int := Int.bmod (left + right) (2 ^ 64)

theorem addI64_isI64 (left right : Int) : IsI64 (addI64 left right) := by
  have lower := Int.le_bmod (x := left + right) (m := 2 ^ 64) (by decide)
  have upper := Int.bmod_lt (x := left + right) (m := 2 ^ 64) (by decide)
  unfold IsI64 addI64
  omega

/-- `serde_json` on `TokenPayload`: a record of texts and one `i64` can always
be written, and reading gives it back. -/
class SerdeJson where
  toVec : TokenPayload → Except Str Bytes
  fromSlice : Bytes → Option TokenPayload
  toVec_ok : ∀ payload, ∃ bytes, toVec payload = .ok bytes
  fromSlice_toVec : ∀ payload bytes, IsI64 payload.exp →
    toVec payload = .ok bytes → fromSlice bytes = some payload

export SerdeJson (toVec fromSlice)

/-! ## Tokens -/

structure VerifiedToken where
  scope : Str
  audience : Option Str
deriving DecidableEq, Repr

/-- `signed` lists the bodies the key has tagged.  No function reads it: it is
there to say what a signature proves. -/
structure TokenSigner where
  key : Bytes
  signed : List Str := []
deriving DecidableEq, Repr

namespace TokenSigner

/-- `TokenSigner::new`. -/
def new (key : Bytes) : TokenSigner := { key }

section

variable [Base64] [Sha256]

def tag (signer : TokenSigner) (body : Str) : Bytes := hmacSha256 signer.key (asBytes body)

/-- What is signed: the version and the encoded payload. -/
def body (payload : Bytes) : Str := "v1.".toList ++ base64UrlEncode payload

variable [SerdeJson]

def mint (signer : TokenSigner) (now : Int) (kind : TokenKind) (scope : Str)
    (audience : Option Str) (ttlSec : Int) : TokenSigner × Except Str Str :=
  match toVec
      { k := kind.asStr
        exp := addI64 now ttlSec
        sc := scope
        aud := audience } with
  | .error err =>
    (signer, .error ("Can not serialize the token. Err: ".toList ++ err))
  | .ok payload =>
    ({ signer with signed := body payload :: signer.signed }, .ok (body payload ++ ['.'] ++
        base64UrlEncode (signer.tag (body payload))))

/-- The signature is checked before the payload is looked at. -/
def verify (signer : TokenSigner) (now : Int) (token : Str)
    (expected : TokenKind) : Option VerifiedToken := do
  let (body, signature) ← rsplitOnce '.' token
  guard ("v1".toList.isPrefixOf body)
  let presented ← base64UrlDecode signature
  guard (constantTimeEq (signer.tag body) presented)
  let (_, encoded) ← splitOnce '.' body
  let decoded ← base64UrlDecode encoded
  let payload ← fromSlice decoded
  let kind ← TokenKind.parse payload.k
  guard (kind = expected)
  guard (¬ payload.exp ≤ now)
  return { scope := payload.sc, audience := payload.aud }

/-! ## What a verified token says -/

omit [Base64] [Sha256] [SerdeJson] in
private theorem guard_eq_some_iff {condition : Prop} [Decidable condition] {done : Unit} :
    (guard condition : Option Unit) = some done ↔ condition := by
  unfold guard
  split <;> simp [*]

/-- The tag of `token` is the one the key gives to `body`. -/
def Tagged (signer : TokenSigner) (token body : Str) : Prop :=
  ∃ signature, rsplitOnce '.' token = some (body, signature) ∧
    base64UrlDecode signature = some (signer.tag body)

/-- The assumption on the MAC: a valid tag comes from the signer. -/
def Unforged (signer : TokenSigner) (token : Str) : Prop :=
  ∀ body, signer.Tagged token body → body ∈ signer.signed

omit [SerdeJson] in
theorem Tagged.unique {signer : TokenSigner} {token left right : Str}
    (leftTagged : signer.Tagged token left)
    (rightTagged : signer.Tagged token right) : left = right := by
  obtain ⟨_, leftSplit, _⟩ := leftTagged
  obtain ⟨_, rightSplit, _⟩ := rightTagged
  rw [leftSplit] at rightSplit
  cases rightSplit
  rfl

omit [Sha256] [SerdeJson] in
theorem dot_not_mem_encode (bytes : Bytes) : '.' ∉ base64UrlEncode bytes := by
  intro member
  have inAlphabet := Base64.base64UrlEncode_alphabet bytes '.' member
  exact absurd inAlphabet (by decide)

omit [Sha256] [SerdeJson] in
theorem splitOnce_body (payload : Bytes) :
    splitOnce '.' (body payload) = some ("v1".toList, base64UrlEncode payload) :=
  splitOnce_eq_some_iff.mpr ⟨rfl, by decide⟩

variable {signer : TokenSigner}

section

variable {now : Int} {token : Str} {expected : TokenKind} {verified : VerifiedToken}

theorem verify_eq_some (accepted : signer.verify now token expected = some verified) :
    ∃ body version encoded decoded payload,
      signer.Tagged token body ∧ splitOnce '.' body = some (version, encoded) ∧
        base64UrlDecode encoded = some decoded ∧
        fromSlice decoded = some payload ∧
        TokenKind.parse payload.k = some expected ∧ now < payload.exp ∧
        verified = { scope := payload.sc, audience := payload.aud } := by
  simp only [verify, Option.bind_eq_bind, Option.bind_eq_some_iff,
    guard_eq_some_iff, Option.pure_def, Option.some.injEq] at accepted
  obtain ⟨⟨body, signature⟩, split, _, _, presented, decodedTag, _, sameTag,
    ⟨version, encoded⟩, splitBody, decoded, decodedPayload, payload, parsed,
    kind, parsedKind, _, rfl, _, alive, same⟩ := accepted
  rw [← constantTimeEq_iff.mp sameTag] at decodedTag
  exact ⟨body, version, encoded, decoded, payload,
    ⟨signature, split, decodedTag⟩, splitBody, decodedPayload, parsed,
    parsedKind, by omega, same.symm⟩

theorem verified_of_tagged {payload : TokenPayload} {bytes : Bytes}
    (range : IsI64 payload.exp) (written : toVec payload = .ok bytes)
    (tagged : ∀ other, signer.Tagged token other → other = body bytes)
    (accepted : signer.verify now token expected = some verified) :
    TokenKind.parse payload.k = some expected ∧ now < payload.exp ∧
      verified = { scope := payload.sc, audience := payload.aud } := by
  obtain ⟨found, version, encoded, decoded, read, foundTagged, split,
    decodedPayload, parsed, kind, alive, same⟩ := verify_eq_some accepted
  rw [tagged found foundTagged, splitOnce_body] at split
  cases split
  rw [Base64.base64UrlDecode_encode] at decodedPayload
  cases decodedPayload
  rw [SerdeJson.fromSlice_toVec payload bytes range written] at parsed
  cases parsed
  exact ⟨kind, alive, same⟩

end

theorem mint_eq_ok (signer : TokenSigner) (now : Int) (kind : TokenKind)
    (scope : Str) (audience : Option Str) (ttlSec : Int) :
    ∃ bytes, toVec
        { k := kind.asStr
          exp := addI64 now ttlSec
          sc := scope
          aud := audience } = .ok bytes ∧
      signer.mint now kind scope audience ttlSec =
        ({ signer with signed := body bytes :: signer.signed }, .ok (body bytes ++ ['.'] ++
            base64UrlEncode (signer.tag (body bytes)))) := by
  obtain ⟨bytes, written⟩ := SerdeJson.toVec_ok
    { k := kind.asStr, exp := addI64 now ttlSec, sc := scope, aud := audience }
  exact ⟨bytes, written, by simp only [mint, written]⟩

theorem verify_token {payload : TokenPayload} {bytes : Bytes} {now : Int}
    {kind : TokenKind} (range : IsI64 payload.exp)
    (written : toVec payload = .ok bytes) (sameKind : payload.k = kind.asStr)
    (alive : now < payload.exp) :
    signer.verify now (body bytes ++ ['.'] ++ base64UrlEncode (signer.tag (body bytes))) kind =
      some { scope := payload.sc, audience := payload.aud } := by
  have split : rsplitOnce '.' (body bytes ++ ['.'] ++ base64UrlEncode (signer.tag (body bytes))) =
        some (body bytes, base64UrlEncode (signer.tag (body bytes))) :=
    rsplitOnce_eq_some_iff.mpr ⟨by simp, dot_not_mem_encode _⟩
  have version : "v1".toList.isPrefixOf (body bytes) = true := rfl
  have tagMatches : constantTimeEq (signer.tag (body bytes))
      (signer.tag (body bytes)) = true := constantTimeEq_iff.mpr rfl
  have read := SerdeJson.fromSlice_toVec payload bytes range written
  rw [verify, split]
  simp only [Option.bind_eq_bind, Option.bind_some, version,
    Base64.base64UrlDecode_encode, tagMatches, splitOnce_body, read,
    sameKind, TokenKind.parse_asStr]
  simp [guard, alive]

theorem verify_mint {minting after : TokenSigner} {now later : Int}
    {kind : TokenKind} {scope token : Str} {audience : Option Str}
    {ttlSec : Int} (sameKey : signer.key = minting.key)
    (minted : minting.mint now kind scope audience ttlSec =
      (after, .ok token)) (alive : later < addI64 now ttlSec) :
    signer.verify later token kind = some { scope, audience } := by
  obtain ⟨bytes, written, result⟩ := mint_eq_ok minting now kind scope audience ttlSec
  rw [result] at minted
  cases minted
  have sameTag : minting.tag (body bytes) = signer.tag (body bytes) := by
    unfold tag
    rw [sameKey]
  rw [sameTag]
  exact verify_token (addI64_isI64 now ttlSec) written rfl alive

end

end TokenSigner

/-! ## Concrete instances

Codings that satisfy the laws, used where a statement is evaluated on a fixed
input. -/

/-- Two letters from `a` to `p` for each octet. -/
def lettersEncode (bytes : Bytes) : Str := bytes.flatMap fun octet =>
    [Char.ofNat (97 + octet.toNat / 16), Char.ofNat (97 + octet.toNat % 16)]

def lettersDecode : Str → Option Bytes
  | [] => some []
  | [_] => none
  | high :: low :: rest =>
    (lettersDecode rest).map (((high.toNat - 97) * 16 + (low.toNat - 97)).toUInt8 :: ·)

private theorem letter_of_digit : ∀ digit < 16,
    (Char.ofNat (97 + digit)).toNat - 97 = digit ∧
      isBase64Url (Char.ofNat (97 + digit)) = true := by
  decide

private theorem lettersDecode_encode (bytes : Bytes) :
    lettersDecode (lettersEncode bytes) = some bytes := by
  induction bytes with
  | nil => rfl
  | cons octet rest ih =>
    have high := (letter_of_digit (octet.toNat / 16) (by have := octet.toNat_lt; omega)).1
    have low := (letter_of_digit (octet.toNat % 16) (by omega)).1
    have whole : octet.toNat / 16 * 16 + octet.toNat % 16 = octet.toNat := by
      omega
    change (lettersDecode (lettersEncode rest)).map _ = _
    rw [ih, high, low, whole]
    simp

@[reducible] def letters : Base64 :=
  { base64UrlEncode := lettersEncode
    base64UrlDecode := lettersDecode
    base64StandardDecode := lettersDecode
    base64DecodeError := fun _ => []
    base64UrlDecode_encode := lettersDecode_encode
    base64UrlEncode_alphabet := by
      intro bytes symbol member
      obtain ⟨octet, _, found⟩ := mem_flatMap.mp member
      simp only [mem_cons, not_mem_nil, or_false] at found
      rcases found with rfl | rfl
      · exact (letter_of_digit _ (by have := octet.toNat_lt; omega)).2
      · exact (letter_of_digit _ (by omega)).2
    base64UrlEncode_ne_nil := by
      intro bytes nonempty
      obtain ⟨octet, rest, rfl⟩ := exists_cons_of_ne_nil nonempty
      simp [lettersEncode] }

@[reducible] def sumDigest : Sha256 :=
  { sha256 := fun bytes => [bytes.foldl (· + ·) 0]
    sha256_ne_nil := by simp }

/-- Four octets for each character, closed by a zero. -/
def writeText (text : Str) : Bytes := (text.flatMap fun symbol =>
    [1, (symbol.toNat / 65536).toUInt8, (symbol.toNat / 256).toUInt8, symbol.toNat.toUInt8]) ++ [0]

def readText : Bytes → Option (Str × Bytes)
  | 0 :: rest => some ([], rest)
  | 1 :: high :: middle :: low :: rest =>
    (readText rest).map fun result =>
      (Char.ofNat (high.toNat * 65536 + middle.toNat * 256 + low.toNat) :: result.1, result.2)
  | _ => none

private theorem readText_write (text : Str) (rest : Bytes) :
    readText (writeText text ++ rest) = some (text, rest) := by
  induction text with
  | nil => rfl
  | cons symbol text ih =>
    have small : symbol.toNat < 1114112 := by
      have valid := symbol.valid
      unfold UInt32.isValidChar Nat.isValidChar at valid
      change symbol.val.toNat < 1114112
      omega
    have same : (symbol.toNat / 65536).toUInt8.toNat * 65536 +
        (symbol.toNat / 256).toUInt8.toNat * 256 +
        symbol.toNat.toUInt8.toNat = symbol.toNat := by
      simp only [Nat.toUInt8, UInt8.toNat_ofNat']
      omega
    change (readText (writeText text ++ rest)).map _ = _
    rw [ih, Option.map_some, same, Char.ofNat_toNat]

/-- A sign and as many ones as the absolute value says. -/
def writeInt (number : Int) : Bytes := (if number < 0 then 1 else 0) ::
    (replicate number.natAbs 1 ++ [0])

def readCount : Bytes → Option (Nat × Bytes)
  | 0 :: rest => some (0, rest)
  | 1 :: rest => (readCount rest).map fun result => (result.1 + 1, result.2)
  | _ => none

def readInt : Bytes → Option (Int × Bytes)
  | sign :: rest =>
    (readCount rest).map fun result =>
      (if sign = 1 then -(result.1 : Int) else result.1, result.2)
  | [] => none

private theorem readCount_write (count : Nat) (rest : Bytes) :
    readCount (replicate count 1 ++ 0 :: rest) = some (count, rest) := by
  induction count with
  | zero => rfl
  | succ count ih =>
    change (readCount (replicate count 1 ++ 0 :: rest)).map _ = _
    rw [ih]
    rfl

private theorem readInt_write (number : Int) (rest : Bytes) :
    readInt (writeInt number ++ rest) = some (number, rest) := by
  unfold writeInt readInt
  simp only [cons_append, append_assoc, nil_append, readCount_write, Option.map_some]
  by_cases negative : number < 0
  · simp only [negative, if_true]
    congr 2
    omega
  simp only [negative, if_false]
  congr 2
  simp
  omega

@[reducible] def plainSerde : SerdeJson :=
  { toVec := fun payload =>
      .ok (writeText payload.k ++ (writeInt payload.exp ++ (writeText payload.sc ++
          match payload.aud with
          | some aud => 1 :: writeText aud
          | none => [0])))
    fromSlice := fun bytes => do
      let (k, bytes) ← readText bytes
      let (exp, bytes) ← readInt bytes
      let (sc, bytes) ← readText bytes
      match bytes with
      | 1 :: bytes =>
        let (aud, _) ← readText bytes
        some { k, exp, sc, aud := some aud }
      | _ => some { k, exp, sc, aud := none }
    toVec_ok := fun _ => ⟨_, rfl⟩
    fromSlice_toVec := by
      intro payload bytes _ written
      cases written
      rw [readText_write]
      simp only [Option.bind_eq_bind, Option.bind_some, readInt_write, readText_write]
      cases aud : payload.aud with
      | none => simp [← aud]
      | some audience =>
        have last := readText_write audience []
        rw [append_nil] at last
        simp [last, ← aud] }

end ReverseProxy
