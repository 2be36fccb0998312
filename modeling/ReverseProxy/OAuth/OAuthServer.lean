import ReverseProxy.OAuth.Form
import ReverseProxy.OAuth.TokenSigner

/-!
# One configured OAuth block

Settings, signing key and the authorization codes in flight, with the bearer
gate.  `clock` gives the readings of one request in order, so that nothing is
assumed about how they relate.
-/

namespace ReverseProxy

open Library HttpEndpointInfo List

/-! ## Authorization codes -/

def authCodeTtlSec : Int := 300

def maxCodes : Nat := 256

/-- What the consent screen agreed to. -/
structure AuthCode where
  redirectUri : Str
  codeChallenge : Str
  scope : Str
  resource : Option Str
  expiresAtSec : Int
deriving DecidableEq, Repr

/-- The codes in flight, as the map iterates over them. -/
abbrev AuthCodes := List (Str × AuthCode)

namespace AuthCodes

def removeExpired (codes : AuthCodes) (now : Int) : AuthCodes :=
  codes.filter fun entry => entry.2.expiresAtSec > now

def remove (codes : AuthCodes) (code : Str) : AuthCodes := codes.filter fun entry => entry.1 ≠ code

/-- `min_by_key` keeps the first of several equally old entries. -/
def oldestCode : AuthCodes → Option Str
  | [] => none
  | first :: rest =>
    some (rest.foldl (fun oldest entry =>
      if entry.2.expiresAtSec < oldest.2.expiresAtSec then entry
      else oldest) first).1

/-- A full store drops its oldest code. -/
def add (codes : AuthCodes) (now : Int) (code : Str) (issued : AuthCode) :
    AuthCodes :=
  let codes := codes.removeExpired now
  let codes :=
    if maxCodes ≤ codes.length then
      match codes.oldestCode with
      | some oldest => codes.remove oldest
      | none => codes
    else codes
  (code, issued) :: codes.remove code

/-- A code is taken out whether or not it is still good. -/
def take (codes : AuthCodes) (now : Int) (code : Str) : AuthCodes × Option AuthCode :=
  let codes := codes.removeExpired now
  match codes.lookup code with
  | none => (codes, none)
  | some issued =>
    (codes.remove code,
      if issued.expiresAtSec ≤ now then none else some issued)

variable {codes : AuthCodes} {code : Str} {entry : Str × AuthCode}

theorem mem_of_mem_remove (member : entry ∈ codes.remove code) :
    entry ∈ codes ∧ entry.1 ≠ code := by
  simpa [remove] using member

variable {now : Int}

theorem mem_of_mem_removeExpired (member : entry ∈ codes.removeExpired now) : entry ∈ codes :=
  (mem_filter.mp member).1

variable {issued : AuthCode}

theorem removeExpired_sublist : (codes.removeExpired now).Sublist codes := filter_sublist

theorem remove_sublist : (codes.remove code).Sublist codes := filter_sublist

theorem oldestCode_least {oldest : Str} (found : codes.oldestCode = some oldest) :
    ∃ entry ∈ codes, entry.1 = oldest ∧
      ∀ other ∈ codes, entry.2.expiresAtSec ≤ other.2.expiresAtSec := by
  cases codes with
  | nil => cases found
  | cons first rest =>
    cases found
    induction rest generalizing first with
    | nil => exact ⟨first, by simp⟩
    | cons second rest ih =>
      obtain ⟨entry, member, same, least⟩ :=
        ih (if second.2.expiresAtSec < first.2.expiresAtSec then second else first)
      exact ⟨entry, by grind, same, by grind⟩

theorem add_eq (codes : AuthCodes) (now : Int) (code : Str) (issued : AuthCode) :
    ∃ kept : AuthCodes, codes.add now code issued = (code, issued) :: kept.remove code ∧
      kept.Sublist codes ∧
      (kept = codes.removeExpired now ∧ kept.length < maxCodes ∨
        ∃ least ∈ codes.removeExpired now, kept = (codes.removeExpired now).remove least.1 ∧
          maxCodes ≤ (codes.removeExpired now).length ∧ ∀ other ∈ codes.removeExpired now,
            least.2.expiresAtSec ≤ other.2.expiresAtSec) := by
  unfold add
  dsimp only
  split
  · rename_i full
    split
    · rename_i oldest found
      obtain ⟨least, member, rfl, first⟩ := oldestCode_least found
      exact ⟨_, rfl, remove_sublist.trans removeExpired_sublist,
        .inr ⟨least, member, rfl, full, first⟩⟩
    rename_i none
    cases swept : codes.removeExpired now with
    | nil => simp [swept, maxCodes] at full
    | cons first rest => simp [swept, oldestCode] at none
  · rename_i room
    exact ⟨_, rfl, removeExpired_sublist, .inl ⟨rfl, by omega⟩⟩

theorem mem_of_mem_add (member : entry ∈ codes.add now code issued) :
    entry = (code, issued) ∨ entry ∈ codes := by
  obtain ⟨kept, same, sub, _⟩ := add_eq codes now code issued
  rw [same] at member
  exact (mem_cons.mp member).imp_right fun left => sub.subset (mem_of_mem_remove left).1

theorem mem_of_lookup (found : codes.lookup code = some issued) : (code, issued) ∈ codes := by
  induction codes with
  | nil => simp at found
  | cons entry rest ih =>
    rw [lookup_cons] at found
    split at found
    · rename_i same
      cases found
      simp [beq_iff_eq.mp same]
    · exact mem_cons_of_mem _ (ih found)

theorem take_fst (codes : AuthCodes) (now : Int) (code : Str) :
    (codes.take now code).1 = (codes.removeExpired now).remove code := by
  unfold take
  dsimp only
  split
  · rename_i absent
    refine (filter_eq_self.mpr fun entry member => ?_).symm
    have other := lookup_eq_none_iff.mp absent entry member
    exact decide_eq_true fun same => by simp [same] at other
  · rfl

theorem mem_of_mem_take (member : entry ∈ (codes.take now code).1) :
    entry ∈ codes ∧ entry.1 ≠ code := by
  rw [take_fst] at member
  exact (mem_of_mem_remove member).imp_left mem_of_mem_removeExpired

theorem mem_of_take (taken : (codes.take now code).2 = some issued) :
    (code, issued) ∈ codes ∧ now < issued.expiresAtSec := by
  unfold take at taken
  dsimp only at taken
  split at taken
  · contradiction
  rename_i found
  split at taken
  · contradiction
  · cases taken
    exact ⟨mem_of_mem_removeExpired (mem_of_lookup found), by omega⟩

end AuthCodes

/-! ## The block -/

structure OAuthSettings where
  clientId : Str
  clientSecret : Str
  consentPassword : Str
  publicUrl : Option Str := none
  signingKey : Option Str := none
  signingKeyFile : Option Str := none
  accessTokenTtlSec : Option Int := none
  refreshTokenTtlSec : Option Int := none
deriving DecidableEq, Repr

/-- The live block: `OAuthContext` of the source. -/
structure OAuthServer where
  settings : OAuthSettings
  signer : TokenSigner
  codes : AuthCodes := []
deriving DecidableEq, Repr

structure MintedTokens where
  accessToken : Str
  refreshToken : Option Str
  expiresIn : Int
  scope : Str
deriving DecidableEq, Repr

def scopeIncludes (scope : Str) (wanted : String) : Bool :=
  (splitWhitespace scope).any (· == wanted.toList)

/-- `granted_scope`: whatever is asked for is narrowed to what the server
grants. -/
def grantedScope (requested : Option Str) : Str :=
  if scopeIncludes (requested.getD []) offlineScope then
    (mcpScope ++ " " ++ offlineScope).toList
  else mcpScope.toList

namespace OAuthSettings

variable (settings : OAuthSettings)

def accessTtl : Int := settings.accessTokenTtlSec.getD (60 * 60)

def refreshTtl : Int :=
  settings.refreshTokenTtlSec.getD (30 * 24 * 60 * 60)

def ttl : TokenKind → Int
  | .access => settings.accessTtl
  | .refresh => settings.refreshTtl

def checkClientId (presented : Str) : Bool :=
  constantTimeEq (asBytes (trim presented)) (asBytes (trim settings.clientId))

def checkClientSecret (presented : Str) : Bool :=
  constantTimeEq (asBytes presented) (asBytes (trim settings.clientSecret))

def checkConsentPassword (presented : Str) :
    Bool :=
  constantTimeEq (asBytes (trim presented)) (asBytes (trim settings.consentPassword))

theorem checkClientSecret_iff {settings : OAuthSettings} {presented : Str} :
    settings.checkClientSecret presented = true ↔ presented = trim settings.clientSecret := by
  unfold checkClientSecret
  rw [constantTimeEq_iff, asBytes_injective.eq_iff]

theorem checkConsentPassword_iff {settings : OAuthSettings} {presented : Str} :
    settings.checkConsentPassword presented = true ↔
      trim presented = trim settings.consentPassword := by
  unfold checkConsentPassword
  rw [constantTimeEq_iff, asBytes_injective.eq_iff]

end OAuthSettings

namespace OAuthServer

/-- `OAuthContext::new`. -/
def new (settings : OAuthSettings) (signingKey : Bytes) : OAuthServer :=
  { settings, signer := .new signingKey }

def publicUrl (server : OAuthServer) : Option Str :=
  server.settings.publicUrl.map fun url => trimEndMatches (trim url) '/'

/-- `base_url`: the issuer for a request. -/
def baseUrl (server : OAuthServer) (requestBaseUrl : Str) : Str :=
  match server.publicUrl with
  | some publicUrl => publicUrl
  | none => trimEndMatches requestBaseUrl '/'

section

variable [Base64] [Sha256] [SerdeJson]

/-- A refresh token needs the offline scope. -/
def mintTokens (server : OAuthServer) (first second : Int) (scope : Str)
    (audience : Option Str) : OAuthServer × Except Str MintedTokens :=
  match server.signer.mint first .access scope audience server.settings.accessTtl with
  | (signer, .error err) => ({ server with signer }, .error err)
  | (signer, .ok accessToken) =>
    if scopeIncludes scope offlineScope then
      match signer.mint second .refresh scope audience server.settings.refreshTtl with
      | (signer, .error err) => ({ server with signer }, .error err)
      | (signer, .ok refreshToken) =>
        ({ server with signer },
          .ok {
            accessToken
            refreshToken := some refreshToken
            expiresIn := server.settings.accessTtl
            scope })
    else
      ({ server with signer },
        .ok {
          accessToken
          refreshToken := none
          expiresIn := server.settings.accessTtl
          scope })

/-- What is signed for a token of one kind, minted at `now`. -/
def MintedBody (settings : OAuthSettings) (now : Int) (scope : Str)
    (audience : Option Str) (kind : TokenKind) (body : Str) : Prop :=
  ∃ bytes, toVec
      { k := kind.asStr
        exp := addI64 now (settings.ttl kind)
        sc := scope
        aud := audience } = .ok bytes ∧
    body = TokenSigner.body bytes

theorem mintTokens_eq (server : OAuthServer) (first second : Int)
    (scope : Str) (audience : Option Str) :
    ∃ signed minted,
      server.mintTokens first second scope audience =
          ({ server with
              signer := { server.signer with
                signed := signed ++ server.signer.signed } },
            .ok minted) ∧
        ∀ body ∈ signed,
          MintedBody server.settings first scope audience .access body ∨
            MintedBody server.settings second scope audience .refresh
              body := by
  obtain ⟨bytes, written, access⟩ := server.signer.mint_eq_ok first .access
    scope audience server.settings.accessTtl
  unfold mintTokens
  rw [access]
  by_cases offline : scopeIncludes scope offlineScope = true
  · obtain ⟨more, writtenMore, refresh⟩ := TokenSigner.mint_eq_ok
      { server.signer with
        signed := TokenSigner.body bytes :: server.signer.signed }
      second .refresh scope audience server.settings.refreshTtl
    simp only [offline, if_true, refresh]
    refine ⟨[TokenSigner.body more, TokenSigner.body bytes], _, rfl, ?_⟩
    intro body member
    simp only [mem_cons, not_mem_nil, or_false] at member
    rcases member with rfl | rfl
    · exact Or.inr ⟨more, writtenMore, rfl⟩
    · exact Or.inl ⟨bytes, written, rfl⟩
  · simp only [offline]
    refine ⟨[TokenSigner.body bytes], _, rfl, ?_⟩
    intro body member
    simp only [mem_cons, not_mem_nil, or_false] at member
    rw [member]
    exact Or.inl ⟨bytes, written, rfl⟩

end

end OAuthServer

/-! ## The bearer gate -/

/-- What follows an authentication scheme.  The slice behind a prefix of the
value panics inside a character. -/
def afterScheme (scheme : String) (authorization : Str) : Outcome (Option Str) :=
  let octets := asBytes (trim authorization)
  let length := (ascii scheme).length
  if octets.length ≤ length then .ret none
  else if !isCharBoundary octets length then .panic
  else if !isNamed (octets.take length) (ascii scheme) then .ret none
  else
    match fromUtf8 (octets.drop length) with
    | none => .panic
    | some rest => .ret (some (trim rest))

def bearerToken (authorization : Option Str) : Outcome (Option Str) :=
  match authorization with
  | none => .ret none
  | some authorization => do
    let token ← afterScheme "Bearer " authorization
    return token.filter (· ≠ [])

/-- The characters tokens are made of. -/
def isTokenSymbol (symbol : Char) : Bool := isBase64Url symbol || symbol == '.'

theorem isTokenSymbol_ascii {symbol : Char} (token : isTokenSymbol symbol = true) :
    symbol.toNat < 128 ∧ isWhitespace symbol = false := by
  have range : 45 ≤ symbol.toNat ∧ symbol.toNat ≤ 122 := by
    simp only [isTokenSymbol, isBase64Url, isAsciiDigit, Bool.or_eq_true,
      Bool.and_eq_true, decide_eq_true_eq, beq_iff_eq, Char.le_def,
      UInt32.le_iff_toNat_le] at token
    change 45 ≤ symbol.val.toNat ∧ symbol.val.toNat ≤ 122
    rcases token with (((lower | upper) | digit) | rfl) | rfl | rfl
    all_goals simp_all
    all_goals omega
  refine ⟨by omega, ?_⟩
  unfold isWhitespace
  simp only [Bool.or_eq_false_iff, Bool.and_eq_false_iff,
    decide_eq_false_iff_not, beq_eq_false_iff_ne]
  omega

theorem isTokenSymbol_token [Base64] {payload tag : Bytes} {symbol : Char}
    (member : symbol ∈ TokenSigner.body payload ++ ['.'] ++
      base64UrlEncode tag) : isTokenSymbol symbol = true := by
  have coded : ∀ bytes, symbol ∈ base64UrlEncode bytes → isTokenSymbol symbol = true := by
    intro bytes inside
    simp [isTokenSymbol, Base64.base64UrlEncode_alphabet bytes symbol inside]
  simp only [TokenSigner.body, mem_append, mem_singleton] at member
  rcases member with ((version | payload) | rfl) | tag
  · exact all_eq_true.mp (by decide) symbol version
  · exact coded _ payload
  · rfl
  · exact coded _ tag

theorem bearerToken_bearer {token : Str} (nonempty : token ≠ [])
    (symbols : ∀ symbol ∈ token, isTokenSymbol symbol = true) :
    bearerToken (some ("Bearer ".toList ++ token)) = .ret (some token) := by
  have plain : ∀ symbol ∈ token, symbol.toNat < 128 :=
    fun symbol member => (isTokenSymbol_ascii (symbols symbol member)).1
  have visible : ∀ symbol ∈ token, isWhitespace symbol = false :=
    fun symbol member => (isTokenSymbol_ascii (symbols symbol member)).2
  have trimmed : trim token = token := trim_eq_self
      (fun symbol first => visible symbol (mem_of_head? first))
      (fun symbol last => visible symbol (mem_of_getLast? last))
  have whole : trim ("Bearer ".toList ++ token) = "Bearer ".toList ++ token := by
    apply trim_eq_self
    · intro symbol first
      cases first
      decide
    · intro symbol last
      rw [getLast?_append_of_ne_nil _ nonempty] at last
      exact visible symbol (mem_of_getLast? last)
  have octets : asBytes ("Bearer ".toList ++ token) = ascii "Bearer " ++ asBytes token := by
    rw [asBytes_append]
    rfl
  obtain ⟨symbol, rest, rfl⟩ := exists_cons_of_ne_nil nonempty
  have encoded : asBytes (symbol :: rest) = symbol.toNat.toUInt8 :: asBytes rest := by
    rw [asBytes_of_ascii plain, asBytes_of_ascii fun other member => plain other (by simp [member])]
    rfl
  have boundary : isUtf8Tail symbol.toNat.toUInt8 = false := by
    have small := plain symbol (by simp)
    simp only [isUtf8Tail, Bool.and_eq_false_iff, decide_eq_false_iff_not,
      UInt8.le_iff_toNat_le, Nat.toUInt8, UInt8.toNat_ofNat']
    left
    change ¬ 128 ≤ symbol.toNat % 256
    omega
  have scheme : (ascii "Bearer ").length = 7 := by decide
  have rest7 : (ascii "Bearer " ++ asBytes (symbol :: rest)).drop 7 = asBytes (symbol :: rest) := by
    rw [← scheme, drop_left]
  have first7 : (ascii "Bearer " ++ asBytes (symbol :: rest)).take 7 = ascii "Bearer " := by
    rw [← scheme, take_left]
  have seventh : (ascii "Bearer " ++ asBytes (symbol :: rest))[7]? =
      some symbol.toNat.toUInt8 := by
    rw [encoded, getElem?_append_right (by rw [scheme]), scheme]
    rfl
  have long : ¬ (ascii "Bearer " ++ asBytes (symbol :: rest)).length ≤ 7 := by
    rw [encoded, length_append, scheme, length_cons]
    omega
  have named : isNamed (ascii "Bearer ") (ascii "Bearer ") = true := by decide
  unfold bearerToken afterScheme
  simp only [whole, octets, scheme, if_neg long, first7, rest7, named,
    isCharBoundary, seventh, boundary,
    fromUtf8_asBytes, trimmed]
  simp

/-- `path` is `base`, or goes on below it, in any ASCII case. -/
def continuesPath (path base : Str) : Bool :=
  let octets := asBytes path
  let start := asBytes base
  isNamed octets start || (decide (start.length ≤ octets.length) &&
      isCharBoundary octets start.length &&
      isNamed (octets.take start.length) start &&
      octets[start.length]? == some 47)

/-- Whether a token minted for `audience` may be used on `resourcePath`. -/
def audienceAllows (audience baseUrl resourcePath : Str) : Bool :=
  match (trimEndMatches audience '/').dropPrefix? (trimEndMatches baseUrl '/') with
  | none => false
  | some audiencePath =>
    if audiencePath = [] || audiencePath = ['/'] then true
    else if audiencePath.head? ≠ some '/' then false
    else
      continuesPath (if resourcePath = [] then ['/'] else resourcePath) audiencePath

/-- `description.replace('"', "'")`. -/
def withoutQuotes (description : Str) : Str :=
  description.map fun symbol => if symbol = '"' then '\x27' else symbol

def challenge (request : BearerGateRequest)
    (errorDescription : Option String) : OAuthHttpResponse :=
  let metadataUrl := buildResourceMetadataUrl request.baseUrl request.resourcePath
  let value := "Bearer resource_metadata=\"".toList ++ metadataUrl ++ ['"']
  match errorDescription with
  | some description =>
    (OAuthHttpResponse.json 401
      (errorBody "invalid_token" description)).addHeader "WWW-Authenticate"
      (value ++ ", error=\"invalid_token\", error_description=\"".toList ++
        withoutQuotes description.toList ++ ['"'])
  | none =>
    (OAuthHttpResponse.json 401 (errorBody "invalid_token" "Authorization is required")).addHeader
      "WWW-Authenticate" value

namespace OAuthServer

variable [Base64] [Sha256] [SerdeJson]

/-- `check_bearer`. -/
def checkBearer (server : OAuthServer) (now : Int)
    (request : BearerGateRequest) : Outcome BearerGateResult := do
  match ← bearerToken request.authorization with
  | none => return .challenge (challenge request none)
  | some token =>
    match server.signer.verify now token .access with
    | none =>
      return .challenge (challenge request (some "The access token is invalid or has expired"))
    | some verified =>
      match verified.audience with
      | none => return .allowed
      | some audience =>
        if audienceAllows audience request.baseUrl request.resourcePath then
          return .allowed
        else
          return .challenge (challenge request
            (some "The access token was issued for a different resource"))

/-- The gate lets a request through exactly on a verified access token whose
audience, if it has one, covers the resource. -/
theorem checkBearer_allowed_iff {server : OAuthServer} {now : Int} {request : BearerGateRequest} :
    server.checkBearer now request = .ret .allowed ↔
      ∃ token verified,
        bearerToken request.authorization = .ret (some token) ∧
          server.signer.verify now token .access = some verified ∧
          ∀ audience, verified.audience = some audience →
            audienceAllows audience request.baseUrl request.resourcePath =
              true := by
  unfold checkBearer
  rw [Outcome.bind_eq_ret_iff]
  constructor
  · rintro ⟨presented, read, decided⟩
    cases presented with
    | none => simp at decided
    | some token =>
      dsimp only at decided
      cases accepted : server.signer.verify now token .access with
      | none =>
        rw [accepted] at decided
        simp at decided
      | some verified =>
        rw [accepted] at decided
        refine ⟨token, verified, read, accepted, ?_⟩
        intro audience bound
        dsimp only at decided
        rw [bound] at decided
        by_cases covered : audienceAllows audience request.baseUrl request.resourcePath = true
        · exact covered
        · simp [covered] at decided
  · rintro ⟨token, verified, read, accepted, covered⟩
    refine ⟨some token, read, ?_⟩
    dsimp only
    rw [accepted]
    cases bound : verified.audience with
    | none => simp [bound]
    | some audience => simp [bound, covered audience bound]

end OAuthServer

end ReverseProxy
