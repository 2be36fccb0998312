import ReverseProxy.Library.Runs
import ReverseProxy.OAuth.HandleOauthRequest

/-!
# Access traces back to a consent

The OAuth block as a machine that serves any sequence of requests.  Whatever
the requests and the clock are, a token the gate accepts descends from one
authorization code that a user agreed to.
-/

namespace ReverseProxy

open Library OAuthServer Outcome AuthCodes OAuthHttpResponse

/-- One served request, with the readings of the clock and the random octets
it used. -/
structure OAuthEntry where
  clock : Nat → Int
  random : Bytes
  request : OAuthRequest
  response : OAuthHttpResponse

namespace OAuthEntry

def text (entry : OAuthEntry) (name : String) : Str := entry.request.parameters.text name

/-- The request got tokens for `code`. -/
def redeems (code : Str) (entry : OAuthEntry) : Bool := entry.request.route = .token &&
    entry.request.parameters.lookup "grant_type".toList = some "authorization_code".toList &&
    entry.text "code" = code && entry.response.statusCode = 200

end OAuthEntry

/-- What a user agreed to, and the code that stands for it. -/
structure Consent where
  code : Str
  redirectUri : Str
  codeChallenge : Str
  scope : Str
  resource : Option Str

section

variable [Base64]

/-- The code was issued to a `POST` with the right password. -/
structure Consent.GivenBy (settings : OAuthSettings) (entry : OAuthEntry)
    (consent : Consent) : Prop where
  route : entry.request.route = .authorize
  post : entry.request.method = .post
  password : trim (entry.text "consent_password") = trim settings.consentPassword
  allowed : isAllowedRedirectUri consent.redirectUri = true
  redirectUri : entry.text "redirect_uri" = consent.redirectUri
  codeChallenge : entry.text "code_challenge" = consent.codeChallenge
  scope : consent.scope = grantedScope (entry.request.parameters.lookup "scope".toList)
  resource : consent.resource = entry.request.parameters.given "resource"
  code : consent.code = base64UrlEncode entry.random
  sent : ∃ state, entry.response =
    .redirect (appendState (appendQuery consent.redirectUri ++
      "code=".toList ++ percentEncode consent.code) state)

/-- The client showed the configured secret, as it is or form-encoded. -/
def RightClient (settings : OAuthSettings) (request : OAuthRequest) : Prop := ∃ presented,
    presentedClient request.authorization request.parameters = .ret (some presented) ∧
      matchesClientId settings presented.clientId = true ∧
      (presented.clientSecret = trim settings.clientSecret ∨
        formUrlDecode presented.clientSecret = trim settings.clientSecret)

/-- A request of the client that was answered with tokens. -/
structure TokenGrant (settings : OAuthSettings) (entry : OAuthEntry)
    (grantType : String) : Prop where
  route : entry.request.route = .token
  post : entry.request.method = .post
  client : RightClient settings entry.request
  grantType : entry.request.parameters.lookup "grant_type".toList = some grantType.toList
  answered : entry.response.statusCode = 200

variable [Sha256]

/-- The code was exchanged with the redirect it was issued for and a verifier
of its challenge. -/
structure Consent.ExchangedBy (settings : OAuthSettings) (entry : OAuthEntry)
    (consent : Consent) : Prop
    extends TokenGrant settings entry "authorization_code" where
  code : entry.text "code" = consent.code
  redirectUri : entry.text "redirect_uri" = consent.redirectUri
  verifier : s256 (entry.text "code_verifier") = consent.codeChallenge

variable [SerdeJson]

/-- `body` is signed in this request for a token with the scope and the
audience of the consent. -/
def Consent.SignedBy (settings : OAuthSettings) (entry : OAuthEntry)
    (kind : TokenKind) (body : Str) (consent : Consent) : Prop :=
  MintedBody settings (match kind with
      | .access => entry.clock 1
      | .refresh => entry.clock 2) consent.scope consent.resource kind body

/-- Tokens that descend from a consent: the code is issued, later exchanged,
and refresh tokens are traded in for new ones.  The latest request comes
first. -/
inductive Consent.Grants (consent : Consent) (settings : OAuthSettings) :
    List OAuthEntry → TokenKind → Str → Prop where
  | exchanged {served : List OAuthEntry} {entry issue : OAuthEntry} {kind : TokenKind} {body : Str}
      (issued : issue ∈ served)
      (given : consent.GivenBy settings issue)
      (exchanged : consent.ExchangedBy settings entry)
      (signed : consent.SignedBy settings entry kind body) :
      Grants consent settings (entry :: served) kind body
  | refreshed {served : List OAuthEntry} {entry : OAuthEntry}
      {kind : TokenKind} {old body signature : Str}
      (earlier : Grants consent settings served .refresh old)
      (grant : TokenGrant settings entry "refresh_token")
      (presented : rsplitOnce '.' (entry.text "refresh_token") = some (old, signature))
      (signed : consent.SignedBy settings entry kind body) :
      Grants consent settings (entry :: served) kind body
  | later {served : List OAuthEntry} {entry : OAuthEntry} {kind : TokenKind}
      {body : Str} (earlier : Grants consent settings served kind body) :
      Grants consent settings (entry :: served) kind body

/-! ## The machine -/

structure OAuthHistory where
  server : OAuthServer
  served : List OAuthEntry

inductive OAuthLabel where
  | served (entry : OAuthEntry)
  | rehashed
  | restarted

/-- Codes are fresh, and a refresh token with a valid tag was signed here. -/
def IdealSecrets (history : OAuthHistory) : OAuthLabel → Prop
  | .served entry =>
    (∀ consent : Consent, consent.GivenBy history.server.settings entry →
      ∀ earlier ∈ history.served, ∀ other : Consent, other.GivenBy history.server.settings earlier →
          other.code ≠ consent.code) ∧
      history.server.signer.Unforged (entry.text "refresh_token")
  | .rehashed => True
  | .restarted => True

/-! ## What a token request can do -/

/-- Either no tokens are handed out, or a code is exchanged, or a refresh
token is traded in. -/
inductive TokenResult (server : OAuthServer) (clock : Nat → Int)
    (request : OAuthRequest) : OAuthServer × OAuthHttpResponse → Prop where
  | refused {next : OAuthServer} {response : OAuthHttpResponse}
      (settings : next.settings = server.settings)
      (signer : next.signer = server.signer)
      (codes : ∀ entry ∈ next.codes, entry ∈ server.codes)
      (status : response.statusCode ≠ 200) :
      TokenResult server clock request (next, response)
  | exchanged {issued : AuthCode} (post : request.method = .post)
      (client : RightClient server.settings request)
      (grantType : request.parameters.lookup "grant_type".toList = some "authorization_code".toList)
      (taken : (server.codes.take (clock 0) (request.parameters.text "code")).2 = some issued)
      (redirectUri : request.parameters.text "redirect_uri" = issued.redirectUri)
      (verifier : s256 (request.parameters.text "code_verifier") = issued.codeChallenge) :
      TokenResult server clock request
        (mint { server with codes := (server.codes.take (clock 0)
          (request.parameters.text "code")).1 } clock issued.scope
          issued.resource)
  | refreshed {verified : VerifiedToken} (post : request.method = .post)
      (client : RightClient server.settings request)
      (grantType : request.parameters.lookup "grant_type".toList = some "refresh_token".toList)
      (accepted : server.signer.verify (clock 0)
        (request.parameters.text "refresh_token") .refresh = some verified) :
      TokenResult server clock request (mint server clock verified.scope verified.audience)

variable {server : OAuthServer} {clock : Nat → Int} {request : OAuthRequest}

private theorem TokenResult.unchanged
    {response : OAuthHttpResponse} (status : response.statusCode ≠ 200) :
    TokenResult server clock request (server, response) :=
  .refused rfl rfl (fun _ member => member) status

section

variable (post : request.method = .post) (client : RightClient server.settings request)

include post client

theorem exchangeAuthorizationCode_cases
    (grantType : request.parameters.lookup "grant_type".toList = some "authorization_code".toList) :
    TokenResult server clock request
      (exchangeAuthorizationCode server clock request.parameters) := by
  rcases exchangeAuthorizationCode_eq server clock request.parameters with
    ⟨codes, response, result, kept, status⟩ | ⟨issued, taken, redirectUri, verifier, result⟩
  · rw [result]
    exact .refused rfl rfl kept status
  · rw [result]
    exact .exchanged post client grantType taken redirectUri verifier

theorem refresh_cases
    (grantType : request.parameters.lookup "grant_type".toList = some "refresh_token".toList) :
    TokenResult server clock request (refresh server clock request.parameters) := by
  unfold refresh
  dsimp only
  split
  · exact TokenResult.unchanged (by decide)
  cases accepted : server.signer.verify (clock 0)
      (request.parameters.text "refresh_token") .refresh with
  | none => exact TokenResult.unchanged (by decide)
  | some verified => exact .refreshed post client grantType accepted

theorem grantTokens_cases :
    TokenResult server clock request (grantTokens server clock request.parameters) := by
  unfold grantTokens
  cases grantType : request.parameters.lookup "grant_type".toList with
  | none => exact TokenResult.unchanged (by decide)
  | some given =>
    dsimp only
    split
    · rename_i exchange
      rw [exchange] at grantType
      exact exchangeAuthorizationCode_cases post client grantType
    split
    · rename_i renewal
      rw [renewal] at grantType
      exact refresh_cases post client grantType
    · exact TokenResult.unchanged (by simp [json])

end

theorem handleToken_cases {result : OAuthServer × OAuthHttpResponse}
    (handled : handleToken server clock request = .ret result) :
    TokenResult server clock request result := by
  unfold handleToken at handled
  split at handled
  · cases handled
    exact TokenResult.unchanged (by decide)
  rename_i post
  dsimp only at handled
  split at handled
  · cases handled
    exact TokenResult.unchanged (by simp [json])
  obtain ⟨presented, read, decided⟩ := bind_eq_ret_iff.mp handled
  cases presented with
  | none =>
    cases decided
    exact TokenResult.unchanged (by decide)
  | some presented =>
    dsimp only at decided
    split at decided
    · cases decided
      apply TokenResult.unchanged
      cases presented.fromBasic with
      | false => decide
      | true => decide
    rename_i proved
    cases decided
    simp only [Bool.or_eq_true, Bool.not_eq_true', not_or, Bool.not_eq_false] at proved
    refine grantTokens_cases (not_not.mp post) ⟨presented, read, proved.1, ?_⟩
    simpa [matchesClientSecret, OAuthSettings.checkClientSecret_iff]
      using proved.2

theorem mint_eq (server : OAuthServer) (clock : Nat → Int) (scope : Str) (audience : Option Str) :
    ∃ signed minted,
      mint server clock scope audience =
          ({ server with
              signer := { server.signer with
                signed := signed ++ server.signer.signed } },
            .json 200 (tokenResponseBody minted)) ∧
        ∀ body ∈ signed, ∃ kind : TokenKind, MintedBody server.settings (match kind with
              | .access => clock 1
              | .refresh => clock 2) scope audience kind body := by
  obtain ⟨signed, minted, result, bodies⟩ := server.mintTokens_eq (clock 1) (clock 2) scope audience
  refine ⟨signed, minted, by rw [mint, result], ?_⟩
  intro body member
  rcases bodies body member with access | refresh
  · exact ⟨.access, access⟩
  · exact ⟨.refresh, refresh⟩

/-! ## The invariant -/

/-- The consent a stored code stands for. -/
def Consent.of (code : Str) (issued : AuthCode) : Consent :=
  { code
    redirectUri := issued.redirectUri
    codeChallenge := issued.codeChallenge
    scope := issued.scope
    resource := issued.resource }

def Consent.Issued (settings : OAuthSettings) (served : List OAuthEntry)
    (consent : Consent) : Prop :=
  ∃ issue ∈ served, consent.GivenBy settings issue

/-- Stored codes were agreed to and are unused, signed bodies descend from a
code that was used once. -/
structure OAuthHistory.Traced (settings : OAuthSettings) (history : OAuthHistory) : Prop where
  sameSettings : history.server.settings = settings
  codes : ∀ code issued, (code, issued) ∈ history.server.codes →
    (Consent.of code issued).Issued settings history.served ∧
      history.served.countP (OAuthEntry.redeems code) = 0
  signed : ∀ body ∈ history.server.signer.signed,
    ∃ (consent : Consent) (kind : TokenKind), consent.Grants settings history.served kind body ∧
        history.served.countP (OAuthEntry.redeems consent.code) = 1
  redeemed : ∀ code, 0 < history.served.countP (OAuthEntry.redeems code) →
    ∃ consent : Consent, consent.Issued settings history.served ∧ consent.code = code

variable {settings : OAuthSettings} {served : List OAuthEntry} {consent : Consent}

omit [SerdeJson] [Sha256] in
theorem Consent.Issued.later {entry : OAuthEntry} (issued : consent.Issued settings served) :
    consent.Issued settings (entry :: served) := by
  obtain ⟨issue, member, given⟩ := issued
  exact ⟨issue, List.mem_cons_of_mem _ member, given⟩

theorem Consent.Grants.payload {kind : TokenKind}
    {body : Str} (grants : consent.Grants settings served kind body) :
    ∃ exp bytes, IsI64 exp ∧ toVec
          { k := kind.asStr
            exp
            sc := consent.scope
            aud := consent.resource } = .ok bytes ∧
        body = TokenSigner.body bytes := by
  induction grants with
  | exchanged _ _ _ signed | refreshed _ _ _ signed =>
    obtain ⟨bytes, written, same⟩ := signed
    exact ⟨_, bytes, addI64_isI64 _ _, written, same⟩
  | later _ ih => exact ih

theorem Consent.Grants.verified {kind expected : TokenKind}
    {signer : TokenSigner} {now : Int} {token body : Str} {verified : VerifiedToken}
    (grants : consent.Grants settings served kind body)
    (tagged : signer.Tagged token body)
    (accepted : signer.verify now token expected = some verified) :
    kind = expected ∧ verified = { scope := consent.scope, audience := consent.resource } := by
  obtain ⟨exp, bytes, range, written, rfl⟩ := grants.payload
  have only : ∀ other, signer.Tagged token other → other = TokenSigner.body bytes :=
    fun other otherTagged => otherTagged.unique tagged
  obtain ⟨parsed, _, same⟩ := TokenSigner.verified_of_tagged range written only accepted
  rw [TokenKind.parse_asStr] at parsed
  exact ⟨Option.some.inj parsed, same⟩

/-! ## Steps -/

variable [OAuthPages]

/-- A request that panics changes nothing and is left out.  The map of codes
may change the order it iterates in, and a restart loses the codes but not the
signing key. -/
inductive OAuthStep : OAuthHistory → OAuthLabel → OAuthHistory → Prop where
  | served {history : OAuthHistory} {entry : OAuthEntry} {next : OAuthServer}
      (answered : handleOauthRequest history.server entry.clock entry.random
        entry.request = .ret (next, entry.response)) :
      OAuthStep history (.served entry)
        { server := next
          served := entry :: history.served }
  | rehashed {history : OAuthHistory} {codes : AuthCodes} (same : codes.Perm history.server.codes) :
      OAuthStep history .rehashed { history with server := { history.server with codes } }
  | restarted {history : OAuthHistory} :
      OAuthStep history .restarted { history with server := { history.server with codes := [] } }

namespace OAuthHistory.Traced

variable {settings : OAuthSettings} {history : OAuthHistory} {entry : OAuthEntry}

variable {next : OAuthServer}

omit [OAuthPages] in
/-- A request that redeems nothing keeps every count. -/
theorem quiet (traced : history.Traced settings)
    (sameSettings : next.settings = history.server.settings)
    (codes : ∀ code issued, (code, issued) ∈ next.codes →
      (Consent.of code issued).Issued settings (entry :: history.served) ∧
        history.served.countP (OAuthEntry.redeems code) = 0)
    (signed : ∀ body ∈ next.signer.signed,
      ∃ (consent : Consent) (kind : TokenKind),
        consent.Grants settings (entry :: history.served) kind body ∧
          history.served.countP (OAuthEntry.redeems consent.code) = 1)
    (unredeemed : ∀ code, OAuthEntry.redeems code entry = false) :
    Traced settings { server := next, served := entry :: history.served } := by
  have counts : ∀ code, (entry :: history.served).countP (OAuthEntry.redeems code) =
        history.served.countP (OAuthEntry.redeems code) := by
    intro code
    rw [List.countP_cons_of_neg (by simp [unredeemed code])]
  refine ⟨sameSettings.trans traced.sameSettings, ?_, ?_, ?_⟩
  · intro code issued member
    rw [counts]
    exact codes code issued member
  · intro body member
    obtain ⟨consent, kind, grants, once⟩ := signed body member
    exact ⟨consent, kind, grants, by rw [counts]; exact once⟩
  · intro code positive
    rw [counts] at positive
    obtain ⟨consent, issued, same⟩ := traced.redeemed code positive
    exact ⟨consent, issued.later, same⟩

omit [OAuthPages] in
theorem keptCodes {code : Str} {issued : AuthCode} (traced : history.Traced settings)
    (member : (code, issued) ∈ history.server.codes) :
    (Consent.of code issued).Issued settings (entry :: history.served) ∧
      history.served.countP (OAuthEntry.redeems code) = 0 := by
  obtain ⟨given, unused⟩ := traced.codes code issued member
  exact ⟨given.later, unused⟩

omit [OAuthPages] in
theorem keptSigned {body : Str} (traced : history.Traced settings)
    (member : body ∈ history.server.signer.signed) :
    ∃ (consent : Consent) (kind : TokenKind),
      consent.Grants settings (entry :: history.served) kind body ∧
        history.served.countP (OAuthEntry.redeems consent.code) = 1 := by
  obtain ⟨consent, kind, grants, once⟩ := traced.signed body member
  exact ⟨consent, kind, .later grants, once⟩

omit [OAuthPages] in
/-- Nothing happens but that the request is recorded and codes may go. -/
theorem unchanged (traced : history.Traced settings)
    (sameSettings : next.settings = history.server.settings)
    (sameSigner : next.signer = history.server.signer)
    (fewer : ∀ stored ∈ next.codes, stored ∈ history.server.codes)
    (unredeemed : ∀ code, OAuthEntry.redeems code entry = false) :
    Traced settings { server := next, served := entry :: history.served } := by
  apply traced.quiet sameSettings _ _ unredeemed
  · intro code issued member
    exact traced.keptCodes (fewer _ member)
  · intro body member
    rw [sameSigner] at member
    exact traced.keptSigned member

/-- The authorize endpoint stores only codes a user agreed to. -/
theorem authorize (traced : history.Traced settings)
    (ideal : IdealSecrets history (.served entry))
    (route : entry.request.route = .authorize)
    (handled : handleAuthorize history.server entry.clock entry.random
      entry.request = (next, entry.response)) :
    Traced settings { server := next, served := entry :: history.served } := by
  have unredeemed : ∀ code, OAuthEntry.redeems code entry = false := by
    intro code
    simp [OAuthEntry.redeems, route]
  rcases handleAuthorize_cases handled with
    rfl | ⟨validated, post, checked, password, issue⟩
  · exact traced.unchanged rfl rfl (fun _ member => member) unredeemed
  obtain ⟨_, allowed, _, _, _, _, rfl⟩ := validate_eq_ok_iff.mp checked
  obtain ⟨rfl, response⟩ := Prod.mk.inj issue
  have given : ∀ expiry, (Consent.of (base64UrlEncode entry.random)
      { redirectUri := entry.request.parameters.text "redirect_uri"
        codeChallenge := entry.request.parameters.text "code_challenge"
        scope := grantedScope (entry.request.parameters.lookup "scope".toList)
        resource := entry.request.parameters.given "resource"
        expiresAtSec := expiry }).GivenBy settings entry := by
    intro expiry
    refine ⟨route, post, ?_, allowed, rfl, rfl, rfl, rfl, rfl, ⟨_, response.symm⟩⟩
    rw [← traced.sameSettings]
    exact OAuthSettings.checkConsentPassword_iff.mp password
  have unused : history.served.countP
      (OAuthEntry.redeems (base64UrlEncode entry.random)) = 0 := by
    by_contra used
    obtain ⟨consent, ⟨earlier, member, given'⟩, same⟩ :=
      traced.redeemed _ (Nat.pos_of_ne_zero used)
    have now := given 0
    rw [← traced.sameSettings] at now given'
    exact ideal.1 _ now earlier member consent given' same
  refine traced.quiet ?_ ?_ ?_ unredeemed
  · rfl
  · intro code issued member
    rcases mem_of_mem_add member with same | stored
    · cases same
      exact ⟨⟨entry, by simp, given _⟩, unused⟩
    · exact traced.keptCodes stored
  · intro body member
    exact traced.keptSigned member

omit [OAuthPages] in
/-- Exchanging a code signs tokens of its consent and uses it up. -/
theorem exchange {issued : AuthCode} (traced : history.Traced settings)
    (route : entry.request.route = .token)
    (post : entry.request.method = .post)
    (client : RightClient history.server.settings entry.request)
    (grantType : entry.request.parameters.lookup "grant_type".toList =
      some "authorization_code".toList)
    (taken : (history.server.codes.take (entry.clock 0) (entry.text "code")).2 = some issued)
    (redirectUri : entry.text "redirect_uri" = issued.redirectUri)
    (verifier : s256 (entry.text "code_verifier") = issued.codeChallenge)
    (minted : mint { history.server with codes := (history.server.codes.take
      (entry.clock 0) (entry.text "code")).1 } entry.clock issued.scope
      issued.resource = (next, entry.response)) :
    Traced settings { server := next, served := entry :: history.served } := by
  obtain ⟨signed, tokens, result, bodies⟩ := mint_eq
    { history.server with codes := (history.server.codes.take
      (entry.clock 0) (entry.text "code")).1 } entry.clock issued.scope
    issued.resource
  rw [minted] at result
  obtain ⟨rfl, response⟩ := Prod.mk.inj result
  have status : entry.response.statusCode = 200 := by rw [response]; rfl
  have redeems : ∀ code, OAuthEntry.redeems code entry = decide (entry.text "code" = code) := by
    intro code
    simp only [OAuthEntry.redeems, route, grantType, status, decide_true,
      Bool.true_and, Bool.and_true]
  have count : ∀ code, entry.text "code" ≠ code →
      (entry :: history.served).countP (OAuthEntry.redeems code) =
        history.served.countP (OAuthEntry.redeems code) := by
    intro code other
    rw [List.countP_cons_of_neg (by simp [redeems, other])]
  obtain ⟨⟨issue, issuedBefore, given⟩, unused⟩ := traced.codes _ _ (mem_of_take taken).1
  have countSelf : (entry :: history.served).countP
      (OAuthEntry.redeems (entry.text "code")) = 1 := by
    rw [List.countP_cons_of_pos (by simp [redeems]), unused]
  refine ⟨traced.sameSettings, ?_, ?_, ?_⟩
  · intro code stored member
    obtain ⟨kept, other⟩ := mem_of_mem_take member
    rw [count code (Ne.symm other)]
    exact traced.keptCodes kept
  · intro body member
    rcases List.mem_append.mp member with fresh | old
    · obtain ⟨kind, body⟩ := bodies body fresh
      refine ⟨Consent.of (entry.text "code") issued, kind, ?_, countSelf⟩
      rw [traced.sameSettings] at client
      have signedBy := body
      dsimp only at signedBy
      rw [traced.sameSettings] at signedBy
      exact .exchanged issuedBefore given
        { route, post, client, grantType, answered := status, code := rfl,
          redirectUri, verifier } signedBy
    · obtain ⟨consent, kind, grants, once⟩ := traced.signed body old
      refine ⟨consent, kind, .later grants, ?_⟩
      rw [count consent.code, once]
      intro same
      rw [same, once] at unused
      exact absurd unused (by decide)
  · intro code positive
    by_cases same : entry.text "code" = code
    · exact ⟨_, Consent.Issued.later ⟨issue, issuedBefore, given⟩, same⟩
    · rw [count code same] at positive
      obtain ⟨consent, earlier, same⟩ := traced.redeemed code positive
      exact ⟨consent, earlier.later, same⟩

omit [OAuthPages] in
theorem renew {verified : VerifiedToken} (traced : history.Traced settings)
    (unforged : history.server.signer.Unforged (entry.text "refresh_token"))
    (route : entry.request.route = .token)
    (post : entry.request.method = .post)
    (client : RightClient history.server.settings entry.request)
    (grantType : entry.request.parameters.lookup "grant_type".toList = some "refresh_token".toList)
    (accepted : history.server.signer.verify (entry.clock 0)
      (entry.text "refresh_token") .refresh = some verified)
    (minted : mint history.server entry.clock verified.scope
      verified.audience = (next, entry.response)) :
    Traced settings { server := next, served := entry :: history.served } := by
  obtain ⟨signed, tokens, result, bodies⟩ := mint_eq history.server
    entry.clock verified.scope verified.audience
  rw [minted] at result
  obtain ⟨rfl, response⟩ := Prod.mk.inj result
  have unredeemed : ∀ code, OAuthEntry.redeems code entry = false := by
    intro code
    have different : some "refresh_token".toList ≠ some "authorization_code".toList := by decide
    simp only [OAuthEntry.redeems, grantType, different, decide_false,
      Bool.and_false, Bool.false_and]
  obtain ⟨body, _, _, _, _, tagged, _⟩ := TokenSigner.verify_eq_some accepted
  obtain ⟨consent, kind, grants, once⟩ := traced.signed body (unforged body tagged)
  obtain ⟨rfl, rfl⟩ := grants.verified tagged accepted
  obtain ⟨signature, presented, _⟩ := tagged
  refine traced.quiet ?_ ?_ ?_ unredeemed
  · rfl
  · intro code issued member
    exact traced.keptCodes member
  · intro fresh member
    rcases List.mem_append.mp member with new | old
    · obtain ⟨kind, signedBy⟩ := bodies fresh new
      refine ⟨consent, kind, ?_, once⟩
      rw [traced.sameSettings] at client signedBy
      exact .refreshed grants { route, post, client, grantType, answered := by rw [response]; rfl }
        presented signedBy
    · exact traced.keptSigned old

theorem step {label : OAuthLabel} {next : OAuthHistory}
    (traced : history.Traced settings) (ideal : IdealSecrets history label)
    (stepped : OAuthStep history label next) : next.Traced settings := by
  cases stepped with
  | rehashed same =>
    refine ⟨traced.sameSettings, ?_, traced.signed, traced.redeemed⟩
    intro code issued member
    exact traced.codes code issued (same.mem_iff.mp member)
  | restarted =>
    refine ⟨traced.sameSettings, ?_, traced.signed, traced.redeemed⟩
    intro code issued member
    simp at member
  | @served entry after answered =>
    have other : entry.request.route ≠ .token → ∀ code, OAuthEntry.redeems code entry = false := by
      intro different code
      simp [OAuthEntry.redeems, different]
    have same : after = history.server → entry.request.route ≠ .token →
        Traced settings { server := after, served := entry :: history.served } := by
      rintro rfl different
      exact traced.unchanged rfl rfl (fun _ member => member) (other different)
    unfold handleOauthRequest at answered
    cases route : entry.request.route with
    | authorizationServerMetadata =>
      simp only [route] at answered
      split at answered
      all_goals exact same (Prod.mk.inj (ret.inj answered)).1.symm (by simp [route])
    | protectedResourceMetadata resourcePath =>
      simp only [route] at answered
      split at answered
      all_goals exact same (Prod.mk.inj (ret.inj answered)).1.symm (by simp [route])
    | authorize =>
      simp only [route] at answered
      exact traced.authorize ideal route (ret.inj answered)
    | token =>
      simp only [route] at answered
      have result := handleToken_cases answered
      generalize pair : (after, entry.response) = outcome at result
      cases result with
      | refused sameSettings sameSigner fewer status =>
        cases pair
        apply traced.unchanged sameSettings sameSigner fewer
        intro code
        simp [OAuthEntry.redeems, status]
      | exchanged post client grantType taken redirectUri verifier =>
        exact traced.exchange route post client grantType taken redirectUri verifier pair.symm
      | refreshed post client grantType accepted =>
        exact traced.renew ideal.2 route post client grantType accepted pair.symm

end OAuthHistory.Traced

/-! ## Runs -/

/-- Over every sequence of requests and every clock, the gate only lets a
request through whose token descends from one consent: its code was given out
to a `POST` with the right password, exchanged once, and scope and audience
are those of the consent. -/
theorem allowed_traces_to_consent {settings : OAuthSettings} {key : Bytes}
    {last : OAuthHistory} {now : Int} {request : BearerGateRequest}
    (run : Run OAuthStep IdealSecrets { server := .new settings key, served := [] } last)
    (allowed : last.server.checkBearer now request = .ret .allowed)
    (unforged : ∀ token, bearerToken request.authorization =
      .ret (some token) → last.server.signer.Unforged token) :
    ∃ (token body : Str) (consent : Consent),
      bearerToken request.authorization = .ret (some token) ∧ last.server.signer.Tagged token body ∧
        consent.Grants settings last.served .access body ∧
        last.served.countP (OAuthEntry.redeems consent.code) = 1 ∧
        last.server.signer.verify now token .access =
          some { scope := consent.scope, audience := consent.resource } := by
  have initially : OAuthHistory.Traced settings { server := .new settings key, served := [] } := by
    refine ⟨rfl, ?_, ?_, ?_⟩
    · intro code issued member
      cases member
    · intro body member
      cases member
    · intro code positive
      simp at positive
  have traced : last.Traced settings := run.invariant initially fun traced => traced.step
  obtain ⟨token, verified, presented, accepted, _⟩ := checkBearer_allowed_iff.mp allowed
  obtain ⟨body, _, _, _, _, tagged, _⟩ := TokenSigner.verify_eq_some accepted
  obtain ⟨consent, kind, grants, once⟩ := traced.signed body (unforged token presented body tagged)
  obtain ⟨rfl, rfl⟩ := grants.verified tagged accepted
  exact ⟨token, body, consent, presented, tagged, grants, once, accepted⟩

end

/-! ## A consent and its token -/

section

attribute [local instance] letters sumDigest plainSerde blankPages

private def homeSettings : OAuthSettings :=
  { clientId := ['c']
    clientSecret := ['s']
    consentPassword := ['p']
    accessTokenTtlSec := some 9 }

private def form (route : OAuthRoute) (pairs : List String) : OAuthRequest :=
  { method := .post
    route
    baseUrl := "https://h".toList
    query := none
    body := [38].intercalate (pairs.map ascii)
    contentType := none
    authorization := none
    knownResourcePaths := [] }

private def consentForm : OAuthRequest :=
  form .authorize ["client_id=c", "redirect_uri=http://localhost",
    "response_type=code", "code_challenge=hg", "resource=https://h/m",
    "consent_password=p"]

private def consenting : OAuthEntry :=
  { clock := fun _ => 0
    random := [1]
    request := consentForm
    response := .redirect "http://localhost?code=ab".toList }

private def consented : OAuthServer :=
  { settings := homeSettings
    signer := { key := [7] }
    codes := [(['a', 'b'],
      { redirectUri := "http://localhost".toList
        codeChallenge := ['h', 'g']
        scope := "mcp".toList
        resource := some "https://h/m".toList
        expiresAtSec := 300 })] }

private def exchangeForm : OAuthRequest := form .token ["grant_type=authorization_code", "code=ab",
    "redirect_uri=http://localhost", "code_verifier=v", "client_id=c",
    "client_secret=s"]

private def accessBody : Str := TokenSigner.body (writeText ['a'] ++ (writeInt 10 ++
    (writeText "mcp".toList ++ 1 :: writeText "https://h/m".toList)))

/-- The block after a consent and the exchange of its code. -/
private def grantedServer : OAuthServer :=
  { settings := homeSettings
    signer := { key := [7], signed := [accessBody] } }

private def accessToken : Str := accessBody ++ ['.'] ++
    lettersEncode (grantedServer.signer.tag accessBody)

private def exchanging : OAuthEntry :=
  { clock := fun _ => 1
    random := []
    request := exchangeForm
    response := .json 200 (tokenResponseBody
      { accessToken
        refreshToken := none
        expiresIn := 9
        scope := "mcp".toList }) }

private def granted : OAuthHistory :=
  { server := grantedServer
    served := [exchanging, consenting] }

private def proxied : BearerGateRequest :=
  { authorization := some ("Bearer ".toList ++ accessToken)
    baseUrl := "https://h".toList
    resourcePath := "/m".toList }

private theorem unforged_of_undotted {signer : TokenSigner} {token : Str}
    (undotted : rsplitOnce '.' token = none) : signer.Unforged token := by
  rintro body ⟨signature, found, _⟩
  rw [undotted] at found
  contradiction

private theorem consent_run :
    Run OAuthStep IdealSecrets { server := .new homeSettings [7], served := [] } granted := by
  have agreed : OAuthStep { server := .new homeSettings [7], served := [] } (.served consenting)
      { server := consented, served := [consenting] } :=
    .served (by decide +kernel)
  have redeemed : OAuthStep { server := consented, served := [consenting] }
      (.served exchanging) granted :=
    .served (by decide +kernel)
  have freshCode : IdealSecrets { server := .new homeSettings [7], served := [] }
      (.served consenting) := by
    refine ⟨fun _ _ _ member => absurd member (by simp), ?_⟩
    exact unforged_of_undotted (by decide +kernel)
  have noCode : IdealSecrets { server := consented, served := [consenting] }
      (.served exchanging) := by
    refine ⟨fun _ given => absurd given.route (by decide +kernel), ?_⟩
    exact unforged_of_undotted (by decide +kernel)
  exact .step (.step (.start _) freshCode agreed) noCode redeemed

private theorem proxied_token : bearerToken proxied.authorization = .ret (some accessToken) := by
  decide +kernel

private theorem proxied_allowed : granted.server.checkBearer 2 proxied = .ret .allowed := by
  refine checkBearer_allowed_iff.mpr ⟨accessToken,
    { scope := "mcp".toList, audience := some "https://h/m".toList },
    proxied_token, by decide +kernel, ?_⟩
  intro audience bound
  cases bound
  decide +kernel

private theorem proxied_unforged :
    granted.server.signer.Unforged accessToken := by
  have split : rsplitOnce '.' accessToken = some (accessBody,
      lettersEncode (granted.server.signer.tag accessBody)) := by
    decide +kernel
  have signed : accessBody ∈ granted.server.signer.signed := by
    decide +kernel
  rintro body ⟨signature, found, _⟩
  rw [split, Option.some.injEq, Prod.mk.injEq] at found
  rw [← found.1]
  exact signed

theorem allowed_traces_to_consent_granted :
    granted.server.checkBearer 2 proxied = .ret .allowed ∧ ∃ (token body : Str) (consent : Consent),
        bearerToken proxied.authorization = .ret (some token) ∧
          granted.server.signer.Tagged token body ∧
          consent.Grants homeSettings granted.served .access body ∧
          granted.served.countP (OAuthEntry.redeems consent.code) = 1 ∧
          granted.server.signer.verify 2 token .access =
            some { scope := consent.scope, audience := consent.resource } := by
  have unforged : ∀ token, bearerToken proxied.authorization =
      .ret (some token) → granted.server.signer.Unforged token := by
    intro token presented
    rw [proxied_token, ret.injEq, Option.some.injEq] at presented
    rw [← presented]
    exact proxied_unforged
  exact ⟨proxied_allowed, allowed_traces_to_consent consent_run proxied_allowed unforged⟩

end

end ReverseProxy
