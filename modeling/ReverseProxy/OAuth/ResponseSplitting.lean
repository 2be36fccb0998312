import ReverseProxy.H1ProxyServer.Pipeline.OauthGate
import ReverseProxy.H1Utils.RenderedResponse
import ReverseProxy.OAuth.HandleOauthRequest

/-!
# Responses of the OAuth endpoints on the wire

Every header of the OAuth endpoints is a fixed text but one, which starts with
the decoded redirect URI of the request.  The rendered bytes are the response
unless that URI brings in a control character.
-/

namespace ReverseProxy

open Rfc7230 Library OAuthHttpResponse Outcome List

/-! ## Values -/

/-- A character that is no control character, or a tab. -/
def isFieldSymbol (symbol : Char) : Bool :=
  symbol == '\t' || (32 ≤ symbol.toNat && symbol.toNat != 127)

theorem isFieldSymbol_ascii : ∀ number < 128,
    isFieldOctet number.toUInt8 = isFieldSymbol (Char.ofNat number) ∧
      String.utf8EncodeChar (Char.ofNat number) = [number.toUInt8] := by
  decide +kernel

theorem isFieldOctet_wide {octet : UInt8} (wide : ¬ octet < 0x80) : isFieldOctet octet = true := by
  rw [UInt8.lt_iff_toNat_lt] at wide
  simp only [isFieldOctet, Bool.or_eq_true, Bool.and_eq_true,
    decide_eq_true_eq, bne_iff_ne, UInt8.le_iff_toNat_le, ne_eq,
    ← UInt8.toNat_inj]
  simp at wide ⊢
  omega

theorem isFieldOctet_asBytes_iff {text : Str} :
    (asBytes text).all isFieldOctet = true ↔ ∀ symbol ∈ text, isFieldSymbol symbol = true := by
  rw [all_eq_true]
  constructor
  · intro octets symbol member
    by_cases narrow : symbol.toNat < 128
    · obtain ⟨same, encoded⟩ := isFieldSymbol_ascii symbol.toNat narrow
      rw [Char.ofNat_toNat] at same encoded
      rw [← same]
      apply octets
      exact mem_flatMap.mpr ⟨symbol, member, by simp [encoded]⟩
    · simp only [isFieldSymbol, Bool.or_eq_true, Bool.and_eq_true, decide_eq_true_eq, bne_iff_ne]
      omega
  · intro symbols octet member
    obtain ⟨symbol, inside, coded⟩ := mem_flatMap.mp member
    by_cases narrow : octet < 0x80
    · have source := utf8EncodeChar_of_ascii_mem coded narrow
      rw [UInt8.lt_iff_toNat_lt] at narrow
      have same := (isFieldSymbol_ascii octet.toNat narrow).1
      rw [← source] at same
      rw [show octet = octet.toNat.toUInt8 by simp, same]
      exact symbols symbol inside
    · exact isFieldOctet_wide narrow

/-- A character of printable ASCII other than the space. -/
def isVisible (symbol : Char) : Bool := 33 ≤ symbol.toNat && symbol.toNat ≤ 126

theorem isVisible_percentEncodeOctet : ∀ number < 256,
    (percentEncodeOctet number.toUInt8).all isVisible = true := by
  decide +kernel

theorem percentEncode_visible (text : Str) : (percentEncode text).all isVisible = true := by
  rw [all_eq_true]
  intro symbol member
  obtain ⟨octet, _, inside⟩ := mem_flatMap.mp member
  have visible := isVisible_percentEncodeOctet octet.toNat octet.toNat_lt
  rw [show octet.toNat.toUInt8 = octet by simp] at visible
  exact all_eq_true.mp visible symbol inside

/-- What is put behind a redirect URI. -/
structure VisibleTail (tail : Str) : Prop where
  nonempty : tail ≠ []
  visible : tail.all isVisible = true

theorem isVisible_octet {symbol : Char} (visible : isVisible symbol = true) :
    isFieldSymbol symbol = true ∧ ∃ octet, String.utf8EncodeChar symbol = [octet] ∧
        isOws octet = false := by
  have range : 33 ≤ symbol.toNat ∧ symbol.toNat ≤ 126 := by
    simpa [isVisible] using visible
  have encoded := (isFieldSymbol_ascii symbol.toNat (by omega)).2
  rw [Char.ofNat_toNat] at encoded
  refine ⟨?_, _, encoded, ?_⟩
  · simp only [isFieldSymbol, Bool.or_eq_true, Bool.and_eq_true, decide_eq_true_eq, bne_iff_ne]
    omega
  · simp only [isOws, Bool.or_eq_false_iff, beq_eq_false_iff_ne, ne_eq,
      ← UInt8.toNat_inj, Nat.toUInt8, UInt8.toNat_ofNat']
    simp
    omega

theorem isPlainHeader_location {uri tail : Str} (start : uri.head? = some 'h')
    (visibleTail : VisibleTail tail)
    (printable : ∀ symbol ∈ uri, isFieldSymbol symbol = true) :
    isPlainHeader ("Location".toList, uri ++ tail) = true := by
  have octets : (asBytes (uri ++ tail)).all isFieldOctet = true := by
    apply isFieldOctet_asBytes_iff.mpr
    intro symbol member
    rcases mem_append.mp member with inUri | inTail
    · exact printable symbol inUri
    · exact (isVisible_octet (all_eq_true.mp visibleTail.visible symbol inTail)).1
  have first : (asBytes (uri ++ tail)).head? = some 104 := by
    cases uri with
    | nil => cases start
    | cons symbol rest =>
      cases start
      rfl
  obtain ⟨octet, last, notOws⟩ : ∃ octet,
      (asBytes (uri ++ tail)).getLast? = some octet ∧ isOws octet = false := by
    obtain ⟨front, symbol, rfl⟩ := eq_nil_or_concat tail |>.resolve_left visibleTail.nonempty
    obtain ⟨_, octet, encoded, notOws⟩ := isVisible_octet
      (all_eq_true.mp visibleTail.visible symbol (by simp))
    refine ⟨octet, ?_, notOws⟩
    rw [concat_eq_append, ← append_assoc, asBytes_append, asBytes_cons, encoded]
    simp [asBytes]
  have name : asBytes "Location".toList = ascii "Location" := by decide
  have unframed : isNamed (ascii "Location") contentLenHeader = false ∧
      isNamed (ascii "Location") transferEncodingHeader = false := by decide
  have tchars : (ascii "Location").all isTchar = true := by decide
  simp only [isPlainHeader, isPlainField, name, unframed, octets, first, last,
    notOws, tchars, Option.all_some]
  decide

/-! ## Responses that do not depend on the request -/

/-- A response of which every header is read back. -/
def OAuthHttpResponse.isPlain (response : OAuthHttpResponse) : Bool :=
  isPlainStatus response.statusCode &&
    (("content-type".toList, response.contentType) :: response.headers).all isPlainHeader

/-- The rendered bytes are one response, with the headers and the body that
were built. -/
def OAuthHttpResponse.ParsesBack (response : OAuthHttpResponse) : Prop :=
  IsResponse (buildResponseBytes response) response.statusCode
    (wireFields (("content-type".toList, response.contentType) ::
      response.headers) response.body) response.body

variable {response : OAuthHttpResponse}

theorem OAuthHttpResponse.parsesBack_of_isPlain
    (plain : response.isPlain = true) : response.ParsesBack := by
  simp only [isPlain, Bool.and_eq_true, all_eq_true] at plain
  exact buildWithBody_isResponse response.body plain.1 plain.2

theorem isPlainStatus_served :
    ∀ status ∈ [200, 302, 400, 401, 404, 405, 413, 500], isPlainStatus status = true := by
  decide +kernel

theorem isPlainHeader_fixed :
    isPlainHeader ("content-type".toList, "application/json".toList) = true ∧
    isPlainHeader ("content-type".toList, contentTypeHtml) = true ∧
    isPlainHeader ("Cache-Control".toList, "no-store".toList) = true ∧
    isPlainHeader ("Cache-Control".toList, "max-age=300".toList) = true ∧
    isPlainHeader ("Pragma".toList, "no-cache".toList) = true := by
  decide +kernel

theorem isPlainHeader_allow :
    isPlainHeader ("Allow".toList, "GET".toList) = true ∧
    isPlainHeader ("Allow".toList, "POST".toList) = true ∧
    isPlainHeader ("Allow".toList, "GET, POST".toList) = true := by
  decide +kernel

theorem OAuthHttpResponse.isPlain_json {statusCode : Nat}
    (status : isPlainStatus statusCode = true) (body : Bytes) :
    (json statusCode body).isPlain = true := by
  simp only [isPlain, json, status, isPlainHeader_fixed, all_cons, all_nil, Bool.and_self]

theorem OAuthHttpResponse.isPlain_metadata (body : Bytes) :
    (metadata body).isPlain = true := by
  have status := isPlainStatus_served 200 (by decide)
  simp only [isPlain, metadata, status, isPlainHeader_fixed, all_cons,
    all_nil, Bool.and_self]

theorem OAuthHttpResponse.isPlain_html {statusCode : Nat}
    (status : isPlainStatus statusCode = true) (body : Str) :
    (html statusCode body).isPlain = true := by
  simp only [isPlain, html, status, isPlainHeader_fixed, all_cons, all_nil, Bool.and_self]

theorem OAuthHttpResponse.isPlain_addHeader {name : String} {value : Str}
    (plain : response.isPlain = true)
    (header : isPlainHeader (name.toList, value) = true) :
    (response.addHeader name value).isPlain = true := by
  simp only [isPlain, Bool.and_eq_true, all_cons] at plain
  simp only [isPlain, addHeader, all_cons, all_append, all_nil,
    plain, header, Bool.and_self]

theorem OAuthHttpResponse.isPlain_intoCredentialFailure (plain : response.isPlain = true) :
    response.intoCredentialFailure.isPlain = true :=
  plain

theorem isPlain_oauthErrorResponse {statusCode : Nat} (status : isPlainStatus statusCode = true)
    (error errorDescription : String) :
    (oauthErrorResponse statusCode error errorDescription).isPlain = true :=
  isPlain_json status _

theorem isPlain_methodNotAllowed {allowed : String}
    (header : isPlainHeader ("Allow".toList, allowed.toList) = true) :
    (methodNotAllowed allowed).isPlain = true :=
  isPlain_addHeader
    (isPlain_oauthErrorResponse (isPlainStatus_served 405 (by decide)) _ _)
    header

/-! ## Redirects -/

theorem OAuthHttpResponse.redirect_parsesBack_iff {uri tail : Str}
    (start : uri.head? = some 'h') (visibleTail : VisibleTail tail) :
    (redirect (uri ++ tail)).ParsesBack ↔
      ∀ symbol ∈ uri, isFieldSymbol symbol = true := by
  constructor
  · intro parsed
    have octets := plain_of_isResponse parsed ("Location".toList, uri ++ tail) (by simp [redirect])
    intro symbol member
    exact isFieldOctet_asBytes_iff.mp octets symbol (mem_append_left _ member)
  · intro printable
    apply parsesBack_of_isPlain
    have location := isPlainHeader_location start visibleTail printable
    have status := isPlainStatus_served 302 (by decide)
    simp only [isPlain, redirect, all_cons, all_nil, location,
      status, isPlainHeader_fixed, Bool.and_self]

variable {redirectUri : Str}

theorem isLoopbackRedirect_start (loopback : isLoopbackRedirect redirectUri = true) :
    redirectUri.head? = some 'h' := by
  unfold isLoopbackRedirect at loopback
  split at loopback
  · cases loopback
  rename_i rest found
  rw [dropPrefix?_eq_some_iff] at found
  obtain ⟨front, whole, same⟩ := found
  rw [whole, show front = "http://".toList by simpa using same]
  rfl

theorem isAllowedRedirectUri_start (allowed : isAllowedRedirectUri redirectUri = true) :
    redirectUri.head? = some 'h' := by
  unfold isAllowedRedirectUri at allowed
  rcases Bool.or_eq_true_iff.mp allowed with claude | loopback
  · rw [of_decide_eq_true claude]
    rfl
  · exact isLoopbackRedirect_start loopback

theorem VisibleTail.append {front : Str} (visibleFront : VisibleTail front)
    {rest : Str} (visible : rest.all isVisible = true) :
    VisibleTail (front ++ rest) :=
  { nonempty := by simp [visibleFront.nonempty]
    visible := by rw [all_append, visibleFront.visible, visible]; rfl }

/-- `location` continues a redirect URI with visible characters. -/
def ContinuesUri (redirectUri location : Str) : Prop :=
  ∃ tail, VisibleTail tail ∧ location = redirectUri ++ tail

theorem continuesUri_appendQuery (redirectUri : Str) :
    ContinuesUri redirectUri (appendQuery redirectUri) := by
  refine ⟨_, ⟨by simp, ?_⟩, rfl⟩
  split
  · decide
  · decide

theorem ContinuesUri.append {location : Str}
    (continues : ContinuesUri redirectUri location) {rest : Str}
    (visible : rest.all isVisible = true) :
    ContinuesUri redirectUri (location ++ rest) := by
  obtain ⟨tail, visibleTail, rfl⟩ := continues
  exact ⟨tail ++ rest, visibleTail.append visible, append_assoc _ _ _⟩

theorem ContinuesUri.appendState {location : Str}
    (continues : ContinuesUri redirectUri location) (state : Option Str) :
    ContinuesUri redirectUri (appendState location state) := by
  cases state with
  | none => exact continues
  | some state =>
    exact (continues.append (by decide)).append (percentEncode_visible state)

theorem redirectWithError_continues (redirectUri : Str) (state : Option Str)
    (error description : String) :
    ∃ location, ContinuesUri redirectUri location ∧
      redirectWithError redirectUri state error description =
        .redirect location := by
  refine ⟨_, ContinuesUri.appendState ?_ state, rfl⟩
  apply ContinuesUri.append _ (percentEncode_visible _)
  apply ContinuesUri.append _ (by decide)
  apply ContinuesUri.append _ (percentEncode_visible _)
  apply ContinuesUri.append _ (by decide)
  exact continuesUri_appendQuery redirectUri

theorem codeUrl_continues (validated : ValidatedAuthorizeRequest) (code : Str) :
    ContinuesUri validated.redirectUri (codeUrl validated code) := by
  apply ContinuesUri.appendState
  apply ContinuesUri.append _ (percentEncode_visible _)
  apply ContinuesUri.append _ (by decide)
  exact continuesUri_appendQuery validated.redirectUri

/-! ## Which requests are sent back -/

/-- What an authorize request asks for can be granted. -/
structure Grantable (parameters : Parameters) (baseUrl : Str) : Prop where
  responseType : parameters.text "response_type" = "code".toList
  challenge : parameters.text "code_challenge" ≠ []
  method : eqIgnoreAsciiCase ((parameters.lookup
    "code_challenge_method".toList).getD "S256".toList) "S256".toList = true
  resource : ∀ resource, parameters.given "resource" = some resource →
    baseUrl <+: trimEndMatches resource '/'

/-- The client and the redirect URI are trusted, so that the answer goes
through the redirect: with an error, or with a code once the owner consents. -/
structure RedirectsBack (server : OAuthServer) (request : OAuthRequest) : Prop where
  route : request.route = .authorize
  method : request.method ≠ .other
  client : server.settings.checkClientId (request.parameters.text "client_id") = true
  redirect : isAllowedRedirectUri (request.parameters.text "redirect_uri") = true
  answered : Grantable request.parameters (server.baseUrl request.baseUrl) →
    request.method = .post ∧ server.settings.checkConsentPassword
        (request.parameters.text "consent_password") = true

section

variable [OAuthPages]

theorem consentPage_isPlain (validated : ValidatedAuthorizeRequest)
    (error : Option String) : (consentPage validated error).isPlain = true := by
  apply isPlain_html
  cases error with
  | none => exact isPlainStatus_served 200 (by decide)
  | some error => exact isPlainStatus_served 401 (by decide)

theorem validate_eq_error {server : OAuthServer} {parameters : Parameters}
    {baseUrl : Str} {response : OAuthHttpResponse}
    (refused : validate server parameters baseUrl = .error response) :
    (response.isPlain = true ∧
      ¬ (server.settings.checkClientId (parameters.text "client_id") = true ∧
        isAllowedRedirectUri (parameters.text "redirect_uri") = true)) ∨
      (server.settings.checkClientId (parameters.text "client_id") = true ∧
        isAllowedRedirectUri (parameters.text "redirect_uri") = true ∧
        ¬ Grantable parameters baseUrl ∧
        ∃ location, ContinuesUri (parameters.text "redirect_uri") location ∧
          response = .redirect location) := by
  have page := isPlainStatus_served 400 (by decide)
  by_cases client : server.settings.checkClientId (parameters.text "client_id") = true
  case neg =>
    simp only [validate, client, Bool.not_false, if_true, Except.error.injEq] at refused
    subst refused
    exact Or.inl ⟨isPlain_intoCredentialFailure
      (isPlain_html page _), fun both => client both.1⟩
  by_cases redirect : isAllowedRedirectUri (parameters.text "redirect_uri") = true
  case neg =>
    simp only [validate, client, redirect, Bool.not_true, Bool.not_false,
      Bool.false_eq_true, if_true, if_false, Except.error.injEq] at refused
    subst refused
    exact Or.inl ⟨isPlain_html page _, fun both => redirect both.2⟩
  refine Or.inr ⟨client, redirect, ?_, ?_⟩
  · intro grantable
    have accepted := validate_eq_ok_iff.mpr ⟨client, redirect,
      grantable.responseType, grantable.challenge, grantable.method,
      grantable.resource, rfl⟩
    rw [accepted] at refused
    cases refused
  · simp only [validate, client, redirect, Bool.not_true, Bool.false_eq_true, if_false] at refused
    -- Each later check is answered through the redirect.
    split at refused
    · cases refused
      exact redirectWithError_continues _ _ _ _
    split at refused
    · cases refused
      exact redirectWithError_continues _ _ _ _
    split at refused
    · cases refused
      exact redirectWithError_continues _ _ _ _
    split at refused
    · cases refused
      exact redirectWithError_continues _ _ _ _
    · cases refused

end

section

variable [OAuthPages] [Base64]

theorem handleAuthorize_response {server next : OAuthServer}
    {clock : Nat → Int} {random : Bytes} {request : OAuthRequest}
    {response : OAuthHttpResponse} (route : request.route = .authorize)
    (handled : handleAuthorize server clock random request = (next, response)) :
    (response.isPlain = true ∧ ¬ RedirectsBack server request) ∨ (RedirectsBack server request ∧
        ∃ location, ContinuesUri (request.parameters.text "redirect_uri") location ∧
          response = .redirect location) := by
  by_cases other : request.method = .other
  · rw [handleAuthorize, if_pos other] at handled
    cases handled
    exact Or.inl ⟨isPlain_methodNotAllowed isPlainHeader_allow.2.2, fun back => back.method other⟩
  rw [handleAuthorize, if_neg other] at handled
  cases checked : validate server request.parameters (server.baseUrl request.baseUrl) with
  | error refusal =>
    simp only [checked, Prod.mk.injEq] at handled
    obtain ⟨rfl, rfl⟩ := handled
    rcases validate_eq_error checked with
      ⟨plain, untrusted⟩ | ⟨client, redirect, notGrantable, location⟩
    · exact Or.inl ⟨plain, fun back =>
        untrusted ⟨back.client, back.redirect⟩⟩
    refine Or.inr ⟨?_, location⟩
    exact
      { route
        method := other
        client
        redirect
        answered := fun grantable => absurd grantable notGrantable }
  | ok validated =>
    obtain ⟨client, redirect, responseType, challenge, method, resource,
      rfl⟩ := validate_eq_ok_iff.mp checked
    have grantable : Grantable request.parameters (server.baseUrl request.baseUrl) :=
      { responseType, challenge, method, resource }
    simp only [checked] at handled
    split at handled
    · rename_i get
      cases handled
      refine Or.inl ⟨consentPage_isPlain _ _, fun back => ?_⟩
      have post := (back.answered grantable).1
      rw [get] at post
      cases post
    rename_i notGet
    split at handled
    · rename_i wrong
      cases handled
      refine Or.inl ⟨isPlain_intoCredentialFailure
        (consentPage_isPlain _ _), fun back => ?_⟩
      rw [(back.answered grantable).2] at wrong
      cases wrong
    rename_i password
    cases handled
    refine Or.inr ⟨?_, _, codeUrl_continues _ _, rfl⟩
    refine
      { route
        method := other
        client
        redirect
        answered := fun _ => ⟨?_, by simpa using password⟩ }
    cases sent : request.method with
    | get => exact absurd sent notGet
    | post => rfl
    | other => exact absurd sent other

end

theorem invalidClient_isPlain (fromBasic : Bool) : (invalidClient fromBasic).isPlain = true := by
  have refusal := isPlain_oauthErrorResponse (isPlainStatus_served 401 (by decide))
  cases fromBasic with
  | false => exact refusal _ _
  | true =>
    exact isPlain_addHeader (refusal _ _) (by decide +kernel)

section

variable [Base64] [Sha256] [SerdeJson]

section

variable (server : OAuthServer) (clock : Nat → Int)

theorem mint_isPlain (scope : Str) (audience : Option Str) :
    (mint server clock scope audience).2.isPlain = true := by
  unfold mint
  split
  · exact isPlain_json (isPlainStatus_served 500 (by decide)) _
  · exact isPlain_json (isPlainStatus_served 200 (by decide)) _

theorem exchangeAuthorizationCode_isPlain (parameters : Parameters) :
    (exchangeAuthorizationCode server clock parameters).2.isPlain = true := by
  have refusal := isPlain_oauthErrorResponse (isPlainStatus_served 400 (by decide))
  unfold exchangeAuthorizationCode
  dsimp only
  split
  · exact refusal _ _
  split
  · exact refusal _ _
  split
  · exact refusal _ _
  split
  · exact refusal _ _
  split
  · exact refusal _ _
  · exact mint_isPlain _ _ _ _

theorem refresh_isPlain (parameters : Parameters) :
    (refresh server clock parameters).2.isPlain = true := by
  have refusal := isPlain_oauthErrorResponse (isPlainStatus_served 400 (by decide))
  unfold refresh
  dsimp only
  split
  · exact refusal _ _
  split
  · exact refusal _ _
  · exact mint_isPlain _ _ _ _

theorem grantTokens_isPlain (parameters : Parameters) :
    (grantTokens server clock parameters).2.isPlain = true := by
  unfold grantTokens
  split
  · split
    · exact exchangeAuthorizationCode_isPlain server clock parameters
    split
    · exact refresh_isPlain server clock parameters
    · exact isPlain_json (isPlainStatus_served 400 (by decide)) _
  · exact isPlain_oauthErrorResponse (isPlainStatus_served 400 (by decide)) _ _

end

theorem handleToken_isPlain {server next : OAuthServer} {clock : Nat → Int}
    {request : OAuthRequest} {response : OAuthHttpResponse}
    (handled : handleToken server clock request = .ret (next, response)) :
    response.isPlain = true := by
  unfold handleToken at handled
  split at handled
  · cases handled
    exact isPlain_methodNotAllowed isPlainHeader_allow.2.1
  dsimp only at handled
  split at handled
  · cases handled
    exact isPlain_json (isPlainStatus_served 400 (by decide)) _
  obtain ⟨presented, _, answered⟩ := bind_eq_ret_iff.mp handled
  cases presented with
  | none =>
    cases answered
    exact invalidClient_isPlain false
  | some presented =>
    dsimp only at answered
    split at answered
    · cases answered
      exact invalidClient_isPlain presented.fromBasic
    have granted := ret.inj answered
    rw [show response = (grantTokens server clock request.parameters).2 by
      rw [granted]]
    exact grantTokens_isPlain server clock request.parameters

variable [OAuthPages]

/-- Every answer is one whose headers are fixed, or sends the browser back. -/
theorem handleOauthRequest_response {server next : OAuthServer}
    {clock : Nat → Int} {random : Bytes} {request : OAuthRequest}
    {response : OAuthHttpResponse}
    (handled : handleOauthRequest server clock random request = .ret (next, response)) :
    (response.isPlain = true ∧ ¬ RedirectsBack server request) ∨ (RedirectsBack server request ∧
        ∃ location, ContinuesUri (request.parameters.text "redirect_uri") location ∧
          response = .redirect location) := by
  have elsewhere : request.route ≠ .authorize → ¬ RedirectsBack server request :=
    fun route back => route back.route
  unfold handleOauthRequest at handled
  split at handled
  · rename_i route
    refine Or.inl ⟨?_, elsewhere (by simp [route])⟩
    split at handled
    · cases handled
      exact isPlain_methodNotAllowed isPlainHeader_allow.1
    · cases handled
      exact isPlain_metadata _
  · rename_i resourcePath route
    refine Or.inl ⟨?_, elsewhere (by simp [route])⟩
    split at handled
    · cases handled
      exact isPlain_methodNotAllowed isPlainHeader_allow.1
    cases handled
    unfold protectedResourceMetadata
    split
    · exact isPlain_oauthErrorResponse (isPlainStatus_served 404 (by decide)) _ _
    · exact isPlain_metadata _
  · rename_i route
    exact handleAuthorize_response route (ret.inj handled)
  · rename_i route
    exact Or.inl ⟨handleToken_isPlain handled, elsewhere (by simp [route])⟩

/-- The rendered answer is the one that was built exactly if a redirect URI
that is followed holds no control character. -/
theorem parsesBack_iff_printable_redirect {server next : OAuthServer}
    {clock : Nat → Int} {random : Bytes} {request : OAuthRequest}
    {response : OAuthHttpResponse}
    (handled : handleOauthRequest server clock random request = .ret (next, response)) :
    response.ParsesBack ↔
      (RedirectsBack server request →
        ∀ symbol ∈ request.parameters.text "redirect_uri", isFieldSymbol symbol = true) := by
  rcases handleOauthRequest_response handled with
    ⟨plain, staying⟩ | ⟨back, location, ⟨tail, visible, rfl⟩, rfl⟩
  · exact iff_of_true (parsesBack_of_isPlain plain)
      (fun back => absurd back staying)
  · rw [redirect_parsesBack_iff
      (isAllowedRedirectUri_start back.redirect) visible]
    exact ⟨fun printable _ => printable, fun printable => printable back⟩

end

section

attribute [local instance] letters sumDigest plainSerde blankPages

private def callbackServer : OAuthServer :=
  .new { clientId := ['c'], clientSecret := ['s'], consentPassword := ['p'] } [7]

private def callbackRequest (redirectUri : Str) : OAuthRequest :=
  { method := .get
    route := .authorize
    baseUrl := "https://h".toList
    query := some ("client_id=c&redirect_uri=".toList ++ redirectUri)
    body := []
    contentType := none
    authorization := none
    knownResourcePaths := [] }

private def midday : Nat → Int := fun _ => 0

/-- The location of a redirect that refuses the response type. -/
private def refusedType : Str := ("?error=unsupported_response_type&error_description=" ++
    "Only%20the%20authorization%20code%20flow%20is%20supported").toList

theorem parsesBack_iff_printable_redirect_loopback :
    handleOauthRequest callbackServer midday [] (callbackRequest "http://localhost/".toList) =
      .ret (callbackServer, .redirect ("http://localhost/".toList ++ refusedType)) ∧
      ((redirect ("http://localhost/".toList ++ refusedType)).ParsesBack ↔
        (RedirectsBack callbackServer (callbackRequest "http://localhost/".toList) →
          ∀ symbol ∈ (callbackRequest "http://localhost/".toList).parameters.text "redirect_uri",
            isFieldSymbol symbol = true)) := by
  have handled : handleOauthRequest callbackServer midday []
      (callbackRequest "http://localhost/".toList) =
        .ret (callbackServer, .redirect ("http://localhost/".toList ++ refusedType)) := by
    decide +kernel
  exact ⟨handled, parsesBack_iff_printable_redirect handled⟩

/-- A line break in the path of a loopback redirect adds a header. -/
theorem redirect_uri_adds_header :
    handleOauthRequest callbackServer midday []
        (callbackRequest "http://localhost/%0D%0AX:%20y".toList) =
      .ret (callbackServer, .redirect ("http://localhost/\r\nX: y".toList ++ refusedType)) ∧
      IsResponse (buildResponseBytes (.redirect
          ("http://localhost/\r\nX: y".toList ++ refusedType))) 302
        (wireFields [("content-type".toList, contentTypeHtml),
          ("Location".toList, "http://localhost/".toList),
          ("X".toList, 'y' :: refusedType),
          ("Cache-Control".toList, "no-store".toList)] []) [] ∧
      ¬ (redirect
        ("http://localhost/\r\nX: y".toList ++ refusedType)).ParsesBack := by
  have rendered : buildResponseBytes (.redirect
      ("http://localhost/\r\nX: y".toList ++ refusedType)) =
        buildWithBody 302 [("content-type".toList, contentTypeHtml),
          ("Location".toList, "http://localhost/".toList),
          ("X".toList, 'y' :: refusedType),
          ("Cache-Control".toList, "no-store".toList)] [] := by
    decide +kernel
  have visible : VisibleTail refusedType := ⟨by decide +kernel, by decide +kernel⟩
  refine ⟨by decide +kernel, ?_, ?_⟩
  · rw [rendered]
    exact buildWithBody_isResponse [] (by decide +kernel) (by decide +kernel)
  · intro parsed
    have printable := (redirect_parsesBack_iff (by rfl) visible).mp parsed
    exact absurd (printable '\r' (by decide)) (by decide)

end

end ReverseProxy
