import ReverseProxy.OAuth.AudienceSoundness
import ReverseProxy.OAuth.ConsentTrace

/-!
# From the metadata document to the gate

A client reads the `resource` of a path from its metadata document and gets a
token for it.  The token opens the path exactly if the search for the path ends
at a location with this very path, or at none.
-/

namespace ReverseProxy

open Library HttpEndpointInfo TokenSigner Outcome Consent

/-! ## Searching for a normalised path -/

/-- A normalised path other than the root. -/
structure DeeperPath (path : Str) : Prop where
  slash : path.head? = some '/'
  closed : path.getLast? ≠ some '/'

variable {path : Str}

section

variable (deeper : DeeperPath path)

include deeper

theorem DeeperPath.nonempty : path ≠ [] := by
  intro empty
  simpa [empty] using deeper.slash

theorem DeeperPath.ne_root : path ≠ ['/'] := by
  rintro rfl
  exact deeper.closed rfl

theorem DeeperPath.trimmed : trimEndMatches path '/' = path :=
  trimEndMatches_eq_self deeper.closed

theorem DeeperPath.normal : normalizeResourcePath path = path := by
  rw [normalizeResourcePath_eq, deeper.trimmed, if_neg deeper.nonempty, asPath, if_pos deeper.slash]

end

section

variable [Base64] [Sha256] [SerdeJson]

/-- An access token as it was handed out for a consent to `resource`, good
until `exp`. -/
def ObtainedToken (history : OAuthHistory) (resource : Str) (exp : Int) (token : Str) : Prop :=
  ∃ (consent : Consent) (bytes : Bytes), consent.resource = some resource ∧
      consent.Grants history.server.settings history.served .access (body bytes) ∧
      IsI64 exp ∧
      toVec
          { k := TokenKind.access.asStr
            exp
            sc := consent.scope
            aud := consent.resource } = .ok bytes ∧
      token = body bytes ++ ['.'] ++
        base64UrlEncode (history.server.signer.tag (body bytes))

variable {info : HttpEndpointInfo}

variable {path : Str}

theorem ObtainedToken.gate_allowed_iff {history : OAuthHistory}
    {requestBaseUrl token resourcePath : Str} {exp now : Int} (obtained : ObtainedToken history
      (buildResourceUrl (history.server.baseUrl requestBaseUrl) path) exp
      token) (alive : now < exp) (normal : path = ['/'] ∨ DeeperPath path)
    (resolved : gateResourcePath info path = .ret resourcePath) :
    history.server.gate now info (some ("Bearer ".toList ++ token))
        requestBaseUrl path = .ret .allowed ↔
      path = ['/'] ∨ Continues (asBytes resourcePath) (asBytes path) := by
  obtain ⟨consent, bytes, resource, _, range, written, rfl⟩ := obtained
  have presented : bearerToken (some ("Bearer ".toList ++
      (body bytes ++ ['.'] ++ base64UrlEncode
        (history.server.signer.tag (body bytes))))) =
      .ret (some _) :=
    bearerToken_bearer (by simp) fun symbol member =>
      isTokenSymbol_token member
  obtain ⟨rest, url, rooted⟩ : ∃ rest,
      buildResourceUrl (history.server.baseUrl requestBaseUrl) path =
          history.server.baseUrl requestBaseUrl ++ rest ∧
        trimEndMatches rest '/' = if path = ['/'] then [] else path := by
    rcases normal with root | deeper
    · exact ⟨[], by simp [buildResourceUrl, root], by rw [if_pos root]; rfl⟩
    · exact ⟨path,
        by simp [buildResourceUrl, deeper.ne_root, deeper.nonempty],
        by rw [if_neg deeper.ne_root]; exact deeper.trimmed⟩
  have accepted : history.server.signer.verify now (body bytes ++
      ['.'] ++ base64UrlEncode (history.server.signer.tag (body bytes))) .access =
      some
        { scope := consent.scope
          audience := some (history.server.baseUrl requestBaseUrl ++ rest) } := by
    rw [verify_token range written rfl alive, resource, url]
  have named : resourcePath ≠ [] := by
    simp only [gateResourcePath, bind_eq_ret_iff] at resolved
    obtain ⟨location, _, resolved⟩ := resolved
    cases location with
    | none | some location =>
      cases resolved
      exact normalizeResourcePath_ne_nil _
  rw [OAuthServer.gate_allowed_iff presented accepted resolved, rooted, if_neg named]
  rcases normal with root | deeper
  · simp [root]
  · simp only [deeper.ne_root, if_false, deeper.nonempty, deeper.slash, false_or, true_and]

/-! ## A client that follows the document -/

private def visitorSettings : OAuthSettings :=
  { clientId := ['c'], clientSecret := ['s'], consentPassword := ['p'] }

/-- The code the user agreed to. -/
private def agreed (resource : Str) : AuthCode :=
  { redirectUri := "http://localhost".toList
    codeChallenge := s256 ['v']
    scope := mcpScope.toList
    resource := some resource
    expiresAtSec := 300 }

private def visited (resource : Str) : OAuthServer :=
  { settings := visitorSettings
    signer := .new []
    codes := [(base64UrlEncode [1], agreed resource)] }

variable [OAuthPages]

variable {resource : Str}

end

/-! ## Two endpoints -/

section

attribute [local instance] letters sumDigest plainSerde blankPages

private def endpointAt (location : String) : HttpEndpointInfo :=
  { hostEndpoint := { src := "h:443".toList, port := some 443, index := some 1 }
    listenEndpointType := .mcp
    locations := [{ path := location.toList, proxyPassTo := .drop }] }

end

end ReverseProxy
