import ReverseProxy.Configurations.TextSlices
import ReverseProxy.H1ProxyServer.Pipeline.ReaderSteps
import ReverseProxy.HttpProxyPass.HandleOauth
import ReverseProxy.OAuth.HandleOauthRequest

/-!
# The bearer gate behind the locations of an endpoint

The gate compares the audience of a token with the path of the location a
request resolves to.  This file says what the search for a location does and
what the path rules of the OAuth core decide.
-/

namespace ReverseProxy

open HttpEndpointInfo List

/-! ## Paths up to ASCII case -/

theorem toLowerCase_eq_slash {octet : UInt8} (same : toLowerCase octet = 47) : octet = 47 := by
  unfold toLowerCase at same
  split at same
  · rename_i upper
    simp only [UInt8.le_iff_toNat_le, ← UInt8.toNat_inj, UInt8.toNat_add,
      UInt8.toNat_sub] at upper same
    simp at upper same
    omega
  · exact same

/-- `path` is `base`, or goes on below it with a slash, in any ASCII case. -/
def Continues (path base : Bytes) : Prop :=
  ∃ head tail, path = head ++ tail ∧ isNamed head base = true ∧ (tail = [] ∨ tail.head? = some 47)

theorem Continues.self (path : Bytes) : Continues path path :=
  ⟨path, [], by simp, isNamed_self path, Or.inl rfl⟩

theorem Continues.trans {path middle base : Bytes}
    (outer : Continues path middle) (inner : Continues middle base) :
    Continues path base := by
  obtain ⟨head, tail, rfl, sameMiddle, next⟩ := outer
  obtain ⟨start, rest, rfl, sameBase, nextInner⟩ := inner
  obtain ⟨first, second, rfl, sameStart, sameRest⟩ := isNamed_split sameMiddle
  refine ⟨first, second ++ tail, by simp, isNamed_trans sameStart sameBase, ?_⟩
  cases second with
  | nil => simpa using next
  | cons octet second =>
    have lengths := isNamed_length sameRest
    cases rest with
    | nil => simp at lengths
    | cons slash rest =>
      simp only [head?_cons, Option.some.injEq, reduceCtorEq, false_or] at nextInner
      have folded := isNamed_iff.mp sameRest
      simp only [map_cons, List.cons.injEq, nextInner] at folded
      have same : octet = 47 := toLowerCase_eq_slash folded.1
      simp [same]

theorem Continues.slashes {path base : Bytes} (count : Nat) (inner : Continues path base) :
    Continues (path ++ replicate count 47) base := by
  refine Continues.trans ⟨path, replicate count 47, rfl, isNamed_self path, ?_⟩ inner
  cases count with
  | zero => exact Or.inl rfl
  | succ count => exact Or.inr rfl

variable {path : Str}

theorem continuesPath_iff {base : Str} :
    continuesPath path base = true ↔ Continues (asBytes path) (asBytes base) := by
  unfold continuesPath Continues
  dsimp only
  simp only [Bool.or_eq_true, Bool.and_eq_true, decide_eq_true_eq, beq_iff_eq]
  constructor
  · rintro (whole | ⟨⟨⟨fits, _⟩, start⟩, slash⟩)
    · exact ⟨_, [], by simp, whole, Or.inl rfl⟩
    · refine ⟨_, _, (take_append_drop (asBytes base).length _).symm, start, Or.inr ?_⟩
      rw [head?_drop]
      exact slash
  · rintro ⟨head, tail, joined, same, nothing | slash⟩
    · rw [joined, nothing, append_nil]
      exact Or.inl same
    · have length := isNamed_length same
      have next : (asBytes path)[(asBytes base).length]? = some 47 := by
        rw [joined, ← length, getElem?_append_right (Nat.le_refl _)]
        rw [head?_eq_getElem?] at slash
        simpa using slash
      refine Or.inr ⟨⟨⟨?_, ?_⟩, ?_⟩, next⟩
      · rw [joined, length_append]
        omega
      · simp [isCharBoundary, next, isUtf8Tail]
      · rw [joined, ← length, take_left]
        exact same

/-! ## The search for a location -/

/-- The search for `path` ends at a location with this path: it starts `path`,
or it cuts `path` inside a character and the slice panics. -/
def StopsAt (path location : Bytes) : Prop := location.length ≤ path.length ∧
    (isCharBoundary path location.length = false ∨
      isNamed (path.take location.length) location = true)

/-- The first location that ends the search decides its result. -/
inductive LocationSearch (path : Bytes) (locations : List ProxyPassLocationConfig) :
    Outcome (Option ProxyPassLocationConfig) → Prop where
  | absent (passed : ∀ location ∈ locations, ¬ StopsAt path (asBytes location.path)) :
      LocationSearch path locations (.ret none)
  | cut {before after : List ProxyPassLocationConfig} {location : ProxyPassLocationConfig}
      (split : locations = before ++ location :: after)
      (passed : ∀ earlier ∈ before, ¬ StopsAt path (asBytes earlier.path))
      (fits : (asBytes location.path).length ≤ path.length)
      (inside : isCharBoundary path (asBytes location.path).length = false) :
      LocationSearch path locations .panic
  | found {before after : List ProxyPassLocationConfig} {location : ProxyPassLocationConfig}
      (split : locations = before ++ location :: after)
      (passed : ∀ earlier ∈ before, ¬ StopsAt path (asBytes earlier.path))
      (fits : (asBytes location.path).length ≤ path.length)
      (starts : isNamed (path.take (asBytes location.path).length) (asBytes location.path) = true) :
      LocationSearch path locations (.ret (some location))

theorem LocationSearch.skip {path : Bytes} {location : ProxyPassLocationConfig}
    {locations : List ProxyPassLocationConfig}
    {result : Outcome (Option ProxyPassLocationConfig)}
    (passes : ¬ StopsAt path (asBytes location.path))
    (search : LocationSearch path locations result) :
    LocationSearch path (location :: locations) result := by
  have both : ∀ {before : List ProxyPassLocationConfig},
      (∀ earlier ∈ before, ¬ StopsAt path (asBytes earlier.path)) →
        ∀ earlier ∈ location :: before, ¬ StopsAt path (asBytes earlier.path) := by
    intro before passed earlier member
    rcases mem_cons.mp member with rfl | later
    · exact passes
    · exact passed earlier later
  cases search with
  | absent passed => exact .absent (both passed)
  | cut split passed fits inside =>
    exact .cut (by rw [split]; rfl) (both passed) fits inside
  | found split passed fits starts =>
    exact .found (by rw [split]; rfl) (both passed) fits starts

theorem findLocationIn_search (path : Bytes) (locations : List ProxyPassLocationConfig) :
    LocationSearch path locations (findLocationIn path locations) := by
  induction locations with
  | nil => exact .absent (by simp)
  | cons location locations ih =>
    unfold findLocationIn
    dsimp only
    split
    · rename_i longer
      exact ih.skip fun stops => absurd stops.1 (by omega)
    rename_i fits
    split
    · rename_i inside
      exact .cut (nil_append _).symm (by simp) (by omega) (by simpa using inside)
    rename_i boundary
    split
    · rename_i starts
      exact .found (nil_append _).symm (by simp) (by omega) starts
    rename_i differs
    apply ih.skip
    rintro ⟨_, inside | starts⟩
    · exact boundary (by simp [inside])
    · exact differs starts

/-! ## Normalised paths -/

/-- A path read with its leading slash. -/
def asPath (path : Str) : Str :=
  if path.head? = some '/' then path else '/' :: path

theorem exists_slashes (path : Str) :
    ∃ count, path = trimEndMatches path '/' ++ replicate count '/' := by
  refine ⟨(path.rtakeWhile (· == '/')).length, ?_⟩
  have slashes : path.rtakeWhile (· == '/') =
      replicate (path.rtakeWhile (· == '/')).length '/' := by
    apply eq_replicate_of_mem
    intro symbol member
    simpa using mem_rtakeWhile_imp member
  rw [trimEndMatches, ← slashes]
  exact (rdropWhile_append_rtakeWhile ..).symm

theorem trimEndMatches_getLast (nonempty : trimEndMatches path '/' ≠ []) :
    (trimEndMatches path '/').getLast nonempty ≠ '/' := by
  have last := rdropWhile_last_not (· == '/') path nonempty
  rw [beq_iff_eq] at last
  exact last

theorem trimEndMatches_eq_self (closed : path.getLast? ≠ some '/') :
    trimEndMatches path '/' = path := by
  apply (rdropWhile_eq_self_iff ..).mpr
  intro nonempty slash
  apply closed
  rw [getLast?_eq_some_getLast nonempty]
  simpa using slash

theorem trimEndMatches_append {base : Str} (trimmed : trimEndMatches base '/' = base) :
    trimEndMatches (base ++ path) '/' = base ++ trimEndMatches path '/' := by
  induction path using reverseRecOn with
  | nil => simpa [trimEndMatches] using trimmed
  | append_singleton path symbol ih =>
    unfold trimEndMatches at ih ⊢
    rw [← append_assoc, rdropWhile_concat, rdropWhile_concat]
    split
    · exact ih
    · rw [append_assoc]

theorem normalizeResourcePath_eq (path : Str) :
    normalizeResourcePath path =
      if trimEndMatches path '/' = [] then ['/']
      else asPath (trimEndMatches path '/') := by
  unfold normalizeResourcePath asPath
  rfl

theorem asPath_append (rest : Str) (nonempty : path ≠ []) :
    asPath (path ++ rest) = asPath path ++ rest := by
  cases path with
  | nil => exact absurd rfl nonempty
  | cons symbol path =>
    unfold asPath
    by_cases slash : symbol = '/'
    · simp [slash]
    · simp [slash]

theorem asBytes_replicate_slash (count : Nat) :
    asBytes (replicate count '/') = replicate count 47 := by
  induction count with
  | zero => rfl
  | succ count ih =>
    rw [replicate_succ, replicate_succ, asBytes_cons, ih]
    rfl

theorem continues_normalizeResourcePath (deeper : trimEndMatches path '/' ≠ []) :
    Continues (asBytes (asPath path)) (asBytes (normalizeResourcePath path)) := by
  obtain ⟨count, joined⟩ := exists_slashes path
  rw [normalizeResourcePath_eq, if_neg deeper]
  have split : asPath path = asPath (trimEndMatches path '/') ++ replicate count '/' := by
    rw [← asPath_append _ deeper, ← joined]
  rw [split, asBytes_append, asBytes_replicate_slash]
  exact (Continues.self _).slashes count

/-! ## Audiences -/

/-- For an audience on this server the gate looks at the path behind the base
URL, without its trailing slashes. -/
theorem audienceAllows_iff {baseUrl resourcePath : Str}
    (trimmed : trimEndMatches baseUrl '/' = baseUrl) :
    audienceAllows (baseUrl ++ path) baseUrl resourcePath = true ↔
      trimEndMatches path '/' = [] ∨ (trimEndMatches path '/').head? = some '/' ∧
          Continues (asBytes (if resourcePath = [] then ['/']
            else resourcePath)) (asBytes (trimEndMatches path '/')) := by
  have stripped : (trimEndMatches (baseUrl ++ path) '/').dropPrefix?
      (trimEndMatches baseUrl '/') = some (trimEndMatches path '/') := by
    rw [trimEndMatches_append trimmed, trimmed]
    exact dropPrefix?_eq_some_iff.mpr ⟨baseUrl, by simp, by simp⟩
  have notSlash : trimEndMatches path '/' ≠ ['/'] := by
    intro same
    have nonempty : trimEndMatches path '/' ≠ [] := by simp [same]
    exact trimEndMatches_getLast nonempty (by simp [same])
  unfold audienceAllows
  rw [stripped]
  by_cases root : trimEndMatches path '/' = []
  · simp [root]
  · by_cases slash : (trimEndMatches path '/').head? = some '/'
    · simp [root, notSlash, slash, continuesPath_iff]
    · simp [root, notSlash, slash]

/-! ## The gate of an endpoint -/

namespace OAuthServer

theorem baseUrl_trimmed (server : OAuthServer) (requestBaseUrl : Str) :
    trimEndMatches (server.baseUrl requestBaseUrl) '/' =
      server.baseUrl requestBaseUrl := by
  unfold baseUrl
  cases configured : server.settings.publicUrl with
  | none =>
    simp only [publicUrl, configured, Option.map_none]
    exact rdropWhile_idempotent ..
  | some url =>
    simp only [publicUrl, configured, Option.map_some]
    exact rdropWhile_idempotent ..

variable [Base64] [Sha256] [SerdeJson]

/-- What the gates of both pipelines ask about a proxied request. -/
def gate (server : OAuthServer) (now : Int) (info : HttpEndpointInfo)
    (authorization : Option Str) (requestBaseUrl path : Str) :
    Outcome BearerGateResult := do
  let resourcePath ← gateResourcePath info path
  server.checkBearer now
    { authorization
      baseUrl := server.baseUrl requestBaseUrl
      resourcePath }

/-- The abstract context of the pipelines answers as this block does. -/
structure ActsAs (server : OAuthServer) (now : Int) (context : OAuthContext) : Prop where
  publicUrl : context.publicUrl = server.publicUrl
  checkBearer : ∀ request result,
    server.checkBearer now request = .ret result → context.checkBearer request = result

theorem ActsAs.baseUrl {server : OAuthServer} {now : Int}
    {context : OAuthContext} (acts : server.ActsAs now context)
    (requestBaseUrl : Str) :
    context.baseUrl requestBaseUrl = server.baseUrl requestBaseUrl := by
  unfold OAuthContext.baseUrl OAuthServer.baseUrl
  cases found : server.publicUrl with
  | none | some url => simp only [acts.publicUrl, found]

end OAuthServer

section

variable [SliceOfU8Ext]

theorem RequestFacts.gateResourcePath {info : HttpEndpointInfo}
    {headers : Http1Headers} {buffer : Bytes} {request : RequestFacts}
    (facts : RequestFacts.read info headers buffer = .ret request) :
    ReverseProxy.gateResourcePath info request.path =
      .ret request.resourcePath := by
  simp only [RequestFacts.read, Outcome.bind_eq_ret_iff] at facts
  obtain ⟨⟨method, pathAndQuery⟩, _, host, _, location, search, authorization,
    _, contentType, _, made⟩ := facts
  cases made
  unfold ReverseProxy.gateResourcePath
  rw [search]
  cases location with
  | none => rfl
  | some location => rfl

variable [Base64] [Sha256] [SerdeJson]

/-- The HTTP/1 pipeline lets a proxied request on exactly if the gate allows
it. -/
theorem runOauthGate_proceed_iff_gate {app : AppCtx} {reader : H1Reader}
    {info : HttpEndpointInfo} {headers : Http1Headers} {oauthId : Str}
    {context : OAuthContext} {server : OAuthServer} {now : Int}
    {buffer : Bytes} {request : RequestFacts} {result : BearerGateResult}
    (configured : info.oauth = some oauthId)
    (loaded : app.oauthCredentials.lookup oauthId = some context)
    (acts : server.ActsAs now context)
    (data : reader.buffer.getData = .ret buffer)
    (facts : RequestFacts.read info headers buffer = .ret request)
    (proxied : routeOauthPath request.path = .ret none)
    (decided : server.gate now info request.authorization request.baseUrl
      request.path = .ret result) :
    runOauthGate app reader info headers = .ret (reader, .proceed) ↔ result = .allowed := by
  have answered : context.checkBearer
      { authorization := request.authorization
        baseUrl := context.baseUrl request.baseUrl
        resourcePath := request.resourcePath } = result := by
    apply acts.checkBearer
    rw [acts.baseUrl]
    simpa [OAuthServer.gate, RequestFacts.gateResourcePath facts]
      using decided
  unfold runOauthGate
  rw [configured]
  dsimp only
  rw [loaded]
  simp only [data, facts, proxied, Outcome.bind_ret, gateProxiedRequest, answered]
  cases result with
  | allowed => simp
  | challenge response =>
    simp only [reduceCtorEq, iff_false]
    exact answer_not_proceed

end

end ReverseProxy
