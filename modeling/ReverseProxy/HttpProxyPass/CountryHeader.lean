import ReverseProxy.H1ProxyServer.RequestFraming
import ReverseProxy.H1ProxyServer.UpstreamHead
import ReverseProxy.HttpProxyPass.ProcessHeaders

/-!
# The country of the client in `CF-IPCountry`

With country injection only the country looked up for the client may reach the
upstream.  The HTTP/1 pipeline drops what the client sent; the hyper pipeline
replaces it, if there is something to replace it with.
-/

namespace ReverseProxy

open Library Rfc7230 Http1Headers

def countryHeader : Bytes := ascii "cf-ipcountry"

/-! ## The HTTP/1 pipeline -/

theorem mem_fieldValues_iff {header value : Bytes} {lines : List Bytes} :
    value ∈ fieldValues header lines ↔ ∃ line ∈ lines, value ∈ fieldValues header [line] := by
  rw [fieldValues, rawValues_eq_flatMap, List.map_flatMap, List.mem_flatMap]
  rfl

section

variable [Platform] {context : CompileContext} {head : MessageHead}

theorem rawValues_country_copiedLine (injects : context.kind.injectCountry = true) (line : Bytes) :
    rawValues countryHeader (copiedLine context line).toList = [] := by
  unfold copiedLine
  cases split : splitField line with
  | none => rfl
  | some field =>
    obtain ⟨name, value⟩ := field
    obtain ⟨rfl, absent⟩ := splitField_eq_some_iff.mp split
    dsimp only
    unfold copiedField
    rw [injects, Bool.true_and]
    cases named : isNamed name countryHeader with
    | true =>
      have notForwarded : isNamed name (ascii "x-forwarded-for") = false :=
        isNamed_exclusive named (by decide)
      rw [notForwarded, show isNamed name (ascii "cf-ipcountry") = true from named]
      split
      · rfl
      · rfl
    | false =>
      have original : rawValues countryHeader [name ++ 58 :: value] = [] := by
        rw [rawValues_field absent, named]
        rfl
      split
      · rfl
      split
      · split
        · exact rawValues_headerLine (by decide)
        · exact original
      · split
        · rfl
        · exact original

theorem trimOws_country {code : Bytes} (found : clientCountry context = some code) :
    trimOws (32 :: code) = code := by
  have solid : ∀ octet ∈ code, isOws octet = false := by
    intro octet member
    have letter := (clientCountry_letters found member).1
    cases blank : isOws octet with
    | false => rfl
    | true =>
      have either : octet = 32 ∨ octet = 9 := by
        simpa [isOws] using blank
      rcases either with rfl | rfl
      · exact absurd letter (by decide)
      · exact absurd letter (by decide)
  rw [show 32 :: code = [32] ++ code from rfl,
    trimOws_blanks_append code (by simp [isOws]), trimOws_of_solid solid]

theorem country_of_clientLines (injects : context.kind.injectCountry = true)
    {line value : Bytes} (member : line ∈ clientLines context head)
    (named : value ∈ fieldValues countryHeader [line]) :
    clientCountry context = some value := by
  simp only [clientLines, List.mem_append] at member
  rcases member with (copy | address) | country
  · obtain ⟨original, _, copied⟩ := List.mem_filterMap.mp copy
    have none := rawValues_country_copiedLine injects original
    rw [copied, Option.toList_some] at none
    rw [fieldValues, none] at named
    cases named
  · obtain ⟨_, _, rfl⟩ := addressHeaders_line address
    rw [fieldValues, rawValues_headerLine (by decide)] at named
    cases named
  · obtain ⟨_, code, found, rfl⟩ := countryHeaders_line country
    have spaced : fieldValues countryHeader
        [headerLine (ascii "CF-IPCountry") code] = [trimOws (32 :: code)] := by
      rw [fieldValues, rawValues_headerLine (by decide)]
      rfl
    rw [spaced, trimOws_country found, List.mem_singleton] at named
    rw [named]
    exact found

/-- The configuration brings no other country into the head. -/
def InsertsNoCountry (context : CompileContext) (head : MessageHead) (rest : Bytes) : Prop :=
  ∀ configured,
    filledHeaders context head rest context.kind.modifyHeaders.addHeaders = some configured →
      ∀ line ∈ (insertedLines context head configured).takeWhile (· ≠ []),
        ∀ value ∈ fieldValues countryHeader [line], clientCountry context = some value

theorem country_upstreamLines_iff (injects : context.kind.injectCountry = true)
    (configured : List Bytes) :
    (∀ value ∈ fieldValues countryHeader (upstreamLines context head configured),
      clientCountry context = some value) ↔
      ∀ line ∈ (insertedLines context head configured).takeWhile (· ≠ []),
        ∀ value ∈ fieldValues countryHeader [line], clientCountry context = some value := by
  constructor
  · intro looked line member value named
    exact looked value (mem_fieldValues_iff.mpr ⟨line, inserted_mem_upstreamLines member, named⟩)
  · intro inserted value member
    obtain ⟨line, inside, named⟩ := mem_fieldValues_iff.mp member
    rcases mem_upstreamLines inside with client | visible | response
    · exact country_of_clientLines injects client named
    · exact inserted line visible value named
    rcases responseHeaders_cases response with rfl | rfl
    all_goals
      rw [fieldValues, rawValues_headerLine (by decide)] at named
      cases named

end

section

variable [SliceOfU8Ext] [StrUtils] [Platform]

/-- Every country the upstream reads is the one looked up for the client. -/
def SendsLookedUpCountry (context : CompileContext) (src : Bytes) : Prop :=
  ∀ headers, parse src = .ret (some headers) →
    context.kind.injectCountry = true → SendsLines context src headers fun lines =>
        ∀ value ∈ fieldValues countryHeader lines, clientCountry context = some value

theorem sendsLookedUpCountry_iff (context : CompileContext) (src : Bytes) :
    SendsLookedUpCountry context src ↔
      ∀ (head : MessageHead) (rest : Bytes), src = head.bytes ++ rest →
        Passable head rest →
          context.kind.injectCountry = true →
            HeadCompiles context head rest →
              InsertsNoCountry context head rest := by
  constructor
  · rintro sends head rest rfl passable injects compiles configured filled
    obtain ⟨headers, accepted⟩ := parse_accepts_iff.mpr passable
    exact (country_upstreamLines_iff injects configured).mp
      ((sendsLines_iff accepted).mp (sends headers accepted injects) compiles configured filled)
  · intro inserts headers accepted injects
    obtain ⟨head, rest, rfl⟩ := exists_head_of_parse accepted
    rw [sendsLines_iff accepted]
    intro compiles configured filled
    exact (country_upstreamLines_iff injects configured).mpr (inserts head rest rfl
        (parse_accepts_iff.mp ⟨headers, accepted⟩) injects compiles configured filled)

end

/-! ## The hyper pipeline -/

section

variable [Platform]

/-- The country of the client address, where it is known. -/
def HttpProxyPassInner.country (inner : HttpProxyPassInner) : Option Bytes :=
  (inner.connectionIp.bind lookupCountry).map fun code => [code.1, code.2]

/-- The name has no value after the settings. -/
def LeavesNone (inner : HttpProxyPassInner) (config : ModifyHeadersConfig)
    (parts : Parts) (name : Str) (noneBefore : Prop) : Prop :=
  (∀ header ∈ config.addHeaders, ¬ SetsHeader inner parts name header) ∧
    (config.Removes name ∨ noneBefore)

theorem getAll_country_applyCfIpCountry {inner : HttpProxyPassInner}
    {info : HttpEndpointInfo} (injects : info.injectCountry = true)
    (parts : Parts) :
    (applyCfIpCountry inner info parts).getAll countryName =
      match inner.country with
      | some code => [code]
      | none => parts.getAll countryName := by
  unfold applyCfIpCountry HttpProxyPassInner.country
  rw [injects, Bool.not_true, if_neg Bool.false_ne_true]
  cases inner.connectionIp with
  | none => rfl
  | some ip =>
    cases looked : lookupCountry ip with
    | none => simp [looked]
    | some code =>
      simp [looked, Parts.getAll_insertHeader]

variable [HeaderRules] {inner : HttpProxyPassInner}
  {location : ProxyPassLocationConfig} {info : HttpEndpointInfo}
  {parts after : Parts}

theorem getAll_modifyHeaders_eq_nil_iff {config : ModifyHeadersConfig}
    {name : Str} (modified : modifyHeaders inner config parts = .ret after) :
    after.getAll name = [] ↔ LeavesNone inner config parts name (parts.getAll name = []) := by
  rcases modifyHeaders_cases modified name with
    ⟨⟨header, member, sets⟩, some⟩ | ⟨unset, same⟩
  · constructor
    · exact fun none => (some none).elim
    · exact fun leaves => (leaves.1 header member sets).elim
  rw [same]
  constructor
  · intro none
    refine ⟨unset, ?_⟩
    by_cases removes : config.Removes name
    · exact .inl removes
    · rw [if_neg removes] at none
      exact .inr none
  · rintro ⟨_, removes | none⟩
    · rw [if_pos removes]
    · rw [none, ite_self]

/-- Every country the upstream reads is the one looked up for the client. -/
def HyperSendsLookedUpCountry (inner : HttpProxyPassInner)
    (location : ProxyPassLocationConfig) (info : HttpEndpointInfo)
    (parts : Parts) : Prop :=
  ∀ (after : Parts) (conversion : Conversion), info.injectCountry = true →
    processHeaders inner location info parts = .ret after →
      ∀ value ∈ (after.convert conversion).getAll countryName, inner.country = some value

omit [Platform] [HeaderRules] in
theorem countryName_not_dropped (conversion : Conversion) :
    countryName ∉ conversion.dropped := fun member =>
  absurd (conversion.dropped_subset member) (by decide)

theorem getAll_country_processHeaders_eq_nil_iff
    (injects : info.injectCountry = true) (unknown : inner.country = none)
    (processed : processHeaders inner location info parts = .ret after) :
    after.getAll countryName = [] ↔
      LeavesNone inner info.modifyRequestHeaders parts countryName
        (LeavesNone inner location.modifyRequestHeaders parts countryName
          (parts.getAll countryName = [])) := by
  obtain ⟨located, ended, modified, again, rfl⟩ := processHeaders_eq_ret_iff.mp processed
  rw [getAll_country_applyCfIpCountry injects, unknown]
  dsimp only
  rw [getAll_withForwardedFor (by decide), getAll_modifyHeaders_eq_nil_iff again,
    getAll_modifyHeaders_eq_nil_iff modified]
  obtain ⟨edited, rfl⟩ := modifyHeaders_target modified
  rfl

theorem hyperSendsLookedUpCountry_iff (inner : HttpProxyPassInner)
    (location : ProxyPassLocationConfig) (info : HttpEndpointInfo)
    (parts : Parts) :
    HyperSendsLookedUpCountry inner location info parts ↔
      (info.injectCountry = true →
        Insertable inner parts location.modifyRequestHeaders.addHeaders →
          Insertable inner parts info.modifyRequestHeaders.addHeaders →
            inner.country ≠ none ∨ LeavesNone inner info.modifyRequestHeaders parts countryName
                (LeavesNone inner location.modifyRequestHeaders parts
                  countryName (parts.getAll countryName = []))) := by
  constructor
  · intro sends injects ofLocation ofEndpoint
    obtain ⟨after, processed⟩ := processHeaders_returns_iff.mpr ⟨ofLocation, ofEndpoint⟩
    by_cases unknown : inner.country = none
    · refine .inr ((getAll_country_processHeaders_eq_nil_iff injects unknown processed).mp ?_)
      apply List.eq_nil_iff_forall_not_mem.mpr
      intro value member
      have looked := sends after .asItIs injects processed value (by
        rwa [Parts.getAll_convert _ (countryName_not_dropped _)])
      rw [unknown] at looked
      cases looked
    · exact .inl unknown
  · intro carries after conversion injects processed value member
    rw [Parts.getAll_convert _ (countryName_not_dropped _)] at member
    obtain ⟨ofLocation, ofEndpoint⟩ := processHeaders_returns_iff.mp ⟨after, processed⟩
    cases known : inner.country with
    | none =>
      have leaves := (carries injects ofLocation ofEndpoint).resolve_left (not_not.mpr known)
      rw [(getAll_country_processHeaders_eq_nil_iff injects known processed).mpr leaves] at member
      cases member
    | some code =>
      obtain ⟨_, _, _, _, rfl⟩ := processHeaders_eq_ret_iff.mp processed
      rw [getAll_country_applyCfIpCountry injects, known] at member
      rw [List.mem_singleton.mp member]

end

/-! ## Both pipelines -/

theorem looked_up_country_iff [SliceOfU8Ext] [StrUtils] [Platform] [HeaderRules] :
    (∀ (context : CompileContext) (src : Bytes),
      SendsLookedUpCountry context src ↔
        ∀ (head : MessageHead) (rest : Bytes), src = head.bytes ++ rest →
          Passable head rest → context.kind.injectCountry = true →
          HeadCompiles context head rest → InsertsNoCountry context head rest) ∧
    (∀ (inner : HttpProxyPassInner) (location : ProxyPassLocationConfig)
        (info : HttpEndpointInfo) (parts : Parts),
      HyperSendsLookedUpCountry inner location info parts ↔
        (info.injectCountry = true →
          Insertable inner parts location.modifyRequestHeaders.addHeaders →
          Insertable inner parts info.modifyRequestHeaders.addHeaders →
          inner.country ≠ none ∨
            LeavesNone inner info.modifyRequestHeaders parts countryName
              (LeavesNone inner location.modifyRequestHeaders parts countryName
                (parts.getAll countryName = [])))) :=
  ⟨sendsLookedUpCountry_iff, hyperSendsLookedUpCountry_iff⟩

section

attribute [local instance] linearSearch asciiCase barePlatform visibleRules

private def countryEndpoint : HttpEndpointInfo :=
  { hostEndpoint := { src := "a:80".toList, port := some 80, index := some 1 }
    listenEndpointType := .http1
    injectCountry := true }

private def countryContext : CompileContext :=
  { kind := .request countryEndpoint
    connectionInfo :=
      { cnUserName := none
        connectionIp := none
        endpointInfo := some countryEndpoint
        listenConfig := { endpoints := [countryEndpoint], listenEndpointType := .http1 } }
    identity := none
    mcpPath := none
    dynamicProxyHostOverride := none }

private def countryHead (src : Bytes) : Outcome (Option Bytes) := do
  match ← parse src with
  | none => return none
  | some headers =>
    match ← compileHeaders countryContext src headers with
    | .error _ => return none
    | .ok compiled => return some compiled.head

private def countryInner : HttpProxyPassInner :=
  { identity := none
    endpointType := .http1
    connectionIp := none }

private def countryLocation : ProxyPassLocationConfig :=
  { path := "/".toList, proxyPassTo := .drop }

private def forgedCountry : Parts :=
  { method := "GET".toList
    path := "/".toList
    headers := [(countryName, ascii "US")] }

/-- For a client without an address the HTTP/1 pipeline drops the country it
sent, and the hyper pipeline passes it on. -/
theorem forged_country_is_passed_on :
    countryHead (ascii "GET / HTTP/1.1\r\nCF-IPCountry: US\r\n\r\n") =
        .ret (some (ascii "GET / HTTP/1.1\r\n\r\n")) ∧
      processHeaders countryInner countryLocation countryEndpoint
          forgedCountry = .ret forgedCountry ∧
        ¬ HyperSendsLookedUpCountry countryInner countryLocation
          countryEndpoint forgedCountry := by
  refine ⟨by decide +kernel, rfl, ?_⟩
  intro sends
  have looked := sends forgedCountry .asItIs rfl rfl (ascii "US") (by decide)
  cases looked

end

end ReverseProxy
