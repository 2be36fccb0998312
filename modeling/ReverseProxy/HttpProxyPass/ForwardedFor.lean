import ReverseProxy.H1ProxyServer.RequestFraming
import ReverseProxy.H1ProxyServer.UpstreamHead
import ReverseProxy.HttpProxyPass.ProcessHeaders
import ReverseProxy.Rfc7230.AppendedAddress

/-!
# The client address in `X-Forwarded-For`

Both pipelines put the client address behind the list the client sent.  The
HTTP/1 pipeline does so in every line of that name; the hyper pipeline puts one
value in the place of all.
-/

namespace ReverseProxy

open Library Rfc7230 Http1Headers CompileContext List

def forwardedForHeader : Bytes := ascii "x-forwarded-for"

section

variable [Platform]

theorem displayIp_ofAddress (ip : IpAddr) :
    ∀ octet ∈ asBytes (displayIp ip), isAddressOctet octet = true := by
  intro octet member
  obtain ⟨symbol, inside, encoded⟩ := mem_flatMap.mp member
  have each : ∀ symbol ∈ "0123456789abcdef.:".toList,
      (String.utf8EncodeChar symbol).all isAddressOctet = true :=
    all_iff_forall_prop.mp (by decide)
  exact all_eq_true.mp (each symbol (Platform.displayIp_mem inside)) octet encoded

theorem asBytes_displayIp_ne_nil (ip : IpAddr) : asBytes (displayIp ip) ≠ [] := by
  intro empty
  exact Platform.displayIp_ne_nil ip (asBytes_injective empty)

/-! ## The HTTP/1 pipeline -/

variable {context : CompileContext} {head : MessageHead} {ip : IpAddr}

omit [Platform] in
theorem notSkipped_of_forwarded {name : Bytes} (named : isNamed name forwardedForHeader = true) :
    context.skipForDynamicProxy name = false := by
  have notHost : isNamed name (ascii "host") = false :=
    isNamed_exclusive named (by decide)
  have notProxyTo : isNamed name (ascii "proxy-to") = false :=
    isNamed_exclusive named (by decide)
  simp [skipForDynamicProxy, notHost, notProxyTo]

section

variable (address : context.clientIp = some ip)
  (kept : context.kind.modifyHeaders.hasToBeRemoved forwardedForHeader = false)

include address kept

theorem rawValues_forwarded_copiedLine (line : Bytes) :
    rawValues forwardedForHeader (copiedLine context line).toList =
      (rawValues forwardedForHeader [line]).map (32 :: withAddress (asBytes (displayIp ip)) ·) := by
  unfold copiedLine
  cases split : splitField line with
  | none => simp [rawValues, split]
  | some field =>
    obtain ⟨name, value⟩ := field
    obtain ⟨rfl, absent⟩ := splitField_eq_some_iff.mp split
    dsimp only
    unfold copiedField
    cases named : isNamed name forwardedForHeader with
    | true =>
      have xff : isNamed name (ascii "x-forwarded-for") = true := named
      rw [rawValues_field absent, named,
        notSkipped_of_forwarded named, hasToBeRemoved_congr _ named, kept, xff, address]
      simp only [Bool.or_self, Bool.false_eq_true, if_false, if_true, Option.toList_some]
      rw [rawValues_headerLine (by decide)]
      simp [withAddress, trimmedText, show ascii "," = [44] from rfl,
        show isNamed (ascii "X-Forwarded-For") forwardedForHeader = true
          by decide]
    | false =>
      have original : rawValues forwardedForHeader [name ++ 58 :: value] = [] := by
        rw [rawValues_field absent, named]
        rfl
      have other : isNamed name (ascii "x-forwarded-for") = false := named
      rw [original, other]
      split
      · rfl
      simp only [Bool.false_eq_true, if_false]
      split
      · rfl
      · exact original

theorem rawValues_forwarded_copiedLines (lines : List Bytes) :
    rawValues forwardedForHeader (copiedLines context lines) =
      (rawValues forwardedForHeader lines).map (32 :: withAddress (asBytes (displayIp ip)) ·) := by
  rw [rawValues_copiedLines_eq, rawValues_eq_flatMap forwardedForHeader lines, map_flatMap]
  exact flatMap_congr fun line _ =>
    rawValues_forwarded_copiedLine address kept line

end

omit [Platform] in
theorem forwardsXff_eq (kept : context.kind.modifyHeaders.hasToBeRemoved
      forwardedForHeader = false) (name : Bytes) :
    forwardsXff context name = isNamed name forwardedForHeader := by
  unfold forwardsXff
  cases named : isNamed name forwardedForHeader with
  | true =>
    rw [notSkipped_of_forwarded named, hasToBeRemoved_congr _ named, kept]
    exact named
  | false =>
    rw [show isNamed name (ascii "x-forwarded-for") = false from named, Bool.and_false]

omit [Platform] in
theorem writesXff_iff (kept : context.kind.modifyHeaders.hasToBeRemoved
      forwardedForHeader = false) {lines : List Bytes} :
    writesXff context lines = true ↔ rawValues forwardedForHeader lines ≠ [] := by
  rw [writesXff, any_eq_true]
  constructor
  · rintro ⟨line, member, forwards⟩
    cases split : splitField line with
    | none => simp [split] at forwards
    | some field =>
      obtain ⟨name, value⟩ := field
      simp only [split, forwardsXff_eq kept] at forwards
      exact ne_nil_of_mem (mem_rawValues_iff.mpr ⟨line, member, name, split, forwards⟩)
  · intro present
    obtain ⟨value, member⟩ := exists_mem_of_ne_nil _ present
    obtain ⟨line, inside, name, split, named⟩ := mem_rawValues_iff.mp member
    refine ⟨line, inside, ?_⟩
    simp only [split, forwardsXff_eq kept]
    exact named

theorem rawValues_forwarded_clientLines (address : context.clientIp = some ip)
    (kept : context.kind.modifyHeaders.hasToBeRemoved forwardedForHeader = false) :
    rawValues forwardedForHeader (clientLines context head) =
      if rawValues forwardedForHeader head.lines = [] then
        [32 :: asBytes (displayIp ip)]
      else (rawValues forwardedForHeader head.lines).map
        (32 :: withAddress (asBytes (displayIp ip)) ·) := by
  have country : rawValues forwardedForHeader (countryHeaders context) = [] := by
    apply rawValues_eq_nil
    intro line member
    obtain ⟨_, code, _, rfl⟩ := countryHeaders_line member
    exact rawValues_headerLine (by decide)
  rw [clientLines, rawValues_append, rawValues_append, country,
    append_nil, rawValues_forwarded_copiedLines address kept]
  split
  · next none =>
      have notWritten : writesXff context head.lines = false := by
        rw [← Bool.not_eq_true, writesXff_iff kept, not_not]
        exact none
      have written : addressHeaders context false =
          [headerLine (ascii "X-Forwarded-For") (asBytes (displayIp ip))] := by
        simp [addressHeaders, address]
      rw [none, notWritten, written, map_nil, nil_append]
      exact rawValues_headerLine (show (58 : UInt8) ∉ ascii "X-Forwarded-For" by decide)
  · next present =>
      rw [(writesXff_iff kept).mpr present]
      exact append_nil _

omit [Platform] in
theorem listElements_blank_map (values : List Bytes) :
    listElements (values.map (32 :: ·)) = listElements values := by
  induction values with
  | nil => rfl
  | cons value values ih =>
    rw [map_cons, listElements_cons, ih, listElements_cons value]
    congr 1
    exact listElements_blanks_append value (show ∀ octet ∈ [32], isOws octet = true by simp [isOws])

/-- The endpoint neither removes the header nor brings lines of its name into
the head. -/
structure LeavesForwardedFor (context : CompileContext) (head : MessageHead)
    (rest : Bytes) : Prop where
  kept : context.kind.modifyHeaders.hasToBeRemoved forwardedForHeader = false
  others : ∀ configured,
    filledHeaders context head rest context.kind.modifyHeaders.addHeaders = some configured →
      ∀ line ∈ (insertedLines context head configured).takeWhile (· ≠ []),
        rawValues forwardedForHeader [line] = []

/-- The first line brings no empty line, and the client sent one readable value
at most. -/
structure OneForwardedFor (context : CompileContext) (head : MessageHead) : Prop where
  path : ∀ line ∈ (cutLines (forwardedFirstLine context head.firstLine)).tail, line ≠ []
  values : rawValues forwardedForHeader head.lines = [] ∨
    ∃ value, rawValues forwardedForHeader head.lines = [value] ∧ BlanksAround value

/-- An empty line behind the first line hides the lines of the client. -/
theorem rawValues_upstreamLines_of_empty {header : Bytes} {configured : List Bytes}
    (empty : [] ∈ (cutLines (forwardedFirstLine context head.firstLine)).tail)
    (others : ∀ line ∈ (insertedLines context head configured).takeWhile (· ≠ []),
        rawValues header [line] = []) :
    rawValues header (upstreamLines context head configured) = [] := by
  have short : ¬ ((cutLines (forwardedFirstLine context
      head.firstLine)).tail.takeWhile (· ≠ [])).length =
        (cutLines (forwardedFirstLine context head.firstLine)).tail.length := by
    intro whole
    have all := takeWhile_eq_self_iff.mp
      ((takeWhile_sublist _).eq_of_length whole) [] empty
    simp at all
  rw [insertedLines, takeWhile_append, if_neg short] at others
  rw [upstreamLines_eq, append_assoc, append_assoc, takeWhile_append, if_neg short]
  exact rawValues_eq_nil others

theorem forwarded_upstreamLines_iff {rest : Bytes} {configured : List Bytes}
    (address : context.clientIp = some ip)
    (leaves : LeavesForwardedFor context head rest)
    (filled : filledHeaders context head rest
      context.kind.modifyHeaders.addHeaders = some configured) :
    listElements (rawValues forwardedForHeader (upstreamLines context head configured)) =
        listElements (rawValues forwardedForHeader head.lines) ++ [asBytes (displayIp ip)] ↔
      OneForwardedFor context head := by
  have others := leaves.others configured filled
  by_cases path : ∀ line ∈ (cutLines (forwardedFirstLine context head.firstLine)).tail, line ≠ []
  · have request : context.kind.isRequest = true := by
      unfold clientIp at address
      split at address
      · assumption
      · cases address
    have ofAddress := displayIp_ofAddress ip
    have nonempty := asBytes_displayIp_ne_nil ip
    rw [rawValues_upstreamLines request path others,
      rawValues_forwarded_clientLines address leaves.kept]
    split
    · next none =>
        have alone : listElements [32 :: asBytes (displayIp ip)] = [asBytes (displayIp ip)] := by
          rw [← map_singleton, listElements_blank_map,
            listElements_word nonempty fun octet member =>
              (isAddressOctet_cases (ofAddress octet member)).1]
        rw [none, alone]
        exact ⟨fun _ => ⟨path, .inl none⟩, fun _ => rfl⟩
    · next present =>
        have blanks : (rawValues forwardedForHeader head.lines).map
            (32 :: withAddress (asBytes (displayIp ip)) ·) =
              ((rawValues forwardedForHeader head.lines).map
                (withAddress (asBytes (displayIp ip)))).map (32 :: ·) := by
          rw [map_map]
          rfl
        rw [blanks, listElements_blank_map, appended_iff ofAddress nonempty present]
        constructor
        · exact fun one => ⟨path, .inr one⟩
        · exact fun one => one.values.resolve_left present
  · have empty : [] ∈ (cutLines (forwardedFirstLine context head.firstLine)).tail := by
      by_contra absent
      exact path fun line member isEmpty => absent (isEmpty ▸ member)
    rw [rawValues_upstreamLines_of_empty empty others]
    constructor
    · intro appended
      have none : listElements [] = [] := rfl
      rw [none] at appended
      exact absurd appended.symm (append_ne_nil_of_right_ne_nil _ (cons_ne_nil _ _))
    · exact fun one => (path one.path).elim

end

section

variable [SliceOfU8Ext] [StrUtils] [Platform]

/-- The list sent for a request ends in the address, put once behind what the
client sent. -/
def AppendsAddress (context : CompileContext) (src : Bytes) : Prop :=
  ∀ (headers : Http1Headers) (head : MessageHead) (rest : Bytes) (ip : IpAddr),
    parse src = .ret (some headers) → src = head.bytes ++ rest →
      context.clientIp = some ip → LeavesForwardedFor context head rest →
        SendsLines context src headers fun lines =>
          listElements (rawValues forwardedForHeader lines) =
            listElements (rawValues forwardedForHeader head.lines) ++ [asBytes (displayIp ip)]

theorem appendsAddress_iff (context : CompileContext) (src : Bytes) :
    AppendsAddress context src ↔
      ∀ (head : MessageHead) (rest : Bytes) (ip : IpAddr),
        src = head.bytes ++ rest → Passable head rest →
          context.clientIp = some ip → LeavesForwardedFor context head rest →
            HeadCompiles context head rest → OneForwardedFor context head := by
  constructor
  · rintro appends head rest ip rfl passable address leaves compiles
    obtain ⟨headers, accepted⟩ := parse_accepts_iff.mpr passable
    obtain ⟨configured, filled⟩ := Option.isSome_iff_exists.mp (fillable_iff.mp compiles.fillable)
    exact (forwarded_upstreamLines_iff address leaves filled).mp ((sendsLines_iff accepted).mp
        (appends headers head rest ip accepted rfl address leaves) compiles configured filled)
  · rintro one headers head rest ip accepted rfl address leaves
    rw [sendsLines_iff accepted]
    intro compiles configured filled
    exact (forwarded_upstreamLines_iff address leaves filled).mpr (one head rest ip rfl
        (parse_accepts_iff.mp ⟨headers, accepted⟩) address leaves compiles)

end

/-! ## The hyper pipeline -/

section

variable [Platform] [HeaderRules]

/-- The settings neither remove the header nor set it. -/
structure ModifyHeadersConfig.Leaves (config : ModifyHeadersConfig)
    (inner : HttpProxyPassInner) (parts : Parts) (name : Str) : Prop where
  kept : ¬ config.Removes name
  unset : ∀ header ∈ config.addHeaders, ¬ SetsHeader inner parts name header

/-- The list sent for a request ends in the address, put once behind what the
client sent. -/
def HyperAppendsAddress (inner : HttpProxyPassInner)
    (location : ProxyPassLocationConfig) (info : HttpEndpointInfo)
    (parts : Parts) : Prop :=
  ∀ (ip : IpAddr) (after : Parts) (conversion : Conversion), inner.connectionIp = some ip →
      location.modifyRequestHeaders.Leaves inner parts forwardedForName →
        info.modifyRequestHeaders.Leaves inner parts forwardedForName →
          processHeaders inner location info parts = .ret after →
            listElements ((after.convert conversion).getAll forwardedForName) =
              listElements (parts.getAll forwardedForName) ++ [asBytes (displayIp ip)]

/-- Of the values only the first has elements, and it can be read. -/
def FirstReadable (values : List Bytes) : Prop :=
  values = [] ∨ ∃ value text others, values = value :: others ∧
    headerToStr value = some text ∧ listElements others = []

variable {inner : HttpProxyPassInner} {location : ProxyPassLocationConfig}
  {info : HttpEndpointInfo} {parts after : Parts}

theorem getAll_modifyHeaders_of_leaves {config : ModifyHeadersConfig}
    {name : Str} (modified : modifyHeaders inner config parts = .ret after)
    (leaves : config.Leaves inner parts name) :
    after.getAll name = parts.getAll name := by
  rcases modifyHeaders_cases modified name with
    ⟨⟨header, member, sets⟩, _⟩ | ⟨_, same⟩
  · exact (leaves.unset header member sets).elim
  · rwa [if_neg leaves.kept] at same

/-- One value takes the place of all. -/
theorem getAll_forwarded_processHeaders {ip : IpAddr} (address : inner.connectionIp = some ip)
    (ofLocation : location.modifyRequestHeaders.Leaves inner parts forwardedForName)
    (ofEndpoint : info.modifyRequestHeaders.Leaves inner parts forwardedForName)
    (processed : processHeaders inner location info parts = .ret after) :
    after.getAll forwardedForName =
      [asBytes (forwardedText (parts.getAll forwardedForName).head? ip)] := by
  obtain ⟨located, ended, modified, again, rfl⟩ := processHeaders_eq_ret_iff.mp processed
  have first := getAll_modifyHeaders_of_leaves modified ofLocation
  obtain ⟨edited, rfl⟩ := modifyHeaders_target modified
  have second := getAll_modifyHeaders_of_leaves again (show info.modifyRequestHeaders.Leaves inner
      { parts with headers := edited } forwardedForName from
        ⟨ofEndpoint.kept, ofEndpoint.unset⟩)
  rw [getAll_applyCfIpCountry (by decide), withForwardedFor, address]
  dsimp only
  rw [Parts.getAll_insertHeader, if_pos rfl, second, first]

omit [HeaderRules] in
theorem listElements_forwardedText_iff (values : List Bytes) (ip : IpAddr) :
    listElements [asBytes (forwardedText values.head? ip)] =
        listElements values ++ [asBytes (displayIp ip)] ↔
      FirstReadable values := by
  have alone : listElements [asBytes (displayIp ip)] = [asBytes (displayIp ip)] :=
    listElements_word (asBytes_displayIp_ne_nil ip) fun octet member =>
      (isAddressOctet_cases (displayIp_ofAddress ip octet member)).1
  cases values with
  | nil =>
    rw [head?_nil, forwardedText, alone]
    exact ⟨fun _ => .inl rfl, fun _ => rfl⟩
  | cons value others =>
    rw [head?_cons, listElements_cons value others]
    cases read : headerToStr value with
    | some text =>
      have sent : asBytes (forwardedText (some value) ip) =
          value ++ 44 :: asBytes (displayIp ip) := by
        simp only [forwardedText, read]
        rw [asBytes_append, asBytes_of_headerToStr read]
        rfl
      rw [sent, listElements_comma, alone, append_assoc, append_cancel_left_eq]
      constructor
      · intro same
        have none : listElements others = [] := by simpa using same
        exact .inr ⟨value, text, others, rfl, read, none⟩
      · rintro (empty | ⟨_, _, _, same, _, none⟩)
        · cases empty
        · cases same
          rw [none, nil_append]
    | none =>
      have sent : asBytes (forwardedText (some value) ip) = asBytes (displayIp ip) := by
        simp only [forwardedText, read]
      rw [sent, alone]
      constructor
      · intro same
        have none : listElements [value] = [] := (append_eq_nil_iff.mp
            (self_eq_append_left.mp same)).1
        have readable : value.all (fun octet =>
            octet == 9 || (32 ≤ octet && octet < 127)) = true := by
          rw [all_eq_true]
          intro octet member
          have notSolid := not_solid_of_listElements none member
          have blankOrComma : (octet = 32 ∨ octet = 9) ∨ octet = 44 := by
            simpa [isSolid, isOws, or_iff_not_imp_left] using notSolid
          rcases blankOrComma with (rfl | rfl) | rfl
          · decide
          · decide
          · decide
        simp [headerToStr, readable] at read
      · rintro (empty | ⟨_, _, _, same, seen, _⟩)
        · cases empty
        · cases same
          rw [read] at seen
          cases seen

omit [Platform] [HeaderRules] in
theorem forwardedForName_not_dropped (conversion : Conversion) :
    forwardedForName ∉ conversion.dropped := fun member =>
  absurd (conversion.dropped_subset member) (by decide)

theorem hyperAppendsAddress_iff (inner : HttpProxyPassInner)
    (location : ProxyPassLocationConfig) (info : HttpEndpointInfo)
    (parts : Parts) :
    HyperAppendsAddress inner location info parts ↔
      ∀ ip, inner.connectionIp = some ip →
        location.modifyRequestHeaders.Leaves inner parts forwardedForName →
          info.modifyRequestHeaders.Leaves inner parts forwardedForName →
            Insertable inner parts location.modifyRequestHeaders.addHeaders →
              Insertable inner parts info.modifyRequestHeaders.addHeaders →
                FirstReadable (parts.getAll forwardedForName) := by
  constructor
  · intro appends ip address ofLocation ofEndpoint located ended
    obtain ⟨after, processed⟩ := processHeaders_returns_iff.mpr ⟨located, ended⟩
    have sent := appends ip after .asItIs address ofLocation ofEndpoint processed
    rw [Parts.getAll_convert _ (forwardedForName_not_dropped _),
      getAll_forwarded_processHeaders address ofLocation ofEndpoint processed] at sent
    exact (listElements_forwardedText_iff _ ip).mp sent
  · intro readable ip after conversion address ofLocation ofEndpoint processed
    obtain ⟨located, ended⟩ := processHeaders_returns_iff.mp ⟨after, processed⟩
    rw [Parts.getAll_convert _ (forwardedForName_not_dropped _),
      getAll_forwarded_processHeaders address ofLocation ofEndpoint processed]
    exact (listElements_forwardedText_iff _ ip).mpr
      (readable ip address ofLocation ofEndpoint located ended)

end

/-! ## Both pipelines -/

theorem address_appended_iff [SliceOfU8Ext] [StrUtils] [Platform] [HeaderRules] :
    (∀ (context : CompileContext) (src : Bytes), AppendsAddress context src ↔
        ∀ (head : MessageHead) (rest : Bytes) (ip : IpAddr),
          src = head.bytes ++ rest → Passable head rest →
            context.clientIp = some ip →
              LeavesForwardedFor context head rest →
                HeadCompiles context head rest → OneForwardedFor context head) ∧
      ∀ (inner : HttpProxyPassInner) (location : ProxyPassLocationConfig)
        (info : HttpEndpointInfo) (parts : Parts),
        HyperAppendsAddress inner location info parts ↔
          ∀ ip, inner.connectionIp = some ip →
            location.modifyRequestHeaders.Leaves inner parts forwardedForName →
              info.modifyRequestHeaders.Leaves inner parts forwardedForName →
                Insertable inner parts location.modifyRequestHeaders.addHeaders →
                  Insertable inner parts info.modifyRequestHeaders.addHeaders →
                    FirstReadable (parts.getAll forwardedForName) :=
  ⟨appendsAddress_iff, hyperAppendsAddress_iff⟩

section

attribute [local instance] linearSearch asciiCase barePlatform visibleRules

private def forwardEndpoint : HttpEndpointInfo :=
  { hostEndpoint := { src := "a:80".toList, port := some 80, index := some 1 }
    listenEndpointType := .http1 }

private def forwardContext : CompileContext :=
  { kind := .request forwardEndpoint
    connectionInfo :=
      { cnUserName := none
        connectionIp := some (.v4 0)
        endpointInfo := some forwardEndpoint
        listenConfig := { endpoints := [forwardEndpoint], listenEndpointType := .http1 } }
    identity := none
    mcpPath := none
    dynamicProxyHostOverride := none }

private def twoForwarded : MessageHead := .ofPlain (ascii "GET / HTTP/1.1")
    [ascii "X-Forwarded-For: 1.1.1.1", ascii "X-Forwarded-For: 2.2.2.2"]
    (by decide)

private def twiceAppended : MessageHead := .ofPlain (ascii "GET / HTTP/1.1")
    [ascii "X-Forwarded-For: 1.1.1.1,127.0.0.1", ascii "X-Forwarded-For: 2.2.2.2,127.0.0.1"]
    (by decide)

private def forwardedHead (src : Bytes) : Outcome (Option Bytes) := do
  match ← parse src with
  | none => return none
  | some headers =>
    match ← compileHeaders forwardContext src headers with
    | .error _ => return none
    | .ok compiled => return some compiled.head

private def forwardInner : HttpProxyPassInner :=
  { identity := none
    endpointType := .http1
    connectionIp := some (.v4 0) }

private def forwardLocation : ProxyPassLocationConfig :=
  { path := "/".toList, proxyPassTo := .drop }

private def forwardParts (values : List Bytes) : Parts :=
  { method := "GET".toList
    path := "/".toList
    headers := values.map fun value => (forwardedForName, value) }

/-- Of two lists the HTTP/1 pipeline puts the address behind both, and the
hyper pipeline loses the second. -/
theorem two_lists_are_not_joined :
    (forwardedHead twoForwarded.bytes = .ret (some twiceAppended.bytes) ∧
      ¬ AppendsAddress forwardContext twoForwarded.bytes) ∧
    processHeaders forwardInner forwardLocation forwardEndpoint
        (forwardParts [ascii "1.1.1.1", ascii "2.2.2.2"]) =
      .ret (forwardParts [ascii "1.1.1.1,127.0.0.1"]) ∧
    ¬ HyperAppendsAddress forwardInner forwardLocation forwardEndpoint
        (forwardParts [ascii "1.1.1.1", ascii "2.2.2.2"]) := by
  have sent : forwardedHead twoForwarded.bytes = .ret (some twiceAppended.bytes) := by
    decide +kernel
  have processed : processHeaders forwardInner forwardLocation forwardEndpoint
        (forwardParts [ascii "1.1.1.1", ascii "2.2.2.2"]) =
      .ret (forwardParts [ascii "1.1.1.1,127.0.0.1"]) := by
    decide +kernel
  refine ⟨⟨sent, ?_⟩, processed, ?_⟩
  · intro appends
    simp only [forwardedHead, Outcome.bind_eq_ret_iff] at sent
    obtain ⟨result, parsed, sent⟩ := sent
    cases result with
    | none => cases sent
    | some headers =>
      simp only [Outcome.bind_eq_ret_iff] at sent
      obtain ⟨result, compiled, sent⟩ := sent
      cases result with
      | error err => cases sent
      | ok result =>
        have bytes : result.head = twiceAppended.bytes ++ [] := by
          simpa using sent
        have leaves : LeavesForwardedFor forwardContext twoForwarded [] := by
          refine ⟨by decide, ?_⟩
          intro configured filled
          cases filled
          decide
        have appended := appends headers twoForwarded [] _ parsed
          (by simp) rfl leaves result twiceAppended [] compiled bytes
        revert appended
        decide +kernel
  · intro appends
    have leaves : (ModifyHeadersConfig.mk [] []).Leaves forwardInner
        (forwardParts [ascii "1.1.1.1", ascii "2.2.2.2"])
          forwardedForName := by
      refine ⟨by decide, ?_⟩
      simp
    have appended := appends _ _ .asItIs rfl leaves leaves processed
    revert appended
    decide +kernel

end

end ReverseProxy
