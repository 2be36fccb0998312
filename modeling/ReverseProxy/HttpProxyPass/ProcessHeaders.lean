import ReverseProxy.HttpProxyPass.HandleOauth

/-!
# Request headers on the hyper pipeline

`process_headers` edits the header map hyper made: the settings of the location,
those of the endpoint, then the address and the country of the client.
`into_request` copies the map.
-/

namespace ReverseProxy

open Library List

/-- The checks of the `http` crate on what becomes a header. -/
class HeaderRules where
  /-- `HeaderName::from_bytes` accepts the text. -/
  isHeaderName : Str → Bool
  /-- `HeaderValue::from_str` accepts the text. -/
  isHeaderValue : Str → Bool
  isHeaderValue_visible : ∀ {text : Str},
    (∀ symbol ∈ text, symbol = '\t' ∨ (32 ≤ symbol.toNat ∧ symbol.toNat < 127)) →
      isHeaderValue text = true

export HeaderRules (isHeaderName isHeaderValue)

/-- Rules that accept every name and visible values, used where a statement is
evaluated on a fixed input. -/
@[reducible] def visibleRules : HeaderRules :=
  { isHeaderName := fun _ => true
    isHeaderValue := fun text => text.all fun symbol =>
      symbol = '\t' ∨ (32 ≤ symbol.toNat ∧ symbol.toNat < 127)
    isHeaderValue_visible := fun visible => by simpa using visible }

/-! ## The header map -/

/-- Names in the map are in lower case. -/
def headerName (name : Str) : Str := name.map Char.toLower

namespace Parts

/-- `HeaderMap::get_all`. -/
def getAll (parts : Parts) (name : Str) : List Bytes :=
  (parts.headers.filter (·.1 = name)).map (·.2)

/-- `HeaderMap::remove`. -/
def removeHeader (parts : Parts) (name : Str) : Parts :=
  { parts with headers := parts.headers.filter (·.1 ≠ headerName name) }

/-- `HeaderMap::insert`: the value takes the place of all others. -/
def insertHeader (parts : Parts) (name : Str) (value : Bytes) : Parts :=
  { parts with
    headers := parts.headers.filter (·.1 ≠ name) ++ [(name, value)] }

/-- `uri().path_and_query()`; the authority form has none. -/
def uriPathAndQuery (parts : Parts) : Option Str :=
  if parts.path = [] then none
  else some (parts.path ++ (parts.query.map ('?' :: ·)).getD [])

end Parts

/-! ## Values with placeholders -/

/-- `HttpProxyPassInner`, as far as header values are made from it. -/
structure HttpProxyPassInner where
  identity : Option HttpProxyPassIdentity
  endpointType : ListenHttpEndpointType
  connectionIp : Option IpAddr
deriving DecidableEq, Repr

section

variable [Platform]

namespace HttpProxyPassInner

def populatePlaceholder (inner : HttpProxyPassInner) (parts : Parts) (placeholder : Str) : Str :=
  if placeholder = "ENDPOINT_IP".toList then
    (inner.connectionIp.map displayIp).getD []
  else if placeholder = "PATH_AND_QUERY".toList then
    parts.uriPathAndQuery.getD []
  else if placeholder = "HOST_PORT".toList then
    parts.host.getD []
  else if placeholder = "CLIENT_CERT_CN".toList then
    (inner.identity.map (·.asStr)).getD []
  else if placeholder = "ENDPOINT_SCHEMA".toList then
    if inner.endpointType.isHttps then "https".toList else "http".toList
  else
    (envVar placeholder).getD []

def populateToken (inner : HttpProxyPassInner) (parts : Parts) :
    ContentToken → Str
  | .text text => text
  | .placeholder placeholder => inner.populatePlaceholder parts placeholder

/-- `HttpProxyPassInner::populate_value`. -/
def populateValue (inner : HttpProxyPassInner) (parts : Parts) (value : Str) : Str :=
  if (indexOf ['$', '\x7b'] value).isNone then value
  else (placeholderTokens value).flatMap (inner.populateToken parts)

end HttpProxyPassInner

/-! ## Editing the map -/

section

variable [HeaderRules]

/-- The configured headers, each in the place of the client's; a name or value
the `http` crate does not accept panics. -/
def insertConfigured (inner : HttpProxyPassInner) :
    List (Str × Str) → Parts → Outcome Parts
  | [], parts => .ret parts
  | (name, value) :: others, parts =>
    if value = [] then insertConfigured inner others parts
    else
      let populated := inner.populateValue parts value
      if populated = [] then insertConfigured inner others parts
      else if isHeaderName name && isHeaderValue populated then
        insertConfigured inner others (parts.insertHeader (headerName name) (asBytes populated))
      else .panic

variable (inner : HttpProxyPassInner)

/-- `modify_headers`. -/
def modifyHeaders (config : ModifyHeadersConfig) (parts : Parts) : Outcome Parts :=
  insertConfigured inner config.addHeaders (config.remove.foldl Parts.removeHeader parts)

def forwardedForName : Str := "x-forwarded-for".toList

def countryName : Str := "cf-ipcountry".toList

/-- The address behind the value that is there. -/
def forwardedText (existing : Option Bytes) (ip : IpAddr) : Str :=
  match existing with
  | some value =>
    match headerToStr value with
    | some text => text ++ ',' :: displayIp ip
    | none => displayIp ip
  | none => displayIp ip

/-- `apply_auto_x_forwarded_for`. -/
def applyAutoXForwardedFor (parts : Parts) :
    Outcome Parts :=
  match inner.connectionIp with
  | none => .ret parts
  | some ip =>
    let newValue := forwardedText (parts.getAll forwardedForName).head? ip
    if isHeaderValue newValue then
      .ret (parts.insertHeader forwardedForName (asBytes newValue))
    else .panic

/-- `apply_cf_ip_country`. -/
def applyCfIpCountry (info : HttpEndpointInfo) (parts : Parts) : Parts :=
  if !info.injectCountry then parts
  else
    match inner.connectionIp with
    | none => parts
    | some ip =>
      match lookupCountry ip with
      | none => parts
      | some (first, second) =>
        parts.insertHeader countryName [first, second]

/-- `HttpRequestBuilder::process_headers`. -/
def processHeaders (location : ProxyPassLocationConfig) (info : HttpEndpointInfo)
    (parts : Parts) : Outcome Parts := do
  let parts ← modifyHeaders inner location.modifyRequestHeaders parts
  let parts ← modifyHeaders inner info.modifyRequestHeaders parts
  let parts ← applyAutoXForwardedFor inner parts
  return applyCfIpCountry inner info parts

end

end

/-! ## The request that is sent -/

/-- How `into_request` makes the headers of the request out of the map. -/
inductive Conversion where
  | asItIs
  /-- A body that was compressed to this length. -/
  | compressed (length : Nat)
  | http2ToHttp1 (host : Bytes)
  | h2WebsocketToH1Websocket (host key : Bytes)
  | h2WebsocketToH2Websocket
deriving DecidableEq, Repr

/-- Headers of a connection that a WebSocket request leaves behind. -/
def webSocketHeaders : List Str :=
  ["host", "connection", "upgrade", "transfer-encoding", "te", "keep-alive",
    "proxy-connection", "sec-websocket-version", "sec-websocket-key",
    "sec-websocket-accept"].map (·.toList)

namespace Conversion

/-- The names whose values are not carried over. -/
def dropped : Conversion → List Str
  | asItIs => []
  | compressed _ =>
    ["content-encoding", "content-type", "content-length"].map (·.toList)
  | http2ToHttp1 _ => ["host".toList]
  | h2WebsocketToH1Websocket _ _ => webSocketHeaders
  | h2WebsocketToH2Websocket => webSocketHeaders

def leading : Conversion → List (Str × Bytes)
  | http2ToHttp1 host => [("host".toList, host)]
  | h2WebsocketToH1Websocket host key =>
    [("host".toList, host), ("connection".toList, ascii "Upgrade"),
      ("upgrade".toList, ascii "websocket"),
      ("sec-websocket-version".toList, ascii "13"),
      ("sec-websocket-key".toList, key)]
  | _ => []

def trailing : Conversion → List (Str × Bytes)
  | compressed length =>
    [("content-encoding".toList, ascii "gzip"),
      ("content-type".toList, ascii "application/octet-stream"),
      ("content-length".toList, ascii (toString length))]
  | _ => []

def headers (conversion : Conversion) (headers : List (Str × Bytes)) : List (Str × Bytes) :=
  conversion.leading ++ headers.filter (·.1 ∉ conversion.dropped) ++ conversion.trailing

theorem dropped_subset (conversion : Conversion) :
    conversion.dropped ⊆ (compressed 0).dropped ++ webSocketHeaders := by
  cases conversion with
  | asItIs => exact nil_subset _
  | compressed length => exact subset_append_left _ _
  | http2ToHttp1 host =>
    intro name member
    rw [mem_singleton.mp member]
    decide
  | h2WebsocketToH1Websocket host key | h2WebsocketToH2Websocket =>
    exact subset_append_right _ _

theorem dropped_of_written {conversion : Conversion} {header : Str × Bytes}
    (written : header ∈ conversion.leading ++ conversion.trailing) :
    header.1 ∈ conversion.dropped := by
  cases conversion with
  | asItIs | h2WebsocketToH2Websocket => simp [leading, trailing] at written
  | compressed length =>
    have names : ∀ header ∈ (compressed length).trailing,
        header.1 ∈ (compressed length).dropped := by
      simp [trailing, dropped]
    exact names header (by simpa [leading] using written)
  | http2ToHttp1 host =>
    have only : header = ("host".toList, host) := by
      simpa [leading, trailing] using written
    simp [only, dropped]
  | h2WebsocketToH1Websocket host key =>
    have names : ∀ header ∈ (h2WebsocketToH1Websocket host key).leading,
        header.1 ∈ webSocketHeaders := by
      simp [leading, webSocketHeaders]
    exact names header (by simpa [trailing] using written)

end Conversion

def Parts.convert (parts : Parts) (conversion : Conversion) : Parts :=
  { parts with headers := conversion.headers parts.headers }

/-! ## Values of one name -/

namespace Parts

theorem filter_named (keeps : Str → Bool) (headers : List (Str × Bytes)) (name : Str) :
    (headers.filter fun header => keeps header.1).filter (·.1 = name) =
      if keeps name then headers.filter (·.1 = name) else [] := by
  rw [filter_filter]
  cases kept : keeps name with
  | true =>
    apply filter_congr
    intro header _
    by_cases named : header.1 = name
    · simp [named, kept]
    · simp [named]
  | false =>
    rw [filter_eq_nil_iff.mpr]
    · rfl
    · intro header _
      by_cases named : header.1 = name
      · simp [named, kept]
      · simp [named]

theorem getAll_removeHeader (parts : Parts) (name removed : Str) :
    (parts.removeHeader removed).getAll name =
      if headerName removed = name then [] else parts.getAll name := by
  have kept := filter_named (fun own => decide (own ≠ headerName removed)) parts.headers name
  rw [getAll, removeHeader, kept]
  by_cases same : headerName removed = name
  · simp [same]
  · simp [same, Ne.symm same, getAll]

theorem getAll_insertHeader (parts : Parts) (name inserted : Str) (value : Bytes) :
    (parts.insertHeader inserted value).getAll name =
      if inserted = name then [value] else parts.getAll name := by
  have kept := filter_named (fun own => decide (own ≠ inserted)) parts.headers name
  rw [getAll, insertHeader, filter_append, kept]
  by_cases same : inserted = name
  · simp [same]
  · simp [same, Ne.symm same, getAll]

theorem getAll_convert (parts : Parts) {conversion : Conversion} {name : Str}
    (kept : name ∉ conversion.dropped) :
    (parts.convert conversion).getAll name = parts.getAll name := by
  have written : ∀ headers, headers ⊆ conversion.leading ++
      conversion.trailing → headers.filter (·.1 = name) = [] := by
    intro headers inside
    apply filter_eq_nil_iff.mpr
    intro header member named
    have isNamed : header.1 = name := by simpa using named
    exact kept (isNamed ▸ Conversion.dropped_of_written (inside member))
  have carried := filter_named (fun own => decide (own ∉ conversion.dropped)) parts.headers name
  rw [if_pos (by simpa using kept)] at carried
  rw [getAll, convert, Conversion.headers, filter_append, filter_append, carried,
    written _ (subset_append_left _ _),
    written _ (subset_append_right _ _), nil_append,
    append_nil, getAll]

end Parts

/-! ## What the settings do to one name -/

section

variable [Platform]

/-- The configured header puts a value under the name. -/
def SetsHeader (inner : HttpProxyPassInner) (parts : Parts) (name : Str)
    (header : Str × Str) : Prop :=
  headerName header.1 = name ∧ header.2 ≠ [] ∧ inner.populateValue parts header.2 ≠ []

def ModifyHeadersConfig.Removes (config : ModifyHeadersConfig) (name : Str) : Prop :=
  ∃ removed ∈ config.remove, headerName removed = name

instance (config : ModifyHeadersConfig) (name : Str) : Decidable (config.Removes name) :=
  inferInstanceAs (Decidable (∃ removed ∈ config.remove, _))

/-- The `http` crate accepts every configured header that has a value. -/
def Insertable [HeaderRules] (inner : HttpProxyPassInner) (parts : Parts)
    (headers : List (Str × Str)) : Prop :=
  ∀ header ∈ headers, header.2 ≠ [] →
    inner.populateValue parts header.2 ≠ [] →
      (isHeaderName header.1 && isHeaderValue (inner.populateValue parts header.2)) = true

omit [Platform] in
theorem getAll_foldl_removeHeader (removed : List Str) (parts : Parts) (name : Str) :
    (removed.foldl Parts.removeHeader parts).getAll name =
      if ∃ other ∈ removed, headerName other = name then []
      else parts.getAll name := by
  induction removed generalizing parts with
  | nil => simp
  | cons first removed ih =>
    rw [foldl_cons, ih, Parts.getAll_removeHeader]
    by_cases same : headerName first = name
    · simp [same]
    · simp [same]

omit [Platform] in
theorem foldl_removeHeader_target (removed : List Str) (parts : Parts) :
    ∃ headers, removed.foldl Parts.removeHeader parts = { parts with headers } := by
  induction removed generalizing parts with
  | nil => exact ⟨parts.headers, rfl⟩
  | cons first removed ih =>
    obtain ⟨headers, target⟩ := ih (parts.removeHeader first)
    exact ⟨headers, target⟩

variable [HeaderRules] {inner : HttpProxyPassInner} {parts after : Parts}

theorem insertConfigured_cons (header : Str × Str) (others : List (Str × Str)) (parts : Parts) :
    insertConfigured inner (header :: others) parts =
      if header.2 = [] ∨ inner.populateValue parts header.2 = [] then
        insertConfigured inner others parts
      else if isHeaderName header.1 && isHeaderValue (inner.populateValue parts header.2) then
        insertConfigured inner others (parts.insertHeader (headerName header.1)
          (asBytes (inner.populateValue parts header.2)))
      else .panic := by
  rw [insertConfigured]
  by_cases empty : header.2 = []
  · simp [empty]
  · by_cases nothing : inner.populateValue parts header.2 = []
    · simp [empty, nothing]
    · simp [empty, nothing]

variable {headers : List (Str × Str)}

theorem insertConfigured_cases (inserted : insertConfigured inner headers parts = .ret after)
    (name : Str) :
    ((∃ header ∈ headers, SetsHeader inner parts name header) ∧ after.getAll name ≠ []) ∨
      ((∀ header ∈ headers, ¬ SetsHeader inner parts name header) ∧
        after.getAll name = parts.getAll name) := by
  induction headers generalizing parts with
  | nil =>
    cases inserted
    exact .inr ⟨by simp, rfl⟩
  | cons header others ih =>
    rw [insertConfigured_cons] at inserted
    split at inserted
    · next empty =>
        have notSet : ¬ SetsHeader inner parts name header := by
          rintro ⟨_, value, populated⟩
          exact empty.elim value populated
        rcases ih inserted with ⟨⟨other, member, sets⟩, some⟩ | ⟨none, same⟩
        · exact .inl ⟨⟨other, mem_cons_of_mem _ member, sets⟩, some⟩
        refine .inr ⟨?_, same⟩
        intro other member
        rcases mem_cons.mp member with rfl | member
        · exact notSet
        · exact none other member
    · next filled =>
        split at inserted
        · rcases ih inserted with ⟨⟨other, member, sets⟩, some⟩ | ⟨none, same⟩
          · exact .inl ⟨⟨other, mem_cons_of_mem _ member, sets⟩, some⟩
          rw [Parts.getAll_insertHeader] at same
          by_cases named : headerName header.1 = name
          · rw [if_pos named] at same
            refine .inl ⟨⟨header, mem_cons_self, named, not_or.mp filled⟩, ?_⟩
            rw [same]
            exact cons_ne_nil _ _
          rw [if_neg named] at same
          refine .inr ⟨?_, same⟩
          intro other member
          rcases mem_cons.mp member with rfl | member
          · exact fun sets => named sets.1
          · exact none other member
        · cases inserted

theorem insertConfigured_target (inserted : insertConfigured inner headers parts = .ret after) :
    ∃ edited, after = { parts with headers := edited } := by
  induction headers generalizing parts with
  | nil =>
    cases inserted
    exact ⟨_, rfl⟩
  | cons header others ih =>
    rw [insertConfigured_cons] at inserted
    split at inserted
    · exact ih inserted
    split at inserted
    · obtain ⟨edited, target⟩ := ih inserted
      exact ⟨edited, target⟩
    · cases inserted

theorem insertConfigured_returns_iff :
    (∃ after, insertConfigured inner headers parts = .ret after) ↔
      Insertable inner parts headers := by
  induction headers generalizing parts with
  | nil => simp [insertConfigured, Insertable]
  | cons header others ih =>
    rw [insertConfigured_cons, Insertable, forall_mem_cons, ← Insertable]
    split
    · next empty =>
        rw [ih, and_iff_right]
        intro value populated
        exact (empty.elim value populated).elim
    next filled =>
      obtain ⟨value, populated⟩ := not_or.mp filled
      split
      · next accepted =>
          rw [ih, and_iff_right fun _ _ => accepted]
          rfl
      · next refused =>
          simp [value, populated, refused]

variable {config : ModifyHeadersConfig}

theorem modifyHeaders_target (modified : modifyHeaders inner config parts = .ret after) :
    ∃ edited, after = { parts with headers := edited } := by
  obtain ⟨edited, target⟩ := insertConfigured_target modified
  obtain ⟨removed, start⟩ := foldl_removeHeader_target config.remove parts
  rw [start] at target
  exact ⟨edited, target⟩

theorem modifyHeaders_returns_iff :
    (∃ after, modifyHeaders inner config parts = .ret after) ↔
      Insertable inner parts config.addHeaders := by
  obtain ⟨removed, start⟩ := foldl_removeHeader_target config.remove parts
  rw [modifyHeaders, start]
  exact insertConfigured_returns_iff

theorem modifyHeaders_cases
    (modified : modifyHeaders inner config parts = .ret after) (name : Str) :
    ((∃ header ∈ config.addHeaders, SetsHeader inner parts name header) ∧ after.getAll name ≠ []) ∨
      ((∀ header ∈ config.addHeaders, ¬ SetsHeader inner parts name header) ∧ after.getAll name =
          if config.Removes name then [] else parts.getAll name) := by
  obtain ⟨removed, start⟩ := foldl_removeHeader_target config.remove parts
  have values := getAll_foldl_removeHeader config.remove parts name
  rw [modifyHeaders] at modified
  have cases := insertConfigured_cases modified name
  rw [values, start] at cases
  exact cases

/-! ## The address of the client -/

variable {value : Bytes} {text : Str}

omit [Platform] [HeaderRules] in
theorem headerToStr_eq_some (read : headerToStr value = some text) :
    (∀ octet ∈ value, octet = 9 ∨ (32 ≤ octet.toNat ∧ octet.toNat < 127)) ∧
      text = value.map fun octet => Char.ofNat octet.toNat := by
  unfold headerToStr at read
  split at read
  · next visible =>
      cases read
      refine ⟨fun octet member => ?_, rfl⟩
      simpa [UInt8.le_iff_toNat_le, UInt8.lt_iff_toNat_lt] using
        all_eq_true.mp visible octet member
  · cases read

omit [Platform] [HeaderRules] in
theorem headerToStr_visible (read : headerToStr value = some text) {symbol : Char}
    (member : symbol ∈ text) :
    symbol = '\t' ∨ (32 ≤ symbol.toNat ∧ symbol.toNat < 127) := by
  obtain ⟨visible, rfl⟩ := headerToStr_eq_some read
  obtain ⟨octet, inside, rfl⟩ := mem_map.mp member
  rcases visible octet inside with rfl | ⟨low, high⟩
  · exact .inl rfl
  have same : ∀ code : Fin 127, (Char.ofNat code.val).toNat = code.val := by
    decide +kernel
  rw [same ⟨octet.toNat, high⟩]
  exact .inr ⟨low, high⟩

omit [Platform] [HeaderRules] in
theorem asBytes_of_headerToStr (read : headerToStr value = some text) : asBytes text = value := by
  obtain ⟨visible, rfl⟩ := headerToStr_eq_some read
  apply asBytes_map_ofNat
  intro octet member
  rcases visible octet member with rfl | ⟨_, high⟩
  · decide
  · rw [UInt8.lt_iff_toNat_lt]
    exact lt_trans high (by decide)

omit [HeaderRules] in
theorem displayIp_visible {ip : IpAddr} {symbol : Char} (member : symbol ∈ displayIp ip) :
    32 ≤ symbol.toNat ∧ symbol.toNat < 127 := by
  have visible : ∀ symbol ∈ "0123456789abcdef.:".toList, 32 ≤ symbol.toNat ∧ symbol.toNat < 127 :=
    all_iff_forall_prop.mp (by decide)
  exact visible symbol (Platform.displayIp_mem member)

theorem isHeaderValue_forwardedText (existing : Option Bytes) (ip : IpAddr) :
    isHeaderValue (forwardedText existing ip) = true := by
  apply HeaderRules.isHeaderValue_visible
  have address : ∀ symbol ∈ displayIp ip, symbol = '\t' ∨
      (32 ≤ symbol.toNat ∧ symbol.toNat < 127) :=
    fun symbol member => .inr (displayIp_visible member)
  unfold forwardedText
  split
  · next value =>
      split
      · next text read =>
          intro symbol member
          rcases mem_append.mp member with inText | behind
          · exact headerToStr_visible read inText
          · rcases mem_cons.mp behind with rfl | inAddress
            · decide
            · exact address symbol inAddress
      · exact address
  · exact address

/-- The map with the address put in. -/
def withForwardedFor (inner : HttpProxyPassInner) (parts : Parts) : Parts :=
  match inner.connectionIp with
  | none => parts
  | some ip => parts.insertHeader forwardedForName
      (asBytes (forwardedText (parts.getAll forwardedForName).head? ip))

theorem applyAutoXForwardedFor_eq (inner : HttpProxyPassInner) (parts : Parts) :
    applyAutoXForwardedFor inner parts = .ret (withForwardedFor inner parts) := by
  unfold applyAutoXForwardedFor withForwardedFor
  cases inner.connectionIp with
  | none => rfl
  | some ip => simp only [isHeaderValue_forwardedText, if_true]

omit [HeaderRules] in
theorem getAll_withForwardedFor {name : Str} (other : forwardedForName ≠ name)
    (inner : HttpProxyPassInner) (parts : Parts) :
    (withForwardedFor inner parts).getAll name = parts.getAll name := by
  unfold withForwardedFor
  cases inner.connectionIp with
  | none => rfl
  | some ip =>
    dsimp only
    rw [Parts.getAll_insertHeader, if_neg other]

omit [HeaderRules] in
theorem getAll_applyCfIpCountry {name : Str} (other : countryName ≠ name)
    (inner : HttpProxyPassInner) (info : HttpEndpointInfo) (parts : Parts) :
    (applyCfIpCountry inner info parts).getAll name = parts.getAll name := by
  unfold applyCfIpCountry
  split
  · rfl
  split
  · rfl
  · split
    · rfl
    · rw [Parts.getAll_insertHeader, if_neg other]

/-- The steps of `process_headers`; only the settings can fail. -/
theorem processHeaders_eq_ret_iff {location : ProxyPassLocationConfig} {info : HttpEndpointInfo} :
    processHeaders inner location info parts = .ret after ↔
      ∃ located ended,
        modifyHeaders inner location.modifyRequestHeaders parts = .ret located ∧
          modifyHeaders inner info.modifyRequestHeaders located = .ret ended ∧
            after = applyCfIpCountry inner info (withForwardedFor inner ended) := by
  simp only [processHeaders, applyAutoXForwardedFor_eq, Outcome.bind_eq_ret_iff]
  constructor
  · rintro ⟨located, modified, ended, again, forwarded, address, finished⟩
    cases address
    cases finished
    exact ⟨located, ended, modified, again, rfl⟩
  · rintro ⟨located, ended, modified, again, rfl⟩
    exact ⟨located, modified, ended, again, _, rfl, rfl⟩

theorem processHeaders_returns_iff {location : ProxyPassLocationConfig} {info : HttpEndpointInfo} :
    (∃ after, processHeaders inner location info parts = .ret after) ↔
      Insertable inner parts location.modifyRequestHeaders.addHeaders ∧
        Insertable inner parts info.modifyRequestHeaders.addHeaders := by
  simp only [processHeaders_eq_ret_iff]
  constructor
  · rintro ⟨_, located, ended, modified, again, _⟩
    obtain ⟨edited, rfl⟩ := modifyHeaders_target modified
    have ofEndpoint : Insertable inner { parts with headers := edited }
        info.modifyRequestHeaders.addHeaders :=
      modifyHeaders_returns_iff.mp ⟨ended, again⟩
    exact ⟨modifyHeaders_returns_iff.mp ⟨_, modified⟩, ofEndpoint⟩
  · rintro ⟨ofLocation, ofEndpoint⟩
    obtain ⟨located, modified⟩ := modifyHeaders_returns_iff.mpr ofLocation
    obtain ⟨edited, rfl⟩ := modifyHeaders_target modified
    obtain ⟨ended, again⟩ : ∃ ended, modifyHeaders inner
        info.modifyRequestHeaders { parts with headers := edited } =
          .ret ended :=
      modifyHeaders_returns_iff.mpr ofEndpoint
    exact ⟨_, _, ended, modified, again, rfl⟩

end

end ReverseProxy
