import ReverseProxy.H1ProxyServer.CompileHeaders

/-!
# The rewritten head as a list of lines

The loop of `compile_headers` over positions is a filter over the lines of
the head, and what it builds is again a message head as long as nothing that
the configuration inserts contains a line end.
-/

namespace ReverseProxy

open Library MessageHead Outcome Http1Headers List

theorem headerLine_free {name value : Bytes} (nameFree : CrLfFree name)
    (valueFree : CrLfFree value) : CrLfFree (headerLine name value) := by
  have spaced : CrLfFree ([] ++ 32 :: value) :=
    SeparatorFree.nil.append_cons valueFree (by decide) (by decide)
  have line : CrLfFree (name ++ 58 :: ([] ++ 32 :: value)) :=
    nameFree.append_cons spaced (by decide) (by decide)
  have equality : headerLine name value = name ++ 58 :: ([] ++ 32 :: value) := by
    simp [headerLine, show ascii ": " = [58, 32] from rfl]
  rwa [equality]

theorem trim_isInfix (text : Str) : trim text <:+: text :=
  (IsPrefix.isInfix <| rdropWhile_prefix _ _).trans (dropWhile_suffix _).isInfix

theorem trimmed_free {value : Bytes} (free : CrLfFree value) :
    CrLfFree (asBytes (trim ((fromUtf8 value).getD []))) := by
  cases decoded : fromUtf8 value with
  | none => exact SeparatorFree.nil
  | some text =>
    exact free.of_isInfix (asBytes_infix_of_fromUtf8 decoded (trim_isInfix text))

theorem intercalate_free {parts : List Bytes} (free : ∀ part ∈ parts, CrLfFree part) :
    CrLfFree ([32].intercalate parts) := by
  induction parts with
  | nil => exact SeparatorFree.nil
  | cons part parts ih =>
    have partFree := free part (by simp)
    have rest := ih fun other member => free other (by simp [member])
    cases parts with
    | nil => simpa [intercalate] using partFree
    | cons next others =>
      have joined : CrLfFree (part ++ 32 :: [32].intercalate (next :: others)) :=
        partFree.append_cons rest (by decide) (by decide)
      simpa [intercalate] using joined

theorem infix_intercalate {parts : List Bytes} {part : Bytes}
    (member : part ∈ parts) : part <:+: [32].intercalate parts := by
  induction parts with
  | nil => simp at member
  | cons first parts ih =>
    cases parts with
    | nil =>
      have only : part = first := by simpa using member
      subst only
      simp [intercalate]
    | cons next others =>
      have joined : [32].intercalate (first :: next :: others) =
          first ++ ([32] ++ [32].intercalate (next :: others)) := by
        simp [intercalate]
      rw [joined]
      rcases mem_cons.mp member with rfl | member
      · exact (prefix_append _ _).isInfix
      · exact (ih member).trans ((suffix_append _ _).trans (suffix_append _ _)).isInfix

theorem firstLineWithOtherPath_free {firstLine path : Bytes}
    (free : CrLfFree firstLine) (pathFree : CrLfFree path) :
    CrLfFree (firstLineWithOtherPath firstLine path) := by
  have parts : ∀ part ∈ firstLine.splitOn 32, CrLfFree part := by
    intro part member
    apply free.of_isInfix
    have inside := infix_intercalate member
    rwa [intercalate_splitOn] at inside
  apply intercalate_free
  unfold replaceTarget
  split
  · next method target others split =>
      rw [split] at parts
      intro part member
      rcases mem_cons.mp member with rfl | member
      · exact parts _ (by simp)
      · rcases mem_cons.mp member with rfl | member
        · exact pathFree
        · exact parts part (by simp [member])
  · exact parts

theorem headerLine_ne_nil (name value : Bytes) : headerLine name value ≠ [] := by
  simp [headerLine, show ascii ": " = [58, 32] from rfl]

variable {line : Bytes}

theorem responseHeaders_cases {kind : H1HeadersKind} (member : line ∈ responseHeaders kind) :
    line = headerLine (ascii "Connection") (ascii "close") ∨
      line = headerLine (ascii "Strict-Transport-Security")
        (ascii "max-age=31536000; includeSubDomains; preload") := by
  cases kind with
  | request info => simp [responseHeaders] at member
  | response info =>
    simp only [responseHeaders, mem_append] at member
    rcases member with close | hsts
    · split at close
      · simp at close
      · exact .inl (by simpa using close)
    · split at hsts
      · exact .inr (by simpa using hsts)
      · simp at hsts

theorem responseHeaders_line {kind : H1HeadersKind}
    (member : line ∈ responseHeaders kind) : CrLfFree line ∧ line ≠ [] := by
  rcases responseHeaders_cases member with rfl | rfl
  all_goals exact ⟨SeparatorFree.of_not_mem (by decide), headerLine_ne_nil _ _⟩

variable [SliceOfU8Ext] [Platform]

/-- What is copied of a line `name:value`. -/
def copiedField (context : CompileContext) (name value : Bytes) :
    Option Bytes :=
  if context.skipForDynamicProxy name || context.kind.modifyHeaders.hasToBeRemoved name then
    none
  else if isNamed name (ascii "x-forwarded-for") then
    match context.clientIp with
    | some ip =>
      some (headerLine (ascii "X-Forwarded-For")
        (asBytes (trim ((fromUtf8 value).getD [])) ++ ascii "," ++ asBytes (displayIp ip)))
    | none => some (name ++ 58 :: value)
  else if context.kind.injectCountry && isNamed name (ascii "cf-ipcountry") then
    none
  else
    some (name ++ 58 :: value)

def copiedLine (context : CompileContext) (line : Bytes) : Option Bytes :=
  match splitField line with
  | some (name, value) => copiedField context name value
  | none => none

def copiedLines (context : CompileContext) (lines : List Bytes) :
    List Bytes :=
  lines.filterMap (copiedLine context)

/-- An `X-Forwarded-For` line of this name is written again. -/
def forwardsXff (context : CompileContext) (name : Bytes) : Bool :=
  !(context.skipForDynamicProxy name || context.kind.modifyHeaders.hasToBeRemoved name) &&
    isNamed name (ascii "x-forwarded-for")

def writesXff (context : CompileContext) (lines : List Bytes) : Bool := lines.any fun line =>
    match splitField line with
    | some (name, _) => forwardsXff context name
    | none => false

omit [SliceOfU8Ext] in
theorem copyHeader_eq (context : CompileContext) (name value : Bytes) :
    copyHeader context (name ++ 58 :: value) name.length =
      (joinLines (copiedField context name value).toList, forwardsXff context name) := by
  have nameTaken : (name ++ 58 :: value).take name.length = name := by simp
  have valueLeft : (name ++ 58 :: value).drop (name.length + 1) = value := by
    simp
  unfold copyHeader copiedField forwardsXff
  simp only [nameTaken, valueLeft]
  cases context.skipForDynamicProxy name || context.kind.modifyHeaders.hasToBeRemoved name with
  | true => rfl
  | false =>
    cases isNamed name (ascii "x-forwarded-for") with
    | true =>
      cases context.clientIp with
      | none => simp
      | some ip => simp [pushHeader]
    | false =>
      cases context.kind.injectCountry && isNamed name (ascii "cf-ipcountry") with
      | true => rfl
      | false => simp

/-! ## The copy loop -/

omit [Platform] in
theorem findBytePos_field {name : Bytes} (value : Bytes) (absent : (58 : UInt8) ∉ name) :
    findBytePos (name ++ 58 :: value) 58 0 = some name.length := by
  rw [SliceOfU8Ext.findBytePos_eq_some_iff (Nat.zero_le _)]
  simpa using firstAt_of_not_mem [] value absent

omit [Platform] in
theorem findBytePos_none (absent : (58 : UInt8) ∉ line) :
    findBytePos line 58 0 = none := by
  cases found : findBytePos line 58 0 with
  | none => rfl
  | some pos =>
    rw [SliceOfU8Ext.findBytePos_eq_some_iff (Nat.zero_le _)] at found
    exact (absent (@FirstAt.mem _ [] line 58 pos found)).elim

theorem copyHeaders_end (context : CompileContext) (before rest : Bytes)
    (fuel : Nat) (builder : Bytes) (xffWritten : Bool) :
    copyHeaders context (before ++ httpCrLf ++ rest) (fuel + 1) before.length
      builder xffWritten = .ret (.ok (builder, xffWritten)) := by
  have position := findSequencePos_line before rest SeparatorFree.nil
  simp only [append_nil, length_nil, Nat.add_zero] at position
  rw [copyHeaders, position]
  simp

theorem copyHeaders_line (context : CompileContext) (before : Bytes)
    (after : Bytes) (fuel : Nat) (builder : Bytes)
    (xffWritten : Bool) (free : CrLfFree line) (nonempty : line ≠ []) :
    copyHeaders context (before ++ line ++ httpCrLf ++ after) (fuel + 1)
        before.length builder xffWritten =
      match splitField line with
      | none => .ret (.error (.headersParseError noColonMessage))
      | some (name, value) =>
        copyHeaders context (before ++ line ++ httpCrLf ++ after) fuel
          (before ++ line ++ httpCrLf).length
          (builder ++ joinLines (copiedField context name value).toList)
          (xffWritten || forwardsXff context name) := by
  have notEmpty : before.length + line.length ≠ before.length := by simpa using nonempty
  have header := slice_append before line (httpCrLf ++ after)
  rw [← append_assoc] at header
  rw [copyHeaders, findSequencePos_line before after free,
    length_line]
  simp only [notEmpty, if_false, header, bind_ret]
  cases split : splitField line with
  | none => simp [findBytePos_none (splitField_eq_none_iff.mp split)]
  | some field =>
    obtain ⟨name, value⟩ := field
    obtain ⟨rfl, absent⟩ := splitField_eq_some_iff.mp split
    simp only [findBytePos_field value absent, copyHeader_eq]

theorem copyHeaders_lines (context : CompileContext) (before : Bytes)
    {lines : List Bytes} (rest : Bytes) {fuel : Nat} (builder : Bytes)
    (xffWritten : Bool) (free : ∀ line ∈ lines, CrLfFree line)
    (nonempty : ∀ line ∈ lines, line ≠ []) (enough : lines.length < fuel) :
    copyHeaders context (before ++ joinLines lines ++ httpCrLf ++ rest) fuel
        before.length builder xffWritten =
      if ∀ line ∈ lines, (58 : UInt8) ∈ line then
        .ret (.ok (builder ++ joinLines (copiedLines context lines),
          xffWritten || writesXff context lines))
      else .ret (.error (.headersParseError noColonMessage)) := by
  induction lines generalizing before fuel builder xffWritten with
  | nil =>
    obtain ⟨fuel, rfl⟩ := Nat.exists_eq_add_one_of_ne_zero (Nat.ne_of_gt enough)
    simp only [joinLines_nil, append_nil]
    rw [copyHeaders_end]
    simp [copiedLines, writesXff]
  | cons line lines ih =>
    obtain ⟨fuel, rfl⟩ := Nat.exists_eq_add_one_of_ne_zero (Nat.ne_of_gt (Nat.zero_lt_of_lt enough))
    have source : before ++ joinLines (line :: lines) ++ httpCrLf ++
        rest = before ++ line ++ httpCrLf ++ (joinLines lines ++ httpCrLf ++ rest) := by
      simp
    rw [source, copyHeaders_line context before _ fuel builder xffWritten
      (free line (by simp)) (nonempty line (by simp))]
    cases split : splitField line with
    | none =>
      have absent := splitField_eq_none_iff.mp split
      simp [absent]
    | some field =>
      obtain ⟨name, value⟩ := field
      obtain ⟨rfl, _⟩ := splitField_eq_some_iff.mp split
      have tail := ih (before ++ (name ++ 58 :: value) ++ httpCrLf)
        (builder ++ joinLines (copiedField context name value).toList)
        (xffWritten || forwardsXff context name)
        (fun other member => free other (by simp [member]))
        (fun other member => nonempty other (by simp [member]))
        (by simpa using enough)
      simp only [← append_assoc] at tail ⊢
      rw [tail]
      cases kept : copiedField context name value with
      | none =>
        simp [copiedLines, copiedLine, writesXff, split, kept, Bool.or_assoc]
      | some copy =>
        simp [copiedLines, copiedLine, writesXff, split, kept, Bool.or_assoc]

/-! ## Lines stay lines -/

section

omit [SliceOfU8Ext]

theorem displayIp_free (ip : IpAddr) : CrLfFree (asBytes (displayIp ip)) := by
  apply SeparatorFree.of_not_mem
  intro present
  obtain ⟨symbol, member, encoded⟩ := mem_flatMap.mp present
  have plain : ∀ symbol ∈ "0123456789abcdef.:".toList,
      (13 : UInt8) ∉ String.utf8EncodeChar symbol :=
    all_iff_forall_prop.mp (by decide)
  exact plain symbol (Platform.displayIp_mem member) encoded

variable {context : CompileContext} {line : Bytes}

theorem copiedLine_free {copy : Bytes} (free : CrLfFree line)
    (copied : copiedLine context line = some copy) :
    CrLfFree copy ∧ copy ≠ [] := by
  unfold copiedLine at copied
  cases split : splitField line with
  | none => simp [split] at copied
  | some field =>
    obtain ⟨name, value⟩ := field
    have lineEq := (splitField_eq_some_iff.mp split).1
    have valueFree : CrLfFree value := by
      apply free.of_isInfix
      exact ⟨name ++ [58], [], by simp [lineEq]⟩
    have forwarded (ip : IpAddr) := headerLine_free (show CrLfFree (ascii "X-Forwarded-For") from
        SeparatorFree.of_not_mem (by decide))
      ((trimmed_free valueFree).append_cons (displayIp_free ip)
        (show (44 : UInt8) ≠ 13 by decide) (by decide))
    simp only [split, copiedField] at copied
    split at copied
    · contradiction
    split at copied
    · split at copied
      · next ip _ =>
          cases copied
          refine ⟨?_, by simp [headerLine, ascii]⟩
          simpa [show ascii "," = [44] from rfl] using forwarded ip
      · cases copied
        exact ⟨lineEq ▸ free, by simp⟩
    · split at copied
      · contradiction
      · cases copied
        exact ⟨lineEq ▸ free, by simp⟩

/-- Nothing that the configuration inserts contains a line end. -/
structure PlainInsertions (context : CompileContext) (added : List Bytes) : Prop where
  mcpPath : ∀ {path}, context.mcpPath = some path → CrLfFree (asBytes path)
  hostOverride : ∀ {host}, context.dynamicProxyHostOverride = some host → CrLfFree (asBytes host)
  added : ∀ line ∈ added, CrLfFree line

/-! ## The lines the proxy writes itself -/

def addressHeaders (context : CompileContext) (xffWritten : Bool) :
    List Bytes :=
  match xffWritten, context.clientIp with
  | false, some ip =>
    [headerLine (ascii "X-Forwarded-For") (asBytes (displayIp ip))]
  | _, _ => []

/-- The country of the client address, where it is known. -/
def clientCountry (context : CompileContext) : Option Bytes :=
  (context.connectionInfo.connectionIp.bind lookupCountry).map fun code => [code.1, code.2]

def countryHeaders (context : CompileContext) : List Bytes :=
  if context.kind.injectCountry then
    ((clientCountry context).map (headerLine (ascii "CF-IPCountry"))).toList
  else []

def overrideHeaders (context : CompileContext) : List Bytes :=
  (context.dynamicProxyHostOverride.map fun host =>
    headerLine (ascii "Host") (asBytes host)).toList

theorem ownHeaders_eq (context : CompileContext) (xffWritten : Bool) :
    ownHeaders context xffWritten = addressHeaders context xffWritten ++
      countryHeaders context ++ overrideHeaders context := by
  unfold ownHeaders addressHeaders countryHeaders overrideHeaders clientCountry
  cases context.connectionInfo.connectionIp.bind lookupCountry with
  | none | some code =>
    cases context.dynamicProxyHostOverride with
    | none => rfl
    | some host => rfl

variable {xffWritten : Bool}

theorem addressHeaders_line (member : line ∈ addressHeaders context xffWritten) :
    CrLfFree line ∧ ∃ value, line = headerLine (ascii "X-Forwarded-For") value := by
  unfold addressHeaders at member
  split at member
  · next ip _ =>
      obtain rfl := mem_singleton.mp member
      exact ⟨headerLine_free (SeparatorFree.of_not_mem (by decide)) (displayIp_free ip), _, rfl⟩
  · cases member

theorem clientCountry_letters {code : Bytes}
    (found : clientCountry context = some code) {octet : UInt8}
    (member : octet ∈ code) : 65 ≤ octet ∧ octet ≤ 90 := by
  obtain ⟨⟨first, second⟩, looked, rfl⟩ := Option.map_eq_some_iff.mp found
  obtain ⟨ip, _, looked⟩ := Option.bind_eq_some_iff.mp looked
  have letters := Platform.lookupCountry_letters looked
  have either : octet = first ∨ octet = second := by simpa using member
  rcases either with rfl | rfl
  · exact letters.1
  · exact letters.2

theorem clientCountry_free {code : Bytes}
    (found : clientCountry context = some code) : CrLfFree code :=
  SeparatorFree.of_not_mem fun present =>
    absurd (clientCountry_letters found present).1 (by decide)

theorem countryHeaders_line (member : line ∈ countryHeaders context) :
    CrLfFree line ∧ ∃ code, clientCountry context = some code ∧
      line = headerLine (ascii "CF-IPCountry") code := by
  unfold countryHeaders at member
  split at member
  · obtain ⟨code, found, rfl⟩ := Option.map_eq_some_iff.mp (Option.mem_toList.mp member)
    exact ⟨headerLine_free (SeparatorFree.of_not_mem (by decide))
      (clientCountry_free found), code, found, rfl⟩
  · cases member

omit [Platform] in
theorem overrideHeaders_line {context : CompileContext} {line : Bytes}
    (member : line ∈ overrideHeaders context) :
    ∃ host, context.dynamicProxyHostOverride = some host ∧
      line = headerLine (ascii "Host") (asBytes host) := by
  obtain ⟨host, found, rfl⟩ := Option.map_eq_some_iff.mp (Option.mem_toList.mp member)
  exact ⟨host, found, rfl⟩

theorem ownHeaders_free {added : List Bytes} (plain : PlainInsertions context added)
    (member : line ∈ ownHeaders context xffWritten) :
    CrLfFree line := by
  rw [ownHeaders_eq, mem_append, mem_append] at member
  rcases member with (address | country) | override
  · exact (addressHeaders_line address).1
  · exact (countryHeaders_line country).1
  · obtain ⟨host, present, rfl⟩ := overrideHeaders_line override
    exact headerLine_free (SeparatorFree.of_not_mem (by decide)) (plain.hostOverride present)

/-- The names of the lines the proxy writes itself. -/
def writtenNames : List Bytes := [ascii "X-Forwarded-For", ascii "CF-IPCountry", ascii "Host"]

theorem ownHeaders_named (member : line ∈ ownHeaders context xffWritten) :
    ∃ name ∈ writtenNames, ∃ value, line = headerLine name value := by
  rw [ownHeaders_eq, mem_append, mem_append] at member
  rcases member with (address | country) | override
  · obtain ⟨_, value, rfl⟩ := addressHeaders_line address
    exact ⟨_, by simp [writtenNames], value, rfl⟩
  · obtain ⟨_, code, _, rfl⟩ := countryHeaders_line country
    exact ⟨_, by simp [writtenNames], code, rfl⟩
  · obtain ⟨host, _, rfl⟩ := overrideHeaders_line override
    exact ⟨_, by simp [writtenNames], _, rfl⟩

theorem ownHeaders_ne_nil (member : line ∈ ownHeaders context xffWritten) : line ≠ [] := by
  obtain ⟨name, _, value, rfl⟩ := ownHeaders_named member
  exact headerLine_ne_nil name value

end

variable {context : CompileContext}

theorem addedHeaders_ne_nil {reader : HttpHeadersReader} {config : List (Str × Str)}
    {added : List Bytes} (configured : addedHeaders context reader config = .ret added) :
    ∀ line ∈ added, line ≠ [] := by
  induction config generalizing added with
  | nil =>
    cases configured
    simp
  | cons header others ih =>
    obtain ⟨name, value⟩ := header
    rw [addedHeaders] at configured
    split at configured
    · exact ih configured
    simp only [bind_eq_ret_iff] at configured
    obtain ⟨populated, _, rest, configuredRest, made⟩ := configured
    split at made
    · cases made
      exact ih configuredRest
    cases made
    intro line member
    rcases mem_cons.mp member with rfl | member
    · exact headerLine_ne_nil _ _
    · exact ih configuredRest line member

/-! ## The forwarded head -/

def forwardedFirstLine (context : CompileContext) (firstLine : Bytes) :
    Bytes :=
  match context.mcpPath with
  | some path => firstLineWithOtherPath firstLine (asBytes path)
  | none => firstLine

omit [SliceOfU8Ext] [Platform] in
theorem compileFirstLine_eq {head : MessageHead} {rest : Bytes} {headers : Http1Headers}
    (firstLineEnd : headers.firstLineEnd = head.firstLine.length) :
    compileFirstLine context (head.bytes ++ rest) headers =
      forwardedFirstLine context head.firstLine ++ httpCrLf := by
  unfold compileFirstLine forwardedFirstLine
  cases context.mcpPath with
  | none =>
    have length : head.firstLine.length + httpCrLf.length =
        (head.firstLine ++ httpCrLf).length := by
      simp
    simp only [firstLineEnd, length, bytes, append_assoc]
    rw [← append_assoc, take_left]
  | some path => simp [firstLineEnd, bytes]

omit [SliceOfU8Ext] [Platform] in
theorem forwardedFirstLine_free {added : List Bytes} (plain : PlainInsertions context added)
    {firstLine : Bytes} (free : CrLfFree firstLine) :
    CrLfFree (forwardedFirstLine context firstLine) := by
  unfold forwardedFirstLine
  cases path : context.mcpPath with
  | none => exact free
  | some path => exact firstLineWithOtherPath_free free (plain.mcpPath path)

/-- The lines of the compiled head, given the configured ones. -/
def compiledLines (context : CompileContext) (lines added : List Bytes) :
    List Bytes :=
  copiedLines context lines ++ ownHeaders context (writesXff context lines) ++
    added ++ responseHeaders context.kind

/-- The octets `compile_headers` leaves in its builder. -/
def compiledBytes (context : CompileContext) (head : MessageHead) (added : List Bytes) : Bytes :=
  forwardedFirstLine context head.firstLine ++ httpCrLf ++
    joinLines (compiledLines context head.lines added) ++ httpCrLf

theorem buildHead_lines {head : MessageHead} {rest : Bytes} {headers : Http1Headers}
    (firstLineEnd : headers.firstLineEnd = head.firstLine.length) :
    buildHead context (head.bytes ++ rest) headers =
      if ∀ line ∈ head.lines, (58 : UInt8) ∈ line then do
        let added ← addedHeaders context { httpHeaders := headers, payload := head.bytes ++ rest }
          context.kind.modifyHeaders.addHeaders
        return .ok (compiledBytes context head added)
      else .ret (.error (.headersParseError noColonMessage)) := by
  have source : head.bytes ++ rest = head.firstLine ++ httpCrLf ++
      joinLines head.lines ++ httpCrLf ++ rest := by
    simp [bytes]
  have start : headers.firstLineEnd + httpCrLf.length = (head.firstLine ++ httpCrLf).length := by
    simp [firstLineEnd]
  have enough := head.length_lines_lt rest
  rw [buildHead, compileFirstLine_eq firstLineEnd, start]
  rw [source] at enough ⊢
  rw [copyHeaders_lines context (head.firstLine ++ httpCrLf) rest _ false
    head.linesFree head.linesNonempty enough]
  split
  · simp [compiledBytes, compiledLines]
  · rfl

theorem buildHead_eq_ok {head : MessageHead} {rest out : Bytes} {headers : Http1Headers}
    (firstLineEnd : headers.firstLineEnd = head.firstLine.length)
    (built : buildHead context (head.bytes ++ rest) headers = .ret (.ok out)) :
    (∀ line ∈ head.lines, (58 : UInt8) ∈ line) ∧
    ∃ added xffWritten,
      addedHeaders context { httpHeaders := headers, payload := head.bytes ++ rest }
          context.kind.modifyHeaders.addHeaders = .ret added ∧
        (PlainInsertions context added →
          ∃ forwarded : MessageHead, out = forwarded.bytes ∧
            forwarded.firstLine = forwardedFirstLine context head.firstLine ∧
            forwarded.lines = copiedLines context head.lines ++
              ownHeaders context xffWritten ++ added ++ responseHeaders context.kind) := by
  rw [buildHead_lines firstLineEnd] at built
  split at built
  case isFalse _ => cases built
  case isTrue colons =>
    obtain ⟨added, configured, outEq⟩ := bind_eq_ret_iff.mp built
    refine ⟨colons, added, writesXff context head.lines, configured, ?_⟩
    intro plain
    have lines : ∀ line ∈ compiledLines context head.lines added,
        CrLfFree line ∧ line ≠ [] := by
      intro line member
      simp only [compiledLines, mem_append] at member
      rcases member with ((copy | own) | fromConfig) | response
      · obtain ⟨original, inside, copied⟩ := mem_filterMap.mp copy
        exact copiedLine_free (head.linesFree original inside) copied
      · exact ⟨ownHeaders_free plain own, ownHeaders_ne_nil own⟩
      · exact ⟨plain.added line fromConfig, addedHeaders_ne_nil configured line fromConfig⟩
      · exact responseHeaders_line response
    refine ⟨{ firstLine := forwardedFirstLine context head.firstLine
              lines := compiledLines context head.lines added
              firstLineFree := forwardedFirstLine_free plain head.firstLineFree
              linesFree := fun line member => (lines line member).1
              linesNonempty := fun line member => (lines line member).2 },
      ?_, rfl, rfl⟩
    cases outEq
    rfl

end ReverseProxy
