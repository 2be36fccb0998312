import Mathlib.Data.List.Forall2
import ReverseProxy.H1ProxyServer.TargetReplacement
import ReverseProxy.H1ProxyServer.UpstreamHead

/-!
# Rewriting an accepted head

What `compile_headers` sends for a head is again a head the parser accepts, with
the surviving lines in their order, exactly when every line has a colon and
nothing that is inserted breaks a line or the framing.
-/

namespace ReverseProxy

open Library Rfc7230 Http1Headers List

section

variable [Platform]

/-! ## The client's lines -/

/-- The client's line is sent on: no setting takes headers of its name out. -/
def survives (context : CompileContext) (line : Bytes) : Bool :=
  match splitField line with
  | some (name, _) =>
    !(context.skipForDynamicProxy name || context.kind.modifyHeaders.hasToBeRemoved name) &&
      !(context.kind.injectCountry && isNamed name (ascii "cf-ipcountry"))
  | none => false

/-- The address that is appended to the value of a header. -/
def appendedAddress (context : CompileContext) (name : Bytes) :
    Option IpAddr :=
  if isNamed name (ascii "x-forwarded-for") then context.clientIp else none

/-- The copy is the line itself, or has the client address behind the value of
`X-Forwarded-For`. -/
def CopiedAs (context : CompileContext) (line copy : Bytes) : Prop :=
  ∃ name value, splitField line = some (name, value) ∧
    match appendedAddress context name with
    | none => copy = line
    | some ip => ∃ text, fromUtf8 value = some text ∧ copy = headerLine (ascii "X-Forwarded-For")
          (asBytes (trim text) ++ ascii "," ++ asBytes (displayIp ip))

variable {context : CompileContext}

theorem copiedLine_of_not_survives {line : Bytes} (dropped : survives context line = false) :
    copiedLine context line = none := by
  unfold survives at dropped
  unfold copiedLine
  cases split : splitField line with
  | none => rfl
  | some field =>
    obtain ⟨name, value⟩ := field
    simp only [split] at dropped
    dsimp only
    unfold copiedField
    cases removed : context.skipForDynamicProxy name ||
        context.kind.modifyHeaders.hasToBeRemoved name with
    | true => rw [if_pos rfl]
    | false =>
      have country : (context.kind.injectCountry &&
          isNamed name (ascii "cf-ipcountry")) = true := by
        simpa [removed] using dropped
      have notForwarded : isNamed name (ascii "x-forwarded-for") = false :=
        isNamed_exclusive (Bool.and_eq_true_iff.mp country).2 (by decide)
      simp [notForwarded, country]

theorem copiedLine_of_survives {line : Bytes} (kept : survives context line = true)
    (decodes : ∀ name value, splitField line = some (name, value) →
      (appendedAddress context name).isSome → (fromUtf8 value).isSome) :
    ∃ copy, copiedLine context line = some copy ∧
      CopiedAs context line copy := by
  unfold survives at kept
  unfold copiedLine CopiedAs
  cases split : splitField line with
  | none => simp [split] at kept
  | some field =>
    obtain ⟨name, value⟩ := field
    obtain ⟨lineEq, _⟩ := splitField_eq_some_iff.mp split
    simp only [split, Bool.and_eq_true, Bool.not_eq_true'] at kept
    obtain ⟨notRemoved, notCountry⟩ := kept
    have decoded := decodes name value split
    dsimp only
    unfold copiedField
    unfold appendedAddress at decoded ⊢
    simp only [notRemoved, notCountry, Bool.false_eq_true, if_false]
    cases named : isNamed name (ascii "x-forwarded-for") with
    | false => exact ⟨_, rfl, name, value, rfl, by simp [named, lineEq]⟩
    | true =>
      cases address : context.clientIp with
      | none =>
        exact ⟨_, rfl, name, value, rfl, by simp [named, lineEq]⟩
      | some ip =>
        obtain ⟨text, textEq⟩ := Option.isSome_iff_exists.mp (decoded (by simp [named, address]))
        refine ⟨_, rfl, name, value, rfl, ?_⟩
        simp only [named, if_true]
        exact ⟨text, textEq, by simp [textEq]⟩

/-- Surviving values that get an address are texts. -/
def ForwardsTexts (context : CompileContext) (lines : List Bytes) : Prop :=
  ∀ line ∈ lines, survives context line = true → ∀ name value,
    splitField line = some (name, value) →
      (appendedAddress context name).isSome → (fromUtf8 value).isSome

theorem copiedLines_copiedAs {lines : List Bytes} (texts : ForwardsTexts context lines) :
    List.Forall₂ (CopiedAs context) (lines.filter (survives context))
      (copiedLines context lines) := by
  induction lines with
  | nil => exact .nil
  | cons line lines ih =>
    have others := ih fun other member =>
      texts other (mem_cons_of_mem _ member)
    cases kept : survives context line with
    | false =>
      rw [filter_cons_of_neg (by simp [kept]), copiedLines,
        filterMap_cons_none (copiedLine_of_not_survives kept)]
      exact others
    | true =>
      obtain ⟨copy, copied, isCopy⟩ := copiedLine_of_survives kept
        (texts line mem_cons_self kept)
      rw [filter_cons_of_pos kept, copiedLines, filterMap_cons_some copied]
      exact .cons isCopy others

theorem forwardsTexts_of_copiedAs {lines copies : List Bytes}
    (copied : List.Forall₂ (CopiedAs context) (lines.filter (survives context)) copies) :
    ForwardsTexts context lines := by
  intro line member kept name value split address
  obtain ⟨index, bound, here⟩ := mem_iff_getElem.mp (mem_filter.mpr ⟨member, kept⟩)
  have isCopy := copied.get bound (copied.length_eq ▸ bound)
  rw [get_eq_getElem, here] at isCopy
  obtain ⟨_, _, sameSplit, isCopy⟩ := isCopy
  rw [split] at sameSplit
  cases sameSplit
  obtain ⟨ip, isAddress⟩ := Option.isSome_iff_exists.mp address
  rw [isAddress] at isCopy
  obtain ⟨text, decoded, _⟩ := isCopy
  rw [decoded]
  rfl

end

/-! ## The lines of the rewritten head -/

theorem headerLine_readable {name : Bytes} (value : Bytes) (absent : (58 : UInt8) ∉ name)
    (notFraming : isFraming name = false) :
    ReadableLine (headerLine name value) := by
  have line : headerLine name value = name ++ 58 :: (32 :: value) := by
    simp [headerLine, show ascii ": " = [58, 32] from rfl]
  obtain ⟨notLength, notCoding⟩ := Bool.or_eq_false_iff.mp notFraming
  rw [line, ReadableLine, splitField_append _ absent]
  simp [notLength, notCoding]

theorem colon_mem_headerLine (name value : Bytes) : (58 : UInt8) ∈ headerLine name value := by
  simp [headerLine, show ascii ": " = [58, 32] from rfl]

section

variable [SliceOfU8Ext] [StrUtils] [Platform]

/-- The line can be sent in a head the parser accepts. -/
structure Sendable (line : Bytes) : Prop where
  free : CrLfFree line
  nonempty : line ≠ []
  readable : ReadableLine line
  colon : (58 : UInt8) ∈ line

/-- The head is rewritten into `sent`. -/
structure RewrittenAs (context : CompileContext) (head : MessageHead)
    (rest : Bytes) (sent : MessageHead) : Prop where
  accepted : ∃ headers, parse sent.bytes = .ret (some headers)
  firstLine : match context.mcpPath with
    | none => sent.firstLine = head.firstLine
    | some path => ReplacesTarget head.firstLine sent.firstLine path
  lines : ∃ copies configured,
    sent.lines = copies ++ ownHeaders context (writesXff context head.lines) ++ configured ++
          responseHeaders context.kind ∧
      List.Forall₂ (CopiedAs context) (head.lines.filter (survives context)) copies ∧
      filledHeaders context head rest context.kind.modifyHeaders.addHeaders = some configured

/-- `compile_headers` succeeds for the head the parser accepts in the buffer,
its output is that head rewritten, and the buffer goes on behind the head. -/
def RewritesHead (context : CompileContext) (src : Bytes) : Prop :=
  ∀ headers, parse src = .ret (some headers) →
    ∃ (head : MessageHead) (rest : Bytes) (sent : MessageHead) (webSocketUpgrade : Bool),
      src = head.bytes ++ rest ∧ compileHeaders context src headers =
          .ret (.ok { head := sent.bytes, webSocketUpgrade }) ∧
        RewrittenAs context head rest sent ∧ src.drop headers.stop = rest

/-- What the head and the configuration have to satisfy. -/
structure Rewritable (context : CompileContext) (head : MessageHead)
    (rest : Bytes) : Prop extends HeadCompiles context head rest where
  texts : ForwardsTexts context head.lines
  target : ∀ path, context.mcpPath = some path →
    OneToken path ∧ (TargetInPlace head.firstLine ∨ HasPath head.firstLine path) ∧
        (isResponseLine head.firstLine = true → isValidStatusCode path = true)
  hostOverride : ∀ host, context.dynamicProxyHostOverride = some host → CrLfFree (asBytes host)
  /-- A configured line breaks neither the line nor the framing. -/
  configured : ∀ header ∈ context.kind.modifyHeaders.addHeaders, ∀ line,
    ConfiguredLine context head rest header line → CrLfFree line ∧ ReadableLine line

variable {context : CompileContext} {head : MessageHead} {rest : Bytes}

variable {line : Bytes}

omit [SliceOfU8Ext] [StrUtils] in
theorem copiedLine_sendable {copy : Bytes}
    (free : CrLfFree line) (readable : ReadableLine line)
    (copied : copiedLine context line = some copy) : Sendable copy := by
  obtain ⟨copyFree, nonempty⟩ := copiedLine_free free copied
  suffices rest : ReadableLine copy ∧ (58 : UInt8) ∈ copy from
    ⟨copyFree, nonempty, rest.1, rest.2⟩
  unfold copiedLine at copied
  cases split : splitField line with
  | none => simp [split] at copied
  | some field =>
    obtain ⟨name, value⟩ := field
    obtain ⟨rfl, _⟩ := splitField_eq_some_iff.mp split
    simp only [split, copiedField] at copied
    split at copied
    · cases copied
    split at copied
    · split at copied
      · cases copied
        exact ⟨headerLine_readable _ (by decide) (by decide), colon_mem_headerLine _ _⟩
      · cases copied
        exact ⟨readable, by simp⟩
    split at copied
    · cases copied
    · cases copied
      exact ⟨readable, by simp⟩

variable {added : List Bytes}

omit [SliceOfU8Ext] [StrUtils] in
theorem ownHeaders_sendable (plain : PlainInsertions context added) {xffWritten : Bool}
    (member : line ∈ ownHeaders context xffWritten) : Sendable line := by
  have free := ownHeaders_free plain member
  obtain ⟨name, written, value, rfl⟩ := ownHeaders_named member
  have harmless : ∀ name ∈ writtenNames,
      (58 : UInt8) ∉ name ∧ isFraming name = false := by
    decide
  obtain ⟨absent, notFraming⟩ := harmless name written
  exact ⟨free, headerLine_ne_nil _ _,
    headerLine_readable value absent notFraming, colon_mem_headerLine _ _⟩

omit [SliceOfU8Ext] [StrUtils] [Platform] in
theorem responseHeaders_sendable {kind : H1HeadersKind}
    (member : line ∈ responseHeaders kind) : Sendable line := by
  obtain ⟨free, nonempty⟩ := responseHeaders_line member
  rcases responseHeaders_cases member with rfl | rfl
  · exact ⟨free, nonempty, headerLine_readable _ (by decide) (by decide), colon_mem_headerLine _ _⟩
  · exact ⟨free, nonempty, headerLine_readable _ (by decide) (by decide), colon_mem_headerLine _ _⟩

omit [SliceOfU8Ext] [StrUtils] [Platform] in
theorem OneToken.crLfFree {token : Str} (one : OneToken token) : CrLfFree (asBytes token) :=
  SeparatorFree.of_not_mem (one.not_mem (by decide) (by decide))

omit [SliceOfU8Ext] [StrUtils] in
theorem Rewritable.sendable (passable : Passable head rest)
    (rewritable : Rewritable context head rest) {configured : List Bytes}
    (filled : filledHeaders context head rest
      context.kind.modifyHeaders.addHeaders = some configured)
    (plain : PlainInsertions context configured)
    (member : line ∈ compiledLines context head.lines configured) :
    Sendable line := by
  simp only [compiledLines, mem_append] at member
  rcases member with ((copy | own) | fromConfig) | response
  · obtain ⟨original, inside, copied⟩ := mem_filterMap.mp copy
    exact copiedLine_sendable (head.linesFree original inside)
      (passable.readable original inside) copied
  · exact ownHeaders_sendable plain own
  · obtain ⟨header, inside, isLine⟩ := (mem_filledHeaders filled).mp fromConfig
    obtain ⟨free, readable⟩ := rewritable.configured header inside line isLine
    obtain ⟨_, populated, _, _, rfl⟩ := isLine
    exact ⟨free, headerLine_ne_nil _ _, readable, colon_mem_headerLine _ _⟩
  · exact responseHeaders_sendable response

theorem Rewritable.rewritten (passable : Passable head rest)
    (rewritable : Rewritable context head rest) {configured : List Bytes}
    (filled : filledHeaders context head rest
      context.kind.modifyHeaders.addHeaders = some configured) :
    ∃ sent : MessageHead, compiledBytes context head configured = sent.bytes ∧
      RewrittenAs context head rest sent := by
  have plain : PlainInsertions context configured :=
    { mcpPath := fun path => (rewritable.target _ path).1.crLfFree
      hostOverride := fun host => rewritable.hostOverride _ host
      added := by
        intro line member
        obtain ⟨header, inside, isLine⟩ := (mem_filledHeaders filled).mp member
        exact (rewritable.configured header inside line isLine).1 }
  have sendable : ∀ line ∈ compiledLines context head.lines configured,
      Sendable line :=
    fun line => rewritable.sendable passable filled plain
  have firstLine : (match context.mcpPath with
      | none => forwardedFirstLine context head.firstLine = head.firstLine
      | some path => ReplacesTarget head.firstLine
          (forwardedFirstLine context head.firstLine) path) ∧
      verifyHttp11FirstLine (forwardedFirstLine context head.firstLine) = .ok () := by
    unfold forwardedFirstLine
    cases path : context.mcpPath with
    | none => exact ⟨rfl, passable.verified⟩
    | some path =>
      obtain ⟨one, place, status⟩ := rewritable.target _ path
      have replaces := (replacesTarget_iff passable.verified).mpr ⟨one, place⟩
      exact ⟨replaces, (replaces.verified_iff passable.verified).mpr status⟩
  let sent : MessageHead :=
    { firstLine := forwardedFirstLine context head.firstLine
      lines := compiledLines context head.lines configured
      firstLineFree := forwardedFirstLine_free plain head.firstLineFree
      linesFree := fun line member => (sendable line member).free
      linesNonempty := fun line member => (sendable line member).nonempty }
  have accepted : ∃ headers, parse (sent.bytes ++ []) = .ret (some headers) :=
    parse_of_readable [] firstLine.2
      (fun line member => (sendable line member).readable)
      (fun line member => (sendable line member).colon)
  rw [append_nil] at accepted
  exact ⟨sent, rfl, accepted, firstLine.1, copiedLines context head.lines,
    configured, rfl, copiedLines_copiedAs rewritable.texts, filled⟩

variable {sent : MessageHead}

omit [SliceOfU8Ext] [StrUtils] in
theorem firstLine_of_compiledBytes
    {path : Str} (mcpPath : context.mcpPath = some path) (one : OneToken path)
    (compiled : compiledBytes context head added = sent.bytes) :
    sent.firstLine = firstLineWithOtherPath head.firstLine (asBytes path) := by
  have free := firstLineWithOtherPath_free head.firstLineFree one.crLfFree
  have source : firstLineWithOtherPath head.firstLine (asBytes path) ++
      httpCrLf ++ (joinLines (compiledLines context head.lines added) ++
        httpCrLf) = sent.firstLine ++ httpCrLf ++ (joinLines sent.lines ++ httpCrLf) := by
    simpa [compiledBytes, forwardedFirstLine, mcpPath, MessageHead.bytes]
      using compiled
  exact (line_unique free sent.firstLineFree source).1.symm

theorem RewrittenAs.passable (rewritten : RewrittenAs context head rest sent) :
    Passable sent [] := by
  apply parse_accepts_iff.mp
  rw [append_nil]
  exact rewritten.accepted

theorem RewrittenAs.target (passable : Passable head rest)
    (compiled : compiledBytes context head added = sent.bytes)
    (rewritten : RewrittenAs context head rest sent) {path : Str}
    (mcpPath : context.mcpPath = some path) :
    OneToken path ∧ (TargetInPlace head.firstLine ∨ HasPath head.firstLine path) ∧
        (isResponseLine head.firstLine = true → isValidStatusCode path = true) := by
  have replaces := rewritten.firstLine
  rw [mcpPath] at replaces
  dsimp only at replaces
  have one : OneToken path := by
    obtain ⟨method, _, others, _, _, _, tokens, _⟩ := replaces
    exact oneToken_of_lineTokens tokens (by simp)
  have status := (replaces.verified_iff passable.verified).mp rewritten.passable.verified
  rw [firstLine_of_compiledBytes mcpPath one compiled] at replaces
  obtain ⟨_, place⟩ := (replacesTarget_iff passable.verified).mp replaces
  exact ⟨one, place, status⟩

theorem RewrittenAs.rewritable (passable : Passable head rest)
    (bytes : compiledBytes context head added = sent.bytes)
    (rewritten : RewrittenAs context head rest sent)
    (compiles : HeadCompiles context head rest) :
    Rewritable context head rest := by
  obtain ⟨copies, configured, lines, copied, filled⟩ := rewritten.lines
  refine
    { compiles with
      texts := forwardsTexts_of_copiedAs copied
      target := fun path => rewritten.target passable bytes
      hostOverride := ?_
      configured := ?_ }
  · intro host override
    have member : headerLine (ascii "Host") (asBytes host) ∈ sent.lines := by
      rw [lines]
      simp [ownHeaders, override]
    exact (sent.linesFree _ member).of_isInfix (suffix_append _ _).isInfix
  · intro header inside line isLine
    have configuredLine := (mem_filledHeaders filled).mpr ⟨header, inside, isLine⟩
    have member : line ∈ sent.lines := by
      rw [lines]
      simp [configuredLine]
    exact ⟨sent.linesFree line member, rewritten.passable.readable line member⟩

theorem rewritesHead_iff_rewritable (context : CompileContext) (src : Bytes) :
    RewritesHead context src ↔
      ∀ (head : MessageHead) (rest : Bytes), src = head.bytes ++ rest →
        Passable head rest → Rewritable context head rest := by
  constructor
  · rintro rewrites head rest rfl passable
    obtain ⟨headers, accepted⟩ := parse_accepts_iff.mpr passable
    obtain ⟨other, otherRest, sent, upgrade, same, compiled, rewritten, _⟩ :=
      rewrites headers accepted
    obtain ⟨rfl, rfl⟩ := MessageHead.unique same
    obtain ⟨compiles, _, _, _, bytes⟩ := (compileHeaders_eq_ok_iff accepted).mp compiled
    exact rewritten.rewritable passable bytes.symm compiles
  · intro rewritable headers accepted
    obtain ⟨head, rest, rfl⟩ := exists_head_of_parse accepted
    have passable := parse_accepts_iff.mp ⟨headers, accepted⟩
    have fine := rewritable head rest rfl passable
    obtain ⟨configured, filled⟩ := Option.isSome_iff_exists.mp (fillable_iff.mp fine.fillable)
    obtain ⟨sent, bytes, rewritten⟩ := fine.rewritten passable filled
    obtain ⟨found, read⟩ := readUpgrade_returns_iff.mpr fine.upgrade
    refine ⟨head, rest, sent, found, rfl, ?_, rewritten, ?_⟩
    · exact (compileHeaders_eq_ok_iff accepted).mpr
        ⟨fine.toHeadCompiles, configured, filled, read, bytes.symm⟩
    · rw [(acceptedHead_of_parse accepted).stop, drop_left]

end

section

attribute [local instance] linearSearch asciiCase barePlatform

private def rewritingEndpoint : HttpEndpointInfo :=
  { hostEndpoint := { src := "80".toList, port := some 80, index := none }
    listenEndpointType := .http1 }

private def rewritingContext : CompileContext :=
  { kind := .request rewritingEndpoint
    connectionInfo :=
      { cnUserName := none
        connectionIp := some (.v4 0)
        endpointInfo := some rewritingEndpoint
        listenConfig := { endpoints := [rewritingEndpoint], listenEndpointType := .http1 } }
    identity := none
    mcpPath := none
    dynamicProxyHostOverride := none }

private def rewritingRequest (lines : Bytes) : Bytes :=
  ascii "GET / HTTP/1.1\r\n" ++ lines ++ ascii "\r\n\r\n"

private def rewritten (src : Bytes) :
    Outcome (Option (Except ProxyServerError Bytes)) := do
  match ← parse src with
  | none => return none
  | some headers =>
    match ← compileHeaders rewritingContext src headers with
    | .error err => return some (.error err)
    | .ok compiled => return some (.ok compiled.head)

/-- A line without a colon is accepted in front of one that has it and refused
when the head is rewritten, the `Upgrade` value `web` panics, and an
`X-Forwarded-For` value that is no text is lost. -/
theorem accepted_heads_fail_to_rewrite :
    rewritten (rewritingRequest (ascii "Folded\r\nHost: a")) =
        .ret (some (.error (.headersParseError noColonMessage))) ∧
      ¬ RewritesHead rewritingContext (rewritingRequest (ascii "Folded\r\nHost: a")) ∧
      rewritten (rewritingRequest (ascii "Upgrade: web")) = .panic ∧
      rewritten (rewritingRequest (ascii "X-Forwarded-For: 9.9.9.9" ++ [255])) =
        .ret (some (.ok (rewritingRequest (ascii "X-Forwarded-For: ,127.0.0.1")))) := by
  have refused : rewritten (rewritingRequest (ascii "Folded\r\nHost: a")) =
      .ret (some (.error (.headersParseError noColonMessage))) := by
    decide +kernel
  refine ⟨refused, ?_, by decide +kernel, by decide +kernel⟩
  intro rewrites
  rw [rewritten, Outcome.bind_eq_ret_iff] at refused
  obtain ⟨result, parsed, compiled⟩ := refused
  cases result with
  | none => cases compiled
  | some headers =>
    obtain ⟨_, _, _, _, _, succeeds, _⟩ := rewrites headers parsed
    dsimp only at compiled
    rw [succeeds, Outcome.bind_ret] at compiled
    cases compiled

end

end ReverseProxy
