import ReverseProxy.H1ProxyServer.ForwardedHead
import ReverseProxy.H1Utils.RecordedFraming

/-!
# Framing of a forwarded request

The proxy relays a request body by the framing the parser recorded, while the
upstream frames the same bytes by the head it is sent.  This module decides
for which requests the two agree.
-/

namespace ReverseProxy

open Library Rfc7230 Http1Headers List

/-! ## Framing fields of the forwarded head -/

/-- Names the proxy rewrites or generates on its own. -/
def ownNames : List Bytes := ["host", "proxy-to", "x-forwarded-for", "cf-ipcountry", "connection",
    "strict-transport-security"].map ascii

def NotOwn (header : Bytes) : Prop := ∀ own ∈ ownNames, header.map toLowerCase ≠ own.map toLowerCase

instance (header : Bytes) : Decidable (NotOwn header) :=
  inferInstanceAs (Decidable (∀ own ∈ ownNames, _))

variable {name : Bytes}

theorem hasToBeRemoved_congr (config : ModifyHeadersConfig)
    {header : Bytes} (named : isNamed name header) :
    config.hasToBeRemoved name = config.hasToBeRemoved header := by
  have same : name.map toLowerCase = header.map toLowerCase := by
    simpa [isNamed] using named
  simp [ModifyHeadersConfig.hasToBeRemoved, isNamed, same]

theorem rawValues_cons (header line : Bytes) (lines : List Bytes) :
    rawValues header (line :: lines) = rawValues header [line] ++ rawValues header lines :=
  rawValues_append header [line] lines

theorem rawValues_eq_flatMap (header : Bytes) (lines : List Bytes) :
    rawValues header lines = lines.flatMap fun line => rawValues header [line] := by
  induction lines with
  | nil => rfl
  | cons line lines ih => rw [rawValues_cons, ih, flatMap_cons]

theorem rawValues_field {header value : Bytes} (absent : (58 : UInt8) ∉ name) :
    rawValues header [name ++ 58 :: value] =
      if isNamed name header then [value] else [] := by
  cases named : isNamed name header with
  | true | false => simp [rawValues, splitField_append value absent, named]

theorem rawValues_headerLine {header value : Bytes} (absent : (58 : UInt8) ∉ name) :
    rawValues header [headerLine name value] =
      if isNamed name header then [32 :: value] else [] := by
  rw [← rawValues_field absent]
  simp [headerLine, show ascii ": " = [58, 32] from rfl]

private theorem isNamed_own {header : Bytes} (notOwn : NotOwn header)
    (named : isNamed name header) {own : Bytes} (member : own ∈ ownNames) :
    isNamed name own = false :=
  isNamed_exclusive named (notOwn own member)

theorem rawValues_ownLine {header : Bytes} (notOwn : NotOwn header)
    (own : name.map toLowerCase ∈ ownNames.map (·.map toLowerCase))
    (absent : (58 : UInt8) ∉ name) (value : Bytes) :
    rawValues header [headerLine name value] = [] := by
  have notNamed : isNamed name header = false := by
    obtain ⟨other, member, same⟩ := mem_map.mp own
    simp only [isNamed, beq_eq_false_iff_ne, ← same]
    exact (notOwn other member).symm
  rw [rawValues_headerLine absent]
  simp [notNamed]

theorem rawValues_perm (header : Bytes) {left right : List Bytes} (permutation : left.Perm right) :
    (rawValues header left).Perm (rawValues header right) :=
  permutation.filterMap _

section

variable [Platform] (context : CompileContext) {header : Bytes}

theorem rawValues_copiedField (notOwn : NotOwn header) {name : Bytes}
    (value : Bytes) (absent : (58 : UInt8) ∉ name) :
    rawValues header (copiedField context name value).toList =
      if context.kind.modifyHeaders.hasToBeRemoved header then []
      else rawValues header [name ++ 58 :: value] := by
  by_cases named : isNamed name header
  · have host := isNamed_own notOwn named (show ascii "host" ∈ ownNames by decide)
    have proxyTo := isNamed_own notOwn named (show ascii "proxy-to" ∈ ownNames by decide)
    have forwarded := isNamed_own notOwn named (show ascii "x-forwarded-for" ∈ ownNames by decide)
    have country := isNamed_own notOwn named (show ascii "cf-ipcountry" ∈ ownNames by decide)
    have kept : copiedField context name value =
        if context.kind.modifyHeaders.hasToBeRemoved header then none
        else some (name ++ 58 :: value) := by
      simp [copiedField, CompileContext.skipForDynamicProxy, host, proxyTo,
        forwarded, country, hasToBeRemoved_congr _ named]
    rw [kept]
    cases context.kind.modifyHeaders.hasToBeRemoved header with
    | true => rfl
    | false => rfl
  · have original : rawValues header [name ++ 58 :: value] = [] := by
      rw [rawValues_field absent]
      simp [named]
    have nothing : rawValues header (copiedField context name value).toList = [] := by
      unfold copiedField
      split
      · rfl
      split
      · split
        · exact rawValues_ownLine notOwn (by decide) (by decide) _
        · exact original
      · split
        · rfl
        · exact original
    rw [nothing, original]
    simp

theorem rawValues_copiedLines_eq (header : Bytes) (lines : List Bytes) :
    rawValues header (copiedLines context lines) = lines.flatMap fun line =>
        rawValues header (copiedLine context line).toList := by
  induction lines with
  | nil => rfl
  | cons line lines ih =>
    have copied : copiedLines context (line :: lines) =
        (copiedLine context line).toList ++ copiedLines context lines := by
      cases kept : copiedLine context line with
      | none => simp [copiedLines, kept]
      | some copy => simp [copiedLines, kept]
    rw [copied, rawValues_append, ih, flatMap_cons]

theorem rawValues_copiedLines (notOwn : NotOwn header) {lines : List Bytes}
    (colons : ∀ line ∈ lines, (58 : UInt8) ∈ line) :
    rawValues header (copiedLines context lines) =
      if context.kind.modifyHeaders.hasToBeRemoved header then []
      else rawValues header lines := by
  have each : ∀ line ∈ lines,
      rawValues header (copiedLine context line).toList =
        if context.kind.modifyHeaders.hasToBeRemoved header then []
        else rawValues header [line] := by
    intro line member
    cases split : splitField line with
    | none =>
      have absent := splitField_eq_none_iff.mp split
      exact (absent (colons line member)).elim
    | some field =>
      obtain ⟨name, value⟩ := field
      obtain ⟨rfl, absent⟩ := splitField_eq_some_iff.mp split
      rw [copiedLine, split]
      exact rawValues_copiedField context notOwn value absent
  rw [rawValues_copiedLines_eq, flatMap_congr each]
  cases context.kind.modifyHeaders.hasToBeRemoved header with
  | true => simp
  | false =>
    rw [rawValues_eq_flatMap header lines]
    rfl

theorem rawValues_ownHeaders (notOwn : NotOwn header) (xffWritten : Bool) :
    rawValues header (ownHeaders context xffWritten) = [] := by
  simp only [ownHeaders, rawValues_append, append_eq_nil_iff]
  refine ⟨⟨?_, ?_⟩, ?_⟩
  · split
    · exact rawValues_ownLine notOwn (by decide) (by decide) _
    · rfl
  · split
    · split
      · exact rawValues_ownLine notOwn (by decide) (by decide) _
      · rfl
    · rfl
  · split
    · exact rawValues_ownLine notOwn (by decide) (by decide) _
    · rfl

end

theorem rawValues_responseHeaders (kind : H1HeadersKind) {header : Bytes}
    (notOwn : NotOwn header) : rawValues header (responseHeaders kind) = [] := by
  cases kind with
  | request info => rfl
  | response info =>
    simp only [responseHeaders, rawValues_append, append_eq_nil_iff]
    constructor
    · split
      · rfl
      · exact rawValues_ownLine notOwn (by decide) (by decide) _
    · split
      · exact rawValues_ownLine notOwn (by decide) (by decide) _
      · rfl

/-- The values the other side receives for a framing header: what was
read unless the endpoint removes it, then what the endpoint adds. -/
def sentValues (context : CompileContext) (header : Bytes)
    (lines added : List Bytes) : List Bytes :=
  (if context.kind.modifyHeaders.hasToBeRemoved header then []
    else fieldValues header lines) ++ fieldValues header added

theorem fieldValues_forwarded [Platform] (context : CompileContext)
    {header : Bytes} (notOwn : NotOwn header) {lines : List Bytes}
    (colons : ∀ line ∈ lines, (58 : UInt8) ∈ line) (xffWritten : Bool)
    (added : List Bytes) :
    fieldValues header (copiedLines context lines ++ ownHeaders context xffWritten ++ added ++
          responseHeaders context.kind) =
      sentValues context header lines added := by
  unfold sentValues fieldValues
  rw [rawValues_append, rawValues_append, rawValues_append,
    rawValues_copiedLines context notOwn colons,
    rawValues_ownHeaders context notOwn,
    rawValues_responseHeaders context.kind notOwn, append_nil,
    append_nil, map_append]
  cases context.kind.modifyHeaders.hasToBeRemoved header with
  | true => rfl
  | false => rfl

/-! ## The framing law -/

def HttpContentLength.bodyLength : HttpContentLength → BodyLength
  | none => .length 0
  | known size => .length size
  | chunked => .chunked

section

variable [StrUtils] [SliceOfU8Ext]

/-- The recorded framing of an accepted request is the framing of the head
sent upstream, `chunked` wins over any `Content-Length`, the
`Content-Length` fields spell one number, and the order of the lines does not
matter. -/
structure FramingLaw (head : MessageHead) (rest : Bytes)
    (recorded : HttpContentLength) (forwarded : Bytes) : Prop where
  forwardedFraming : ∃ sent : MessageHead, forwarded = sent.bytes ∧
    requestBody sent.lines = some recorded.bodyLength
  chunkedWins : ∀ value ∈ fieldValues transferEncodingHeader head.lines,
    finalCodingChunked [value] → recorded = .chunked
  lengthsAgree : ∃ number, ∀ value ∈ fieldValues contentLenHeader head.lines,
    contentLengthNumber value = some number
  orderFree : ∀ permuted : MessageHead,
    permuted.firstLine = head.firstLine → permuted.lines.Perm head.lines →
      ∃ headers, parse (permuted.bytes ++ rest) =
        .ret (some headers) ∧ headers.contentLength = recorded

/-- The body of the request has a length: every `Content-Length` spells one
number in digits and reads as one size, no `Transfer-Encoding` is chunked in
either reading, and what is sent upstream gives the same size. -/
structure LengthFramed (context : CompileContext) (lines added : List Bytes)
    (number size : Nat) : Prop where
  spelled : ∀ value ∈ rawValues contentLenHeader lines,
    contentLengthNumber (trimOws value) = some number
  read : ∀ value ∈ rawValues contentLenHeader lines, readLength value = some size
  notChunked : ∀ value ∈ rawValues transferEncodingHeader lines,
    ¬ readsChunked value ∧ ¬ finalCodingChunked [trimOws value]
  absent : rawValues contentLenHeader lines = [] → size = 0
  sentCodings : sentValues context transferEncodingHeader lines added = []
  sentLength : agreedLength (sentValues context contentLenHeader lines added) = some size

/-- The body of the request is chunked: there is no `Content-Length`, some
`Transfer-Encoding` line reads as `chunked`, and the final coding sent upstream
is `chunked`. -/
structure ChunkFramed (context : CompileContext) (lines added : List Bytes) : Prop where
  noLength : rawValues contentLenHeader lines = []
  read : ∃ value ∈ rawValues transferEncodingHeader lines, readsChunked value
  sentCoding : finalCodingChunked (sentValues context transferEncodingHeader lines added)

/-- The requests for which the framing law holds. -/
def WellFramed (context : CompileContext) (lines added : List Bytes) : Prop :=
  (∃ number size, LengthFramed context lines added number size) ∨ ChunkFramed context lines added

/-! ## Order of the lines -/

/-- The head with its lines in another order. -/
def MessageHead.reorder (head : MessageHead) {lines : List Bytes}
    (permutation : lines.Perm head.lines) : MessageHead :=
  { firstLine := head.firstLine
    lines
    firstLineFree := head.firstLineFree
    linesFree := fun line member =>
      head.linesFree line (permutation.mem_iff.mp member)
    linesNonempty := fun line member =>
      head.linesNonempty line (permutation.mem_iff.mp member) }

variable {lines : List Bytes}

theorem FramingLaw.recorded_perm {head : MessageHead} {rest forwarded : Bytes}
    {recorded : HttpContentLength} (law : FramingLaw head rest recorded forwarded)
    (permutation : lines.Perm head.lines) :
    recordedFraming lines = recorded := by
  obtain ⟨headers, accepted, same⟩ := law.orderFree (head.reorder permutation) rfl permutation
  rw [← same]
  exact (acceptedHead_of_parse accepted).contentLength.symm

theorem FramingLaw.recorded_of_mem {head : MessageHead}
    {rest forwarded : Bytes} {recorded : HttpContentLength}
    (law : FramingLaw head rest recorded forwarded) {line : Bytes}
    (inside : line ∈ head.lines) {framing : HttpContentLength}
    (sets : ∀ current, framingStep current line = framing) :
    recorded = framing := by
  obtain ⟨left, right, equality⟩ := append_of_mem inside
  have permutation : (left ++ right ++ [line]).Perm head.lines := by
    rw [equality]
    exact (perm_append_singleton line (left ++ right)).trans perm_middle.symm
  rw [← law.recorded_perm permutation, recordedFraming_last, sets]

/-! ## The law and its condition -/

variable {context : CompileContext} {head : MessageHead}
  {rest forwarded : Bytes} {headers : Http1Headers} {added : List Bytes}

variable {sent : MessageHead}

theorem requestBody_of_framingLaw {recorded : HttpContentLength}
    (law : FramingLaw head rest recorded sent.bytes) :
    requestBody sent.lines = some recorded.bodyLength := by
  obtain ⟨other, same, framing⟩ := law.forwardedFraming
  obtain ⟨rfl, _⟩ := MessageHead.unique (by rw [same] : sent.bytes ++ [] = other.bytes ++ [])
  exact framing

theorem framed_of_framingLaw (accepted : AcceptedHead head headers)
    (codings : fieldValues transferEncodingHeader sent.lines =
      sentValues context transferEncodingHeader head.lines added)
    (lengths : fieldValues contentLenHeader sent.lines =
      sentValues context contentLenHeader head.lines added)
    (law : FramingLaw head rest headers.contentLength sent.bytes) :
    WellFramed context head.lines added := by
  have framing := requestBody_of_framingLaw law
  have chunkedSets : ∀ value ∈ rawValues transferEncodingHeader head.lines,
      readsChunked value → headers.contentLength = .chunked := by
    intro value member reads
    obtain ⟨line, inside, name, field, named⟩ := mem_rawValues_iff.mp member
    exact law.recorded_of_mem inside (framingStep_transferEncoding field named reads)
  have finalSets : ∀ value ∈ rawValues transferEncodingHeader head.lines,
      finalCodingChunked [trimOws value] → headers.contentLength = .chunked := by
    intro value member final
    exact law.chunkedWins (trimOws value) (mem_map_of_mem member) final
  obtain ⟨number, agree⟩ := law.lengthsAgree
  by_cases present : rawValues contentLenHeader head.lines = []
  · by_cases chunked : ∃ value ∈ rawValues transferEncodingHeader head.lines,
        readsChunked value
    · refine Or.inr
        { noLength := present
          read := chunked
          sentCoding := ?_ }
      rw [accepted.contentLength, recordedFraming_chunked present chunked,
        HttpContentLength.bodyLength, requestBody_eq_chunked_iff] at framing
      rwa [← codings]
    · have notChunked : ∀ value ∈ rawValues transferEncodingHeader head.lines,
          ¬ readsChunked value := by
        intro value member reads
        exact chunked ⟨value, member, reads⟩
      have recorded : headers.contentLength = .none := by
        rw [accepted.contentLength]
        exact recordedFraming_none present notChunked
      rw [recorded, HttpContentLength.bodyLength, requestBody_eq_length_iff,
        codings, lengths] at framing
      refine Or.inl ⟨number, 0,
        { spelled := by simp [present]
          read := by simp [present]
          notChunked := ?_
          absent := fun _ => rfl
          sentCodings := framing.1
          sentLength := framing.2 }⟩
      intro value member
      refine ⟨notChunked value member, ?_⟩
      intro final
      have := finalSets value member final
      rw [recorded] at this
      contradiction
  · have readSets : ∀ value ∈ rawValues contentLenHeader head.lines,
        ∃ size, readLength value = some size ∧
          headers.contentLength = .known size := by
      intro value member
      obtain ⟨line, inside, name, field, named⟩ := mem_rawValues_iff.mp member
      have readable := accepted.readable line inside
      simp only [ReadableLine, field] at readable
      obtain ⟨size, length⟩ := Option.isSome_iff_exists.mp (readable.1 named).2
      exact ⟨size, length, law.recorded_of_mem inside
        (framingStep_contentLength field named length)⟩
    obtain ⟨value, member⟩ := exists_mem_of_ne_nil _ present
    obtain ⟨size, _, recorded⟩ := readSets value member
    rw [recorded, HttpContentLength.bodyLength, requestBody_eq_length_iff,
      codings, lengths] at framing
    refine Or.inl ⟨number, size,
      { spelled := fun other otherMember =>
          agree (trimOws other) (mem_map_of_mem otherMember)
        read := ?_
        notChunked := ?_
        absent := fun empty => (present empty).elim
        sentCodings := framing.1
        sentLength := framing.2 }⟩
    · intro other otherMember
      obtain ⟨otherSize, length, otherRecorded⟩ := readSets other otherMember
      rw [recorded] at otherRecorded
      cases otherRecorded
      exact length
    · intro other otherMember
      constructor
      · intro reads
        have := chunkedSets other otherMember reads
        rw [recorded] at this
        contradiction
      · intro final
        have := finalSets other otherMember final
        rw [recorded] at this
        contradiction

omit [SliceOfU8Ext] in
theorem LengthFramed.recorded {number size : Nat}
    (framed : LengthFramed context lines added number size)
    {permuted : List Bytes} (permutation : permuted.Perm lines) :
    recordedFraming permuted =
      if rawValues contentLenHeader lines = [] then .none
      else .known size := by
  have lengthPerm := rawValues_perm contentLenHeader permutation
  have codingPerm := rawValues_perm transferEncodingHeader permutation
  have notChunked : ∀ value ∈ rawValues transferEncodingHeader permuted,
      ¬ readsChunked value := fun value member =>
    (framed.notChunked value (codingPerm.mem_iff.mp member)).1
  split
  · next empty =>
      apply recordedFraming_none _ notChunked
      rw [empty] at lengthPerm
      exact lengthPerm.eq_nil
  next present =>
    apply recordedFraming_known _ _ notChunked
    · intro value member
      exact framed.read value (lengthPerm.mem_iff.mp member)
    · intro empty
      rw [empty] at lengthPerm
      exact present lengthPerm.symm.eq_nil

omit [SliceOfU8Ext] in
theorem ChunkFramed.recorded (framed : ChunkFramed context lines added) {permuted : List Bytes}
    (permutation : permuted.Perm lines) :
    recordedFraming permuted = .chunked := by
  obtain ⟨value, member, reads⟩ := framed.read
  have lengthPerm := rawValues_perm contentLenHeader permutation
  rw [framed.noLength] at lengthPerm
  apply recordedFraming_chunked lengthPerm.eq_nil
  exact ⟨value, (rawValues_perm _ permutation).mem_iff.mpr member, reads⟩

section

variable (accepted : AcceptedHead head headers) (colons : ∀ line ∈ head.lines, (58 : UInt8) ∈ line)

include accepted colons

theorem reordered_accepted (order : ∀ permuted : List Bytes, permuted.Perm head.lines →
      recordedFraming permuted = headers.contentLength)
    (permuted : MessageHead) (firstLine : permuted.firstLine = head.firstLine)
    (permutation : permuted.lines.Perm head.lines) :
    ∃ other, parse (permuted.bytes ++ rest) =
      .ret (some other) ∧ other.contentLength = headers.contentLength := by
  obtain ⟨other, parsed⟩ := parse_of_readable rest (firstLine ▸ accepted.verified)
    (fun line member =>
      accepted.readable line (permutation.mem_iff.mp member))
    (fun line member => colons line (permutation.mem_iff.mp member))
  refine ⟨other, parsed, ?_⟩
  rw [(acceptedHead_of_parse parsed).contentLength]
  exact order permuted.lines permutation

theorem framingLaw_of_framed (codings : fieldValues transferEncodingHeader sent.lines =
      sentValues context transferEncodingHeader head.lines added)
    (lengths : fieldValues contentLenHeader sent.lines =
      sentValues context contentLenHeader head.lines added)
    (framed : WellFramed context head.lines added) :
    FramingLaw head rest headers.contentLength sent.bytes := by
  rcases framed with ⟨number, size, framed⟩ | framed
  · have recorded : headers.contentLength =
        if rawValues contentLenHeader head.lines = [] then .none
        else .known size := by
      rw [accepted.contentLength]
      exact framed.recorded (List.Perm.refl _)
    have bodyLength : headers.contentLength.bodyLength = .length size := by
      rw [recorded]
      split
      · next empty => rw [framed.absent empty]; rfl
      · rfl
    refine
      { forwardedFraming := ⟨sent, rfl, ?_⟩
        chunkedWins := ?_
        lengthsAgree := ⟨number, ?_⟩
        orderFree := reordered_accepted accepted colons ?_ }
    · rw [bodyLength, requestBody_eq_length_iff, codings, lengths]
      exact ⟨framed.sentCodings, framed.sentLength⟩
    · intro value member final
      obtain ⟨raw, inside, rfl⟩ := mem_map.mp member
      exact ((framed.notChunked raw inside).2 final).elim
    · intro value member
      obtain ⟨raw, inside, rfl⟩ := mem_map.mp member
      exact framed.spelled raw inside
    · intro permuted permutation
      rw [recorded]
      exact framed.recorded permutation
  · have recorded : headers.contentLength = .chunked := by
      rw [accepted.contentLength]
      exact framed.recorded (List.Perm.refl _)
    refine
      { forwardedFraming := ⟨sent, rfl, ?_⟩
        chunkedWins := fun _ _ _ => recorded
        lengthsAgree := ⟨0, ?_⟩
        orderFree := reordered_accepted accepted colons ?_ }
    · rw [recorded, HttpContentLength.bodyLength, requestBody_eq_chunked_iff, codings]
      exact framed.sentCoding
    · simp [fieldValues, framed.noLength]
    · intro permuted permutation
      rw [recorded]
      exact framed.recorded permutation

end

variable [Platform]

omit [StrUtils] in
theorem buildHead_of_compileHeaders {data : Bytes} {compiled : CompiledHeaders}
    (done : compileHeaders context data headers = .ret (.ok compiled)) :
    buildHead context data headers = .ret (.ok compiled.head) := by
  unfold compileHeaders at done
  rw [Outcome.bind_eq_ret_iff] at done
  obtain ⟨result, built, finished⟩ := done
  cases result with
  | error err => simp at finished
  | ok out =>
    rw [built]
    cases upgrade : headers.upgradeValue with
    | none =>
      simp only [upgrade] at finished
      cases finished
      rfl
    | some position =>
      simp only [upgrade, Outcome.bind_eq_ret_iff] at finished
      obtain ⟨value, _, flag, _, same⟩ := finished
      cases same
      rfl

/-- A forwarded request obeys the framing law exactly when it is well framed:
either its lengths are spelled and read alike and nothing about it is
chunked, or it has no `Content-Length` and is chunked in both readings. -/
theorem framingLaw_iff_wellFramed {src : Bytes} {compiled : CompiledHeaders}
    (accepted : parse src = .ret (some headers))
    (done : compileHeaders context src headers = .ret (.ok compiled))
    (configured : addedHeaders context { httpHeaders := headers, payload := src }
      context.kind.modifyHeaders.addHeaders = .ret added)
    (plain : PlainInsertions context added) :
    ∃ (head : MessageHead) (rest : Bytes), src = head.bytes ++ rest ∧
      (FramingLaw head rest headers.contentLength compiled.head ↔
        WellFramed context head.lines added) := by
  obtain ⟨head, rest, rfl⟩ := exists_head_of_parse accepted
  have facts := acceptedHead_of_parse accepted
  obtain ⟨colons, other, xffWritten, sameConfig, made⟩ :=
    buildHead_eq_ok facts.firstLineEnd (buildHead_of_compileHeaders done)
  rw [configured] at sameConfig
  cases sameConfig
  obtain ⟨sent, forwardedEq, _, lines⟩ := made plain
  have codings := fieldValues_forwarded context
    (show NotOwn transferEncodingHeader by decide) colons xffWritten added
  have lengths := fieldValues_forwarded context
    (show NotOwn contentLenHeader by decide) colons xffWritten added
  rw [← lines] at codings lengths
  refine ⟨head, rest, rfl, ?_⟩
  rw [forwardedEq]
  constructor
  · exact framed_of_framingLaw facts codings lengths
  · exact framingLaw_of_framed facts colons codings lengths

end

/-! ## A plain request and a smuggled one -/

section

attribute [local instance] linearSearch asciiCase barePlatform

def plainEndpoint : HttpEndpointInfo :=
  { hostEndpoint := { src := "80".toList, port := some 80, index := none }
    listenEndpointType := .http1 }

def plainContext : CompileContext :=
  { kind := .request plainEndpoint
    connectionInfo :=
      { cnUserName := none
        connectionIp := none
        endpointInfo := some plainEndpoint
        listenConfig := { endpoints := [plainEndpoint], listenEndpointType := .http1 } }
    identity := none
    mcpPath := none
    dynamicProxyHostOverride := none }

/-- A request with a body of five octets. -/
def plainRequest : Bytes := ascii "POST / HTTP/1.1\r\nContent-Length: 5\r\n\r\nhello"

def plainHeaders : Http1Headers :=
  { firstLineEnd := 15
    stop := 38
    contentLength := .known 5
    hostValue := none
    cookieValue := none
    upgradeValue := none }

theorem framingLaw_iff_wellFramed_plainRequest :
    ∃ (head : MessageHead) (rest : Bytes), plainRequest = head.bytes ++ rest ∧
        (FramingLaw head rest (.known 5) (plainRequest.take 38) ↔
          WellFramed plainContext head.lines []) := by
  have accepted : parse plainRequest = .ret (some plainHeaders) := by
    decide +kernel
  have done : compileHeaders plainContext plainRequest plainHeaders =
      .ret (.ok { head := plainRequest.take 38, webSocketUpgrade := false }) := by
    decide +kernel
  exact framingLaw_iff_wellFramed accepted done rfl
    { mcpPath := by simp [plainContext]
      hostOverride := by simp [plainContext]
      added := by simp }

/-- A chunked request with a `Content-Length` behind the coding. -/
def smuggledHead : MessageHead :=
  { firstLine := ascii "POST / HTTP/1.1"
    lines := [ascii "Transfer-Encoding: chunked", ascii "Content-Length: 5"]
    firstLineFree := SeparatorFree.of_not_mem (by decide)
    linesFree := by
      intro line member
      apply SeparatorFree.of_not_mem
      revert line
      decide
    linesNonempty := by decide }

/-- The request is forwarded unchanged with its chunked coding, while its body
is relayed as five octets. -/
theorem smuggled_request_breaks_framingLaw :
    ∃ headers compiled,
      parse smuggledHead.bytes = .ret (some headers) ∧
        compileHeaders plainContext smuggledHead.bytes headers = .ret (.ok compiled) ∧
        compiled.head = smuggledHead.bytes ∧
        headers.contentLength = .known 5 ∧
        requestBody smuggledHead.lines = some .chunked ∧
        ¬ FramingLaw smuggledHead [] headers.contentLength compiled.head := by
  refine ⟨
    { firstLineEnd := 15
      stop := 66
      contentLength := .known 5
      hostValue := none
      cookieValue := none
      upgradeValue := none },
    { head := smuggledHead.bytes, webSocketUpgrade := false },
    by decide +kernel, by decide +kernel, rfl, rfl, by decide +kernel, ?_⟩
  intro law
  have chunked := law.chunkedWins (ascii "chunked") (by decide +kernel) (by decide +kernel)
  contradiction

end

end ReverseProxy
