import ReverseProxy.Library.Pieces
import ReverseProxy.H1ProxyServer.UpgradeDetection

/-!
# The head the upstream reads

What `compile_headers` leaves in its builder is lines with a line end behind
each.  A line end inside one, from a configured value for instance, ends a line
for the upstream too.
-/

namespace ReverseProxy

open Library Rfc7230 Http1Headers MessageHead List

/-! ## Reading lines -/

/-- A text as the lines a reader finds in it. -/
def cutLines (text : Bytes) : List Bytes := pieces 13 10 text

/-- The lines of the head in what was written as a first line and lines. -/
def receivedLines (firstLine : Bytes) (lines : List Bytes) : List Bytes :=
  ((cutLines firstLine).tail ++ lines.flatMap cutLines).takeWhile (· ≠ [])

theorem joinLines_cutLines (text : Bytes) : joinLines (cutLines text) = text ++ httpCrLf :=
  joined_pieces text

theorem joinLines_flatMap_cutLines (lines : List Bytes) :
    joinLines (lines.flatMap cutLines) = joinLines lines := by
  induction lines with
  | nil => rfl
  | cons line lines ih =>
    rw [flatMap_cons, joinLines_append, joinLines_cutLines, ih, joinLines_cons]

theorem cutLines_free {text line : Bytes} (member : line ∈ cutLines text) :
    CrLfFree line :=
  separatorFree_of_mem_pieces member

theorem cutLines_of_free {line : Bytes} (free : CrLfFree line) : cutLines line = [line] :=
  pieces_of_separatorFree free

theorem flatMap_cutLines_of_free {lines : List Bytes} (free : ∀ line ∈ lines, CrLfFree line) :
    lines.flatMap cutLines = lines := by
  induction lines with
  | nil => rfl
  | cons line lines ih =>
    rw [flatMap_cons, cutLines_of_free (free line mem_cons_self),
      ih fun other member => free other (mem_cons_of_mem _ member)]
    rfl

theorem exists_head_of_joinLines {first : Bytes} {others : List Bytes}
    (firstFree : CrLfFree first) (free : ∀ line ∈ others, CrLfFree line) :
    ∃ (head : MessageHead) (rest : Bytes),
      joinLines (first :: others) ++ httpCrLf = head.bytes ++ rest ∧
        head.firstLine = first ∧ head.lines = others.takeWhile (· ≠ []) := by
  have solid : ∀ line ∈ others.takeWhile (· ≠ []), line ≠ [] := by
    intro line member
    simpa using mem_takeWhile_imp member
  let head : MessageHead :=
    { firstLine := first
      lines := others.takeWhile (· ≠ [])
      firstLineFree := firstFree
      linesFree := fun line member =>
        free line ((takeWhile_sublist _).subset member)
      linesNonempty := solid }
  have source : joinLines (first :: others) ++ httpCrLf =
      first ++ httpCrLf ++ joinLines (others.takeWhile (· ≠ [])) ++
        (joinLines (others.dropWhile (· ≠ [])) ++ httpCrLf) := by
    rw [joinLines_cons, append_assoc, append_assoc,
      append_assoc, ← append_assoc (joinLines _) (joinLines _),
      ← joinLines_append, takeWhile_append_dropWhile]
    simp
  cases left : others.dropWhile (· ≠ []) with
  | nil =>
    refine ⟨head, [], ?_, rfl, rfl⟩
    rw [source, left]
    simp [head, bytes]
  | cons empty later =>
    have isEmpty : empty = [] := by
      have stops := head?_dropWhile_not (· ≠ []) others
      rw [left] at stops
      simpa using stops
    refine ⟨head, joinLines later ++ httpCrLf, ?_, rfl, rfl⟩
    rw [source, left, isEmpty]
    simp [head, bytes]

theorem exists_receivedHead (firstLine : Bytes) (lines : List Bytes) :
    ∃ (head : MessageHead) (rest : Bytes), firstLine ++ httpCrLf ++ joinLines lines ++ httpCrLf =
          head.bytes ++ rest ∧
        head.lines = receivedLines firstLine lines := by
  obtain ⟨first, others, cut, _⟩ : ∃ first others,
      cutLines firstLine = first :: others ∧ first <+: firstLine :=
    exists_pieces firstLine
  have whole : joinLines (first :: (others ++ lines.flatMap cutLines)) =
      firstLine ++ httpCrLf ++ joinLines lines := by
    rw [← cons_append, ← cut, joinLines_append, joinLines_cutLines, joinLines_flatMap_cutLines]
  have firstFree : CrLfFree first := cutLines_free (show first ∈ cutLines firstLine by
      rw [cut]
      exact mem_cons_self)
  have free : ∀ line ∈ others ++ lines.flatMap cutLines, CrLfFree line := by
    intro line member
    rcases mem_append.mp member with inFirst | inLines
    · exact cutLines_free (show line ∈ cutLines firstLine by
        rw [cut]
        exact mem_cons_of_mem _ inFirst)
    · obtain ⟨text, _, inside⟩ := mem_flatMap.mp inLines
      exact cutLines_free inside
  obtain ⟨head, rest, source, _, headLines⟩ := exists_head_of_joinLines firstFree free
  refine ⟨head, rest, by rw [← whole, source], ?_⟩
  rw [headLines, receivedLines, cut, tail_cons]

theorem receivedLines_of_head {firstLine : Bytes} {lines : List Bytes}
    {head : MessageHead} {rest : Bytes}
    (source : firstLine ++ httpCrLf ++ joinLines lines ++ httpCrLf = head.bytes ++ rest) :
    head.lines = receivedLines firstLine lines := by
  obtain ⟨other, otherRest, otherSource, otherLines⟩ := exists_receivedHead firstLine lines
  obtain ⟨rfl, _⟩ := unique (source.symm.trans otherSource)
  exact otherLines

/-! ## What a request is compiled to -/

section

variable [Platform]

/-- The head can be compiled. -/
structure HeadCompiles (context : CompileContext) (head : MessageHead) (rest : Bytes) : Prop where
  colons : ∀ line ∈ head.lines, (58 : UInt8) ∈ line
  fillable : Fillable context head rest
  /-- The comparison does not run past the last `Upgrade` value. -/
  upgrade : ∀ value, (rawValues upgradeHeader head.lines).getLast? =
    some value → ∃ octet octets, value = octet :: octets ∧ ¬ BeginsWord octets webSocket

/-- The lines of the head the upstream reads. -/
def upstreamLines (context : CompileContext) (head : MessageHead)
    (configured : List Bytes) : List Bytes :=
  receivedLines (forwardedFirstLine context head.firstLine)
    (compiledLines context head.lines configured)

end

/-! ## What the configuration puts in -/

section

variable [Platform]

/-- The lines that the MCP path, the host override and the configured headers
bring into the head. -/
def insertedLines (context : CompileContext) (head : MessageHead)
    (configured : List Bytes) : List Bytes :=
  (cutLines (forwardedFirstLine context head.firstLine)).tail ++
    (overrideHeaders context ++ configured).flatMap cutLines

/-- The lines written for the client: its own ones, its address and its
country. -/
def clientLines (context : CompileContext) (head : MessageHead) :
    List Bytes :=
  copiedLines context head.lines ++ addressHeaders context (writesXff context head.lines) ++
      countryHeaders context

variable {context : CompileContext} {head : MessageHead}

theorem clientLines_line {line : Bytes} (member : line ∈ clientLines context head) :
    CrLfFree line ∧ line ≠ [] := by
  simp only [clientLines, mem_append] at member
  rcases member with (copy | address) | country
  · obtain ⟨original, inside, copied⟩ := mem_filterMap.mp copy
    exact copiedLine_free (head.linesFree original inside) copied
  · obtain ⟨free, value, rfl⟩ := addressHeaders_line address
    exact ⟨free, headerLine_ne_nil _ _⟩
  · obtain ⟨free, code, _, rfl⟩ := countryHeaders_line country
    exact ⟨free, headerLine_ne_nil _ _⟩

/-- Only the inserted lines are cut. -/
theorem upstreamLines_eq (configured : List Bytes) :
    upstreamLines context head configured =
      ((cutLines (forwardedFirstLine context head.firstLine)).tail ++ clientLines context head ++
          (overrideHeaders context ++ configured).flatMap cutLines ++
            responseHeaders context.kind).takeWhile (· ≠ []) := by
  have lines : compiledLines context head.lines configured =
      clientLines context head ++ (overrideHeaders context ++ configured) ++
        responseHeaders context.kind := by
    simp [compiledLines, clientLines, ownHeaders_eq]
  rw [upstreamLines, receivedLines, lines, flatMap_append, flatMap_append,
    flatMap_cutLines_of_free fun line member => (clientLines_line member).1,
    flatMap_cutLines_of_free fun line member => (responseHeaders_line member).1]
  simp only [append_assoc]

variable {configured : List Bytes}

theorem mem_upstreamLines {line : Bytes} (member : line ∈ upstreamLines context head configured) :
    line ∈ clientLines context head ∨
      line ∈ (insertedLines context head configured).takeWhile (· ≠ []) ∨
        line ∈ responseHeaders context.kind := by
  rw [upstreamLines_eq, ← append_nil (_ ++ responseHeaders _)] at member
  rcases mem_takeWhile_without member with response | member
  · exact .inr (.inr response)
  rw [append_nil] at member
  rcases mem_takeWhile_without member with own | inserted
  · exact .inl own
  · exact .inr (.inl inserted)

theorem inserted_mem_upstreamLines {line : Bytes} (member : line ∈
      (insertedLines context head configured).takeWhile (· ≠ [])) :
    line ∈ upstreamLines context head configured := by
  rw [upstreamLines_eq, ← append_nil (_ ++ responseHeaders _)]
  apply mem_takeWhile_with
  · intro other response
    simpa using (responseHeaders_line response).2
  · rw [append_nil]
    apply mem_takeWhile_with _ member
    intro other own
    simpa using (clientLines_line own).2

omit [Platform] in
theorem responseHeaders_of_request {kind : H1HeadersKind}
    (request : kind.isRequest = true) : responseHeaders kind = [] := by
  cases kind with
  | request info => rfl
  | response info => simp [H1HeadersKind.isRequest] at request

/-- The client's lines are read if the first line brings no empty one; inserted
lines with other names do not change the values of a header. -/
theorem rawValues_upstreamLines {header : Bytes}
    (request : context.kind.isRequest = true) (path : ∀ line ∈
      (cutLines (forwardedFirstLine context head.firstLine)).tail, line ≠ [])
    (others : ∀ line ∈ (insertedLines context head configured).takeWhile (· ≠ []),
        rawValues header [line] = []) :
    rawValues header (upstreamLines context head configured) =
      rawValues header (clientLines context head) := by
  have pathSolid : ∀ line ∈ (cutLines (forwardedFirstLine context head.firstLine)).tail,
        decide (line ≠ []) = true := by
    simpa using path
  have clientSolid : ∀ line ∈ clientLines context head,
      decide (line ≠ []) = true := fun line member => by
    simpa using (clientLines_line member).2
  rw [insertedLines, takeWhile_append_of_pos pathSolid] at others
  rw [upstreamLines_eq, responseHeaders_of_request request, append_nil,
    append_assoc, takeWhile_append_of_pos pathSolid,
    takeWhile_append_of_pos clientSolid, rawValues_append,
    rawValues_append,
    rawValues_eq_nil fun line member =>
      others line (mem_append_left _ member),
    rawValues_eq_nil fun line member =>
      others line (mem_append_right _ member),
    nil_append, append_nil]

end

theorem readUpgrade_returns_iff {last : Option Bytes} :
    (∃ found, readUpgrade last = .ret found) ↔
      ∀ value, last = some value → ∃ octet octets, value = octet :: octets ∧
        ¬ BeginsWord octets webSocket := by
  cases last with
  | none => simp [readUpgrade]
  | some value =>
    cases value with
    | nil => simp [readUpgrade, recordedOctets]
    | cons octet octets =>
      have read : readUpgrade (some (octet :: octets)) =
          compareCaseInsensitive octets webSocket := rfl
      have inside : compareCaseInsensitive octets webSocket = .panic ↔
          BeginsWord octets webSocket :=
        compareCaseInsensitive_eq_panic_iff
      rw [read]
      cases compared : compareCaseInsensitive octets webSocket with
      | panic => simp [inside.mp compared]
      | diverge => exact (compareCaseInsensitive_returns _ _ compared).elim
      | ret found => simp [← inside, compared]

section

variable [SliceOfU8Ext] [StrUtils] [Platform] {context : CompileContext}
  {head : MessageHead} {rest : Bytes} {headers : Http1Headers}

theorem compileHeaders_eq_ok_iff (accepted : parse (head.bytes ++ rest) =
      .ret (some headers)) {compiled : CompiledHeaders} :
    compileHeaders context (head.bytes ++ rest) headers = .ret (.ok compiled) ↔
      HeadCompiles context head rest ∧ ∃ configured,
        filledHeaders context head rest context.kind.modifyHeaders.addHeaders = some configured ∧
          readUpgrade (rawValues upgradeHeader head.lines).getLast? =
              .ret compiled.webSocketUpgrade ∧
            compiled.head = compiledBytes context head configured := by
  rw [compileHeaders_eq accepted]
  constructor
  · intro made
    split at made
    · next colons =>
        simp only [Outcome.bind_eq_ret_iff] at made
        obtain ⟨added, unwrapped, found, read, made⟩ := made
        cases filled : filledHeaders context head rest context.kind.modifyHeaders.addHeaders with
        | none => simp [filled] at unwrapped
        | some configured =>
          rw [filled] at unwrapped
          cases unwrapped
          cases made
          refine ⟨⟨colons, fillable_iff.mpr (by rw [filled]; rfl), ?_⟩, added, rfl, read, rfl⟩
          exact readUpgrade_returns_iff.mp ⟨found, read⟩
    · cases made
  · rintro ⟨compiles, configured, filled, read, bytes⟩
    rw [if_pos compiles.colons, filled, read]
    obtain ⟨_, _⟩ := compiled
    cases bytes
    rfl

/-- Whatever is compiled for the buffer, the head the upstream reads in it has
lines with this property. -/
def SendsLines (context : CompileContext) (src : Bytes)
    (headers : Http1Headers) (property : List Bytes → Prop) : Prop :=
  ∀ (compiled : CompiledHeaders) (sent : MessageHead) (rest : Bytes),
    compileHeaders context src headers = .ret (.ok compiled) →
      compiled.head = sent.bytes ++ rest → property sent.lines

theorem sendsLines_iff (accepted : parse (head.bytes ++ rest) =
      .ret (some headers)) {property : List Bytes → Prop} :
    SendsLines context (head.bytes ++ rest) headers property ↔
      (HeadCompiles context head rest → ∀ configured,
        filledHeaders context head rest context.kind.modifyHeaders.addHeaders = some configured →
          property (upstreamLines context head configured)) := by
  constructor
  · intro sends compiles configured filled
    obtain ⟨found, read⟩ := readUpgrade_returns_iff.mpr compiles.upgrade
    obtain ⟨sent, behind, source, lines⟩ := exists_receivedHead
      (forwardedFirstLine context head.firstLine)
      (compiledLines context head.lines configured)
    rw [upstreamLines, ← lines]
    exact sends ⟨compiledBytes context head configured, found⟩ sent behind
      ((compileHeaders_eq_ok_iff accepted).mpr ⟨compiles, configured, filled, read, rfl⟩) source
  · intro holds compiled sent behind made source
    obtain ⟨compiles, configured, filled, _, bytes⟩ := (compileHeaders_eq_ok_iff accepted).mp made
    rw [receivedLines_of_head (bytes.symm.trans source)]
    exact holds compiles configured filled

end

end ReverseProxy
