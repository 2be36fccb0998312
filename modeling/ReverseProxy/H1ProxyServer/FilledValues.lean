import ReverseProxy.H1ProxyServer.RequestLine
import ReverseProxy.H1Utils.HeaderValues

/-!
# Configured header values, filled in

Two placeholders are read from the request and can fail to be there: the target
between the first two spaces of the buffer and the recorded host.  Where the
functions below give nothing, `populate_value` panics.
-/

namespace ReverseProxy

open Library Rfc7230 Http1Headers Outcome

/-- `Option::unwrap`. -/
def Outcome.unwrap {α : Type} : Option α → Outcome α
  | some value => .ret value
  | none => .panic

@[simp] theorem Outcome.unwrap_some {α : Type} (value : α) :
    unwrap (some value) = .ret value :=
  rfl

@[simp] theorem Outcome.unwrap_none {α : Type} :
    unwrap (none : Option α) = .panic :=
  rfl

theorem Outcome.unwrap_bind {α β : Type} (found : Option α) (next : α → Option β) :
    unwrap (found.bind next) =
      (unwrap found >>= fun value => unwrap (next value)) := by
  cases found with
  | none => rfl
  | some value => rfl

def pathAndQueryName : Str := "PATH_AND_QUERY".toList

def hostPortName : Str := "HOST_PORT".toList

section

variable [Platform] (context : CompileContext) (head : MessageHead) (rest : Bytes)

def filledPlaceholder (placeholder : Str) : Option Bytes :=
  if placeholder = "ENDPOINT_IP".toList then
    some (asBytes ((context.connectionInfo.connectionIp.map displayIp).getD []))
  else if placeholder = "CLIENT_CERT_CN".toList then
    some (asBytes ((context.identity.map (·.asStr)).getD []))
  else if placeholder = pathAndQueryName then
    (spacedParts (head.bytes ++ rest)).map (·.2.1)
  else if placeholder = hostPortName then
    match (rawValues hostHeader head.lines).getLast? with
    | none => some []
    | some value => value.tail?
  else if placeholder = "ENDPOINT_SCHEMA".toList then
    if context.connectionInfo.listenConfig.listenEndpointType.isHttps then
      some (ascii "https")
    else
      some (ascii "http")
  else
    some (asBytes ((envVar placeholder).getD []))

def filledTokens : List ContentToken → Option Bytes
  | [] => some []
  | .text text :: tokens =>
    (filledTokens tokens).map (asBytes text ++ ·)
  | .placeholder placeholder :: tokens =>
    (filledPlaceholder context head rest placeholder).bind fun value =>
      (filledTokens tokens).map (value ++ ·)

def filledValue (value : Str) : Option Bytes :=
  if (indexOf ['$', '\x7b'] value).isNone then some (asBytes value)
  else filledTokens context head rest (placeholderTokens value)

/-- The configured header lines; an empty value leaves its line out. -/
def filledHeaders : List (Str × Str) → Option (List Bytes)
  | [] => some []
  | (name, value) :: others =>
    if value = [] then filledHeaders others
    else
      (filledValue context head rest value).bind fun populated =>
        (filledHeaders others).map fun lines =>
          if populated = [] then lines
          else headerLine (asBytes name) populated :: lines

end

section

variable [SliceOfU8Ext] [StrUtils] [Platform] {context : CompileContext}
  {head : MessageHead} {rest : Bytes} {headers : Http1Headers}

section

variable (accepted : parse (head.bytes ++ rest) = .ret (some headers))

include accepted

omit [Platform] in
theorem getHost_eq :
    HttpHeadersReader.getHost { httpHeaders := headers, payload := head.bytes ++ rest } =
      match (rawValues hostHeader head.lines).getLast? with
      | none => .ret none
      | some value => unwrap (value.tail?.map some) := by
  rw [HttpHeadersReader.getHost]
  cases last : (rawValues hostHeader head.lines).getLast? with
  | none =>
    have recorded : headers.hostValue = none := valueOf_eq_none accepted
        (show (rawValues RangeHeader.host.name head.lines).getLast? = none from last)
    rw [recorded]
    rfl
  | some value =>
    obtain ⟨range, recorded, sliced⟩ := slice_valueOf accepted
        (show (rawValues RangeHeader.host.name
          head.lines).getLast? = some value from last)
    rw [show headers.hostValue = some range from recorded]
    dsimp only
    rw [sliced]
    cases value with
    | nil => rfl
    | cons octet octets => rfl

theorem populatePlaceholder_eq (placeholder : Str) :
    populatePlaceholder { httpHeaders := headers, payload := head.bytes ++ rest }
        context.connectionInfo context.identity placeholder =
      .unwrap (filledPlaceholder context head rest placeholder) := by
  unfold populatePlaceholder filledPlaceholder pathAndQueryName hostPortName
  split
  · rfl
  split
  · rfl
  split
  · rw [HttpHeadersReader.getPathAndQuery_eq]
    cases spacedParts (head.bytes ++ rest) with
    | none => rfl
    | some parts => rfl
  split
  · rw [getHost_eq accepted]
    cases (rawValues hostHeader head.lines).getLast? with
    | none => rfl
    | some value =>
      cases value with
      | nil => rfl
      | cons octet octets => rfl
  · split
    · split
      · rfl
      · rfl
    · rfl

theorem populateTokens_eq (tokens : List ContentToken) :
    populateTokens { httpHeaders := headers, payload := head.bytes ++ rest }
        context.connectionInfo context.identity tokens =
      .unwrap (filledTokens context head rest tokens) := by
  induction tokens with
  | nil => rfl
  | cons token tokens ih =>
    cases token with
    | text text =>
      rw [populateTokens, filledTokens, ih]
      cases filledTokens context head rest tokens with
      | none => rfl
      | some filled => rfl
    | placeholder placeholder =>
      rw [populateTokens, filledTokens, populatePlaceholder_eq accepted, unwrap_bind, ih]
      cases filledPlaceholder context head rest placeholder with
      | none => rfl
      | some value =>
        cases filledTokens context head rest tokens with
        | none => rfl
        | some filled => rfl

theorem populateValue_eq (value : Str) :
    populateValue { httpHeaders := headers, payload := head.bytes ++ rest }
        context.connectionInfo context.identity value =
      .unwrap (filledValue context head rest value) := by
  unfold populateValue filledValue
  split
  · rfl
  · exact populateTokens_eq accepted _

theorem addedHeaders_eq (config : List (Str × Str)) :
    addedHeaders context { httpHeaders := headers, payload := head.bytes ++ rest } config =
      .unwrap (filledHeaders context head rest config) := by
  induction config with
  | nil => rfl
  | cons header others ih =>
    obtain ⟨name, value⟩ := header
    rw [addedHeaders, filledHeaders]
    split
    · exact ih
    rw [populateValue_eq accepted, ih]
    cases filledValue context head rest value with
    | none => rfl
    | some populated =>
      cases filledHeaders context head rest others with
      | none => rfl
      | some lines =>
        simp only [unwrap_some, bind_ret, Option.bind_some, Option.map_some]
        split
        · rfl
        · rfl

end

end

/-! ## What has to be there -/

section

variable [Platform]

/-- A configured value names the placeholder. -/
def Mentions (config : List (Str × Str)) (placeholder : Str) : Prop :=
  ∃ header ∈ config, (indexOf ['$', '\x7b'] header.2).isSome ∧
    .placeholder placeholder ∈ placeholderTokens header.2

/-- The request has what the configured values take from it. -/
structure Fillable (context : CompileContext) (head : MessageHead) (rest : Bytes) : Prop where
  target : Mentions context.kind.modifyHeaders.addHeaders pathAndQueryName →
    2 ≤ (head.bytes ++ rest).count 32
  host : Mentions context.kind.modifyHeaders.addHeaders hostPortName →
    (rawValues hostHeader head.lines).getLast? ≠ some []

variable {context : CompileContext} {head : MessageHead} {rest : Bytes}

theorem filledPlaceholder_isSome_iff {placeholder : Str} :
    (filledPlaceholder context head rest placeholder).isSome ↔
      (placeholder = pathAndQueryName → 2 ≤ (head.bytes ++ rest).count 32) ∧
      (placeholder = hostPortName → (rawValues hostHeader head.lines).getLast? ≠ some []) := by
  unfold filledPlaceholder
  by_cases target : placeholder = pathAndQueryName
  · subst target
    have notHost : pathAndQueryName ≠ hostPortName := by decide
    rw [if_neg (by decide), if_neg (by decide), if_pos rfl,
      Option.isSome_map, spacedParts_isSome_iff]
    simp [notHost]
  by_cases host : placeholder = hostPortName
  · subst host
    rw [if_neg (by decide), if_neg (by decide), if_neg (by decide), if_pos rfl]
    cases (rawValues hostHeader head.lines).getLast? with
    | none => simp [target]
    | some value =>
      cases value with
      | nil => simp
      | cons octet octets => simp [target]
  · simp only [target, host, if_false]
    split
    · simp
    split
    · simp
    split
    · split
      · simp
      · simp
    · simp

theorem filledTokens_isSome_iff {tokens : List ContentToken} :
    (filledTokens context head rest tokens).isSome ↔
      ∀ placeholder, .placeholder placeholder ∈ tokens →
        (filledPlaceholder context head rest placeholder).isSome := by
  induction tokens with
  | nil => simp [filledTokens]
  | cons token tokens ih =>
    cases token with
    | text text => simp [filledTokens, ih]
    | placeholder own =>
      rw [filledTokens]
      cases found : filledPlaceholder context head rest own with
      | none =>
        simp only [Option.bind_none, Option.isSome_none, Bool.false_eq_true, false_iff, not_forall]
        exact ⟨own, by simp, by simp [found]⟩
      | some value =>
        simp only [Option.bind_some, Option.isSome_map, ih,
          List.mem_cons, ContentToken.placeholder.injEq]
        constructor
        · rintro others placeholder (rfl | member)
          · simp [found]
          · exact others placeholder member
        · intro all placeholder member
          exact all placeholder (.inr member)

theorem filledValue_isSome_iff {value : Str} :
    (filledValue context head rest value).isSome ↔
      ∀ placeholder, (indexOf ['$', '\x7b'] value).isSome →
        .placeholder placeholder ∈ placeholderTokens value →
          (filledPlaceholder context head rest placeholder).isSome := by
  unfold filledValue
  cases uses : indexOf ['$', '\x7b'] value with
  | none => simp
  | some pos => simp [filledTokens_isSome_iff]

omit [Platform] in
private theorem bind_map_isSome {α β γ : Type} {found : Option α}
    {others : Option β} {made : α → β → γ} :
    (found.bind fun value => others.map (made value)).isSome ↔ found.isSome ∧ others.isSome := by
  cases found with
  | none => simp
  | some value => simp

theorem filledHeaders_isSome_iff {config : List (Str × Str)} :
    (filledHeaders context head rest config).isSome ↔
      ∀ placeholder, Mentions config placeholder →
        (filledPlaceholder context head rest placeholder).isSome := by
  induction config with
  | nil => simp [filledHeaders, Mentions]
  | cons header others ih =>
    obtain ⟨name, value⟩ := header
    have mentions (placeholder : Str) :
        Mentions ((name, value) :: others) placeholder ↔
          ((indexOf ['$', '\x7b'] value).isSome ∧
            .placeholder placeholder ∈ placeholderTokens value) ∨
          Mentions others placeholder := by
      simp [Mentions]
    rw [filledHeaders]
    by_cases empty : value = []
    · have none : (indexOf ['$', '\x7b'] value).isSome = false := by
        rw [empty]
        rfl
      rw [if_pos empty, ih]
      simp [mentions, none]
    rw [if_neg empty, bind_map_isSome, ih, filledValue_isSome_iff]
    constructor
    · rintro ⟨own, later⟩ placeholder mentioned
      rcases (mentions placeholder).mp mentioned with here | there
      · exact own placeholder here.1 here.2
      · exact later placeholder there
    · intro all
      constructor
      · intro placeholder uses member
        exact all placeholder ((mentions placeholder).mpr (.inl ⟨uses, member⟩))
      · intro placeholder mentioned
        exact all placeholder ((mentions placeholder).mpr (.inr mentioned))

/-- The line a configured header is sent as, if it is. -/
def ConfiguredLine (context : CompileContext) (head : MessageHead)
    (rest : Bytes) (header : Str × Str) (line : Bytes) : Prop :=
  header.2 ≠ [] ∧ ∃ populated, populated ≠ [] ∧
    filledValue context head rest header.2 = some populated ∧
      line = headerLine (asBytes header.1) populated

theorem mem_filledHeaders {config : List (Str × Str)} {lines : List Bytes}
    (filled : filledHeaders context head rest config = some lines)
    {line : Bytes} :
    line ∈ lines ↔ ∃ header ∈ config, ConfiguredLine context head rest header line := by
  induction config generalizing lines with
  | nil =>
    cases filled
    simp
  | cons header others ih =>
    obtain ⟨name, value⟩ := header
    rw [List.exists_mem_cons_iff]
    rw [filledHeaders] at filled
    by_cases empty : value = []
    · rw [if_pos empty] at filled
      simp [ih filled, ConfiguredLine, empty]
    rw [if_neg empty] at filled
    obtain ⟨populated, populatedEq, filled⟩ := Option.bind_eq_some_iff.mp filled
    obtain ⟨later, filledLater, rfl⟩ := Option.map_eq_some_iff.mp filled
    rw [← ih filledLater]
    by_cases blank : populated = []
    · simp [ConfiguredLine, populatedEq, blank]
    · simp [ConfiguredLine, populatedEq, blank, empty]

theorem fillable_iff :
    Fillable context head rest ↔
      (filledHeaders context head rest context.kind.modifyHeaders.addHeaders).isSome := by
  rw [filledHeaders_isSome_iff]
  constructor
  · intro fillable placeholder mentioned
    rw [filledPlaceholder_isSome_iff]
    constructor
    · rintro rfl
      exact fillable.target mentioned
    · rintro rfl
      exact fillable.host mentioned
  · intro all
    constructor
    · intro mentioned
      exact (filledPlaceholder_isSome_iff.mp (all _ mentioned)).1 rfl
    · intro mentioned
      exact (filledPlaceholder_isSome_iff.mp (all _ mentioned)).2 rfl

end

end ReverseProxy
