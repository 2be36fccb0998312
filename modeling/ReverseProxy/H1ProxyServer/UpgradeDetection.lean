import ReverseProxy.H1ProxyServer.CompiledHead
import ReverseProxy.Rfc7230.ListElements

/-!
# Detecting a WebSocket upgrade

`compare_case_insensitive` unwraps the octets of the value, so it panics on a
beginning of the word and does not see what follows the word.
-/

namespace ReverseProxy

open Library Rfc7230 Http1Headers Outcome List

def webSocket : Bytes := ascii "websocket"

/-! ## The comparison -/

/-- The octets run out inside the word. -/
def BeginsWord (octets word : Bytes) : Prop :=
  octets.length < word.length ∧ isNamed octets (word.take octets.length)

theorem isNamed_cons {left right : UInt8} {name header : Bytes} :
    isNamed (left :: name) (right :: header) =
      (toLowerCase left == toLowerCase right && isNamed name header) := by
  simp [isNamed]

theorem compareCaseInsensitive_cons (left right : UInt8) (octets word : Bytes) :
    compareCaseInsensitive (left :: octets) (right :: word) =
      if toLowerCase left = toLowerCase right then
        compareCaseInsensitive octets word
      else .ret false := by
  rw [compareCaseInsensitive]
  by_cases same : right = left
  · simp [same]
  · by_cases folded : toLowerCase left = toLowerCase right
    · simp [same, folded]
    · simp [same, folded, Ne.symm folded]

/-- The comparison panics exactly inside the word. -/
theorem compareCaseInsensitive_eq_panic_iff {octets word : Bytes} :
    compareCaseInsensitive octets word = .panic ↔ BeginsWord octets word := by
  induction word generalizing octets with
  | nil => simp [compareCaseInsensitive, BeginsWord]
  | cons right word ih =>
    cases octets with
    | nil => simp [compareCaseInsensitive, BeginsWord, isNamed]
    | cons left octets =>
      rw [compareCaseInsensitive_cons]
      by_cases folded : toLowerCase left = toLowerCase right
      · rw [if_pos folded, ih]
        simp [BeginsWord, isNamed_cons, folded]
      · simp [folded, BeginsWord, isNamed_cons]

/-- It reports the word whatever follows. -/
theorem compareCaseInsensitive_eq_true_iff {octets word : Bytes} :
    compareCaseInsensitive octets word = .ret true ↔
      ∃ front tail, octets = front ++ tail ∧ isNamed front word := by
  induction word generalizing octets with
  | nil =>
    simp only [compareCaseInsensitive, true_iff]
    exact ⟨[], octets, rfl, by simp [isNamed]⟩
  | cons right word ih =>
    cases octets with
    | nil =>
      simp only [compareCaseInsensitive, reduceCtorEq, false_iff]
      rintro ⟨front, tail, empty, named⟩
      obtain ⟨rfl, _⟩ := append_eq_nil_iff.mp empty.symm
      simp [isNamed] at named
    | cons left octets =>
      rw [compareCaseInsensitive_cons]
      constructor
      · intro compared
        split at compared
        · next folded =>
            obtain ⟨front, tail, rfl, named⟩ := ih.mp compared
            exact ⟨left :: front, tail, rfl,
              by simp [isNamed_cons, folded, named]⟩
        · cases compared
      · rintro ⟨front, tail, split, named⟩
        cases front with
        | nil => simp [isNamed] at named
        | cons first front =>
          obtain ⟨rfl, rfl⟩ := List.cons.inj split
          rw [isNamed_cons, Bool.and_eq_true, beq_iff_eq] at named
          rw [if_pos named.1]
          exact ih.mpr ⟨front, tail, rfl, named.2⟩

theorem compareCaseInsensitive_returns (octets word : Bytes) :
    compareCaseInsensitive octets word ≠ .diverge := by
  induction word generalizing octets with
  | nil => simp [compareCaseInsensitive]
  | cons right word ih =>
    cases octets with
    | nil => simp [compareCaseInsensitive]
    | cons left octets =>
      rw [compareCaseInsensitive_cons]
      split
      · exact ih octets
      · simp

/-! ## Blanks around the word -/

theorem solid_of_named {front : Bytes} (named : isNamed front webSocket) :
    front ≠ [] ∧ ∀ octet ∈ front, isOws octet = false := by
  have folded : front.map toLowerCase = webSocket.map toLowerCase := by
    simpa [isNamed] using named
  constructor
  · rintro rfl
    exact absurd folded (by decide)
  · intro octet member
    have inside : toLowerCase octet ∈ webSocket.map toLowerCase :=
      folded ▸ mem_map_of_mem member
    have neither : octet ≠ 32 ∧ octet ≠ 9 := by
      constructor
      all_goals
        rintro rfl
        exact absurd inside (by decide)
    simp [isOws, neither.1, neither.2]

theorem dropWhile_blanks {before rest : Bytes} (blank : ∀ octet ∈ before, isOws octet = true)
    (solid : ∀ octet, rest.head? = some octet → isOws octet = false) :
    (before ++ rest).dropWhile isOws = rest := by
  rw [dropWhile_append_of_pos blank]
  cases rest with
  | nil => rfl
  | cons octet rest =>
    exact dropWhile_cons_of_neg (by simp [solid octet rfl])

theorem dropWhile_word {before front : Bytes} (after : Bytes)
    (blank : ∀ octet ∈ before, isOws octet = true)
    (nonempty : front ≠ []) (solid : ∀ octet ∈ front, isOws octet = false) :
    (before ++ (front ++ after)).dropWhile isOws = front ++ after := by
  apply dropWhile_blanks blank
  intro octet first
  rw [head?_append_of_ne_nil _ nonempty] at first
  exact solid octet (mem_of_mem_head? first)

theorem trimOws_blanks {before front after : Bytes}
    (blankBefore : ∀ octet ∈ before, isOws octet = true)
    (blankAfter : ∀ octet ∈ after, isOws octet = true)
    (solid : ∀ octet ∈ front, isOws octet = false) :
    trimOws (before ++ front ++ after) = front := by
  rw [trimOws_append_blanks _ blankAfter, trimOws_blanks_append _ blankBefore,
    trimOws_of_solid solid]

/-! ## The recorded value -/

/-- The value the comparison reads correctly. -/
structure PlainUpgrade (value : Bytes) : Prop where
  /-- Behind the first octet stands something else than a proper beginning of
  the word. -/
  present : ∃ octet octets, value = octet :: octets ∧ ¬ BeginsWord octets webSocket
  /-- The word behind the first octet is all there is. -/
  alone : ∀ octet front tail, value = octet :: (front ++ tail) →
    isNamed front webSocket → isOws octet = true ∧ ∀ other ∈ tail, isOws other = true
  /-- The word between blanks has one blank before it. -/
  spaced : ∀ before front after, value = before ++ front ++ after →
    (∀ octet ∈ before, isOws octet = true) →
    (∀ octet ∈ after, isOws octet = true) → isNamed front webSocket → before.length = 1

/-- Apart from the word itself a value with the word in it has blanks only. -/
theorem blanks_of_trimOws {octet : UInt8} {front tail : Bytes} (named : isNamed front webSocket)
    (trimmed : isNamed (trimOws (octet :: (front ++ tail))) webSocket) :
    isOws octet = true ∧ ∀ other ∈ tail, isOws other = true := by
  -- both sides have as many octets that are no blanks as the word
  have count (word : Bytes) (isWord : isNamed word webSocket) :
      word.countP (!isOws ·) = webSocket.length := by
    have folded : word.map toLowerCase = webSocket.map toLowerCase := by
      simpa [isNamed] using isWord
    have length := congrArg List.length folded
    rw [length_map, length_map] at length
    rw [← length, countP_eq_length]
    intro other member
    simp [(solid_of_named isWord).2 other member]
  have whole := count _ trimmed
  rw [countP_trimOws, countP_cons, countP_append, count front named] at whole
  constructor
  · cases blank : isOws octet with
    | true => rfl
    | false =>
      simp only [blank, Bool.not_false, if_true] at whole
      omega
  · have none : tail.countP (!isOws ·) = 0 := by omega
    intro other member
    simpa using countP_eq_zero.mp none other member

theorem plainUpgrade_iff {value : Bytes} :
    PlainUpgrade value ↔ ∃ found, readUpgrade (some value) = .ret found ∧
      (found = true ↔ isNamed (trimOws value) webSocket) := by
  cases value with
  | nil =>
    constructor
    · intro plain
      obtain ⟨_, _, empty, _⟩ := plain.present
      cases empty
    · rintro ⟨found, read, _⟩
      cases read
  | cons octet octets =>
    have read : readUpgrade (some (octet :: octets)) =
        compareCaseInsensitive octets webSocket := rfl
    rw [read]
    constructor
    · intro plain
      obtain ⟨_, _, same, complete⟩ := plain.present
      cases same
      cases compared : compareCaseInsensitive octets webSocket with
      | panic =>
        exact (complete (compareCaseInsensitive_eq_panic_iff.mp compared)).elim
      | diverge => exact (compareCaseInsensitive_returns _ _ compared).elim
      | ret found =>
        refine ⟨found, rfl, ?_⟩
        constructor
        · rintro rfl
          obtain ⟨front, tail, rfl, named⟩ := compareCaseInsensitive_eq_true_iff.mp compared
          obtain ⟨blank, blanks⟩ := plain.alone octet front tail rfl named
          obtain ⟨_, solid⟩ := solid_of_named named
          have trimmed := trimOws_blanks (show ∀ other ∈ [octet], isOws other = true by
              simpa using blank) blanks solid
          rw [append_assoc, singleton_append] at trimmed
          rw [trimmed]
          exact named
        · intro named
          obtain ⟨before, after, whole, blankBefore, blankAfter⟩ :=
            exists_blanks_trimOws (octet :: octets)
          have one := plain.spaced before _ after whole blankBefore blankAfter named
          obtain ⟨only, rfl⟩ := length_eq_one_iff.mp one
          rw [append_assoc, singleton_append] at whole
          obtain ⟨rfl, octetsEq⟩ := List.cons.inj whole
          have reported := compareCaseInsensitive_eq_true_iff.mpr ⟨_, after, octetsEq, named⟩
          rw [compared] at reported
          cases reported
          rfl
    · rintro ⟨found, compared, reports⟩
      have alone : ∀ first front tail, octet :: octets = first :: (front ++ tail) →
          isNamed front webSocket → isOws first = true ∧ ∀ other ∈ tail, isOws other = true := by
        intro first front tail same named
        cases same
        have reported := compareCaseInsensitive_eq_true_iff.mpr ⟨front, tail, rfl, named⟩
        rw [reported] at compared
        cases compared
        exact blanks_of_trimOws named (reports.mp rfl)
      refine ⟨⟨octet, octets, rfl, ?_⟩, alone, ?_⟩
      · intro begins
        rw [compareCaseInsensitive_eq_panic_iff.mpr begins] at compared
        cases compared
      · intro before front after same blankBefore blankAfter named
        obtain ⟨nonempty, solid⟩ := solid_of_named named
        have trimmed := trimOws_blanks blankBefore blankAfter solid
        rw [← same] at trimmed
        obtain rfl : found = true := reports.mpr (trimmed ▸ named)
        obtain ⟨word, tail, rfl, wordNamed⟩ := compareCaseInsensitive_eq_true_iff.mp compared
        obtain ⟨blank, _⟩ := alone octet word tail rfl wordNamed
        obtain ⟨wordNonempty, wordSolid⟩ := solid_of_named wordNamed
        -- the first octet that is no blank is where both words start
        have here := dropWhile_word after blankBefore nonempty solid
        have there := dropWhile_word tail
          (show ∀ other ∈ [octet], isOws other = true by simpa using blank)
          wordNonempty wordSolid
        rw [append_assoc] at same
        rw [← same] at here
        rw [singleton_append, here] at there
        rw [there] at same
        have lengths := congrArg List.length same
        simp only [length_cons, length_append] at lengths
        omega

/-! ## Exactly the heads whose upgrade is detected -/

section

variable [SliceOfU8Ext] [StrUtils] [Platform]

def UpgradesToWebSocket (lines : List Bytes) : Prop :=
  ∃ value, (rawValues upgradeHeader lines).getLast? = some value ∧ isNamed (trimOws value) webSocket

omit [SliceOfU8Ext] [StrUtils] [Platform] in
theorem readUpgrade_detects_iff (lines : List Bytes) :
    (∃ found, readUpgrade (rawValues upgradeHeader lines).getLast? =
        .ret found ∧ (found = true ↔ UpgradesToWebSocket lines)) ↔
      ∀ value, (rawValues upgradeHeader lines).getLast? = some value →
        PlainUpgrade value := by
  cases last : (rawValues upgradeHeader lines).getLast? with
  | none =>
    have never : ¬ UpgradesToWebSocket lines := by
      rintro ⟨value, found, _⟩
      rw [last] at found
      cases found
    simp [readUpgrade, never]
  | some value =>
    have upgrades : UpgradesToWebSocket lines ↔ isNamed (trimOws value) webSocket := by
      simp [UpgradesToWebSocket, last]
    simp only [upgrades, Option.some.injEq, forall_eq']
    exact plainUpgrade_iff.symm

/-- `compile_headers` returns for the head the parser accepts in the buffer,
and reports an upgrade exactly for the value `websocket`. -/
def DetectsUpgrade (context : CompileContext) (src : Bytes) : Prop :=
  ∀ headers, parse src = .ret (some headers) →
    ∃ (head : MessageHead) (rest : Bytes), src = head.bytes ++ rest ∧
      ∃ result, compileHeaders context src headers = .ret result ∧
        ∀ compiled, result = .ok compiled →
          (compiled.webSocketUpgrade = true ↔ UpgradesToWebSocket head.lines)

/-- If the parser accepts a head in the buffer and all of its lines have a
colon, the configured values can be filled in and the last `Upgrade` value is
read correctly. -/
def ReadsUpgrade (context : CompileContext) (src : Bytes) : Prop :=
  ∀ (head : MessageHead) (rest : Bytes), src = head.bytes ++ rest →
    Passable head rest →
    (∀ line ∈ head.lines, (58 : UInt8) ∈ line) →
      Fillable context head rest ∧
        ∀ value, (rawValues upgradeHeader head.lines).getLast? = some value → PlainUpgrade value

theorem detectsUpgrade_iff_readsUpgrade (context : CompileContext)
    (src : Bytes) : DetectsUpgrade context src ↔ ReadsUpgrade context src := by
  constructor
  · rintro detects head rest rfl passable colons
    obtain ⟨headers, accepted⟩ := parse_accepts_iff.mpr passable
    obtain ⟨other, otherRest, same, result, compiled, reports⟩ := detects headers accepted
    obtain ⟨rfl, rfl⟩ := MessageHead.unique same
    rw [compileHeaders_eq accepted, if_pos colons, bind_eq_ret_iff] at compiled
    obtain ⟨added, filled, compiled⟩ := compiled
    rw [bind_eq_ret_iff] at compiled
    obtain ⟨found, read, made⟩ := compiled
    cases made
    constructor
    · rw [fillable_iff]
      cases some : filledHeaders context head rest context.kind.modifyHeaders.addHeaders with
      | none => simp [some] at filled
      | some lines => rfl
    · exact (readUpgrade_detects_iff head.lines).mp ⟨found, read, reports _ rfl⟩
  · intro reads headers accepted
    obtain ⟨head, rest, rfl⟩ := exists_head_of_parse accepted
    refine ⟨head, rest, rfl, ?_⟩
    rw [compileHeaders_eq accepted]
    by_cases colons : ∀ line ∈ head.lines, (58 : UInt8) ∈ line
    · obtain ⟨fillable, plain⟩ := reads head rest rfl
        (parse_accepts_iff.mp ⟨headers, accepted⟩) colons
      obtain ⟨added, filled⟩ := Option.isSome_iff_exists.mp (fillable_iff.mp fillable)
      obtain ⟨found, read, reports⟩ := (readUpgrade_detects_iff head.lines).mpr plain
      rw [if_pos colons, filled, read]
      refine ⟨_, rfl, ?_⟩
      intro compiled same
      cases same
      exact reports
    · rw [if_neg colons]
      exact ⟨_, rfl, by simp⟩

end

section

attribute [local instance] linearSearch asciiCase barePlatform

private def upgradeEndpoint : HttpEndpointInfo :=
  { hostEndpoint := { src := "80".toList, port := some 80, index := none }
    listenEndpointType := .http1 }

private def upgradeContext : CompileContext :=
  { kind := .request upgradeEndpoint
    connectionInfo :=
      { cnUserName := none
        connectionIp := none
        endpointInfo := some upgradeEndpoint
        listenConfig := { endpoints := [upgradeEndpoint], listenEndpointType := .http1 } }
    identity := none
    mcpPath := none
    dynamicProxyHostOverride := none }

private def upgradeRequest (value : String) : Bytes :=
  ascii "GET / HTTP/1.1\r\nUpgrade:" ++ ascii value ++ ascii "\r\n\r\n"

private def compiledUpgrade (src : Bytes) : Outcome (Option Bool) := do
  match ← parse src with
  | none => return none
  | some headers =>
    match ← compileHeaders upgradeContext src headers with
    | .error _ => return none
    | .ok compiled => return some compiled.webSocketUpgrade

/-- The value `web` panics, `websocket2` counts as an upgrade and `websocket`
without a space does not. -/
theorem other_upgrades_are_misread :
    compiledUpgrade (upgradeRequest " web") = .panic ∧
      compiledUpgrade (upgradeRequest " websocket2") = .ret (some true) ∧
        compiledUpgrade (upgradeRequest "websocket") = .ret (some false) ∧
          ¬ DetectsUpgrade upgradeContext (upgradeRequest " web") := by
  have panics : compiledUpgrade (upgradeRequest " web") = .panic := by
    decide +kernel
  have returns : (parse (upgradeRequest " web") >>=
      fun result => .ret result.isSome) = .ret true := by
    decide +kernel
  refine ⟨panics, by decide +kernel, by decide +kernel, ?_⟩
  intro detects
  rw [bind_eq_ret_iff] at returns
  obtain ⟨result, parsed, isSome⟩ := returns
  cases result with
  | none => cases isSome
  | some headers =>
    obtain ⟨_, _, _, outcome, compiled, _⟩ := detects headers parsed
    rw [compiledUpgrade, parsed, bind_ret] at panics
    dsimp only at panics
    rw [compiled, bind_ret] at panics
    cases outcome with
    | error err => cases panics
    | ok compiled => cases panics

end

end ReverseProxy
