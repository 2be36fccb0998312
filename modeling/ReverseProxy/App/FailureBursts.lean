import ReverseProxy.App.BlocklistHistory

/-!
# Blocks and bursts of failures

A block goes back to at least five hard or thirty soft failures within less than
sixteen seconds.  Once a counter has reached its threshold, every failure within
the window renews the block.
-/

namespace ReverseProxy

open Library DateTimeExt Outcome List

/-! ## Counted failures -/

/-- What the history says of one address: the white list, and the failures
counted since its last success or unblock. -/
structure FailureView where
  whiteList : Option (List WhitelistedIp) := none
  counted : List (Int × FailureSeverity) := []

def FailureView.apply (ip : BitVec 32) (view : FailureView)
    (event : Int × IpBlocklist.Event) : FailureView :=
  match event.2 with
  | .failure other severity =>
    if other = ip ∧ whiteLists view.whiteList ip = false then
      { view with counted := view.counted ++ [(event.1, severity)] }
    else
      view
  | .success other =>
    if other = ip then { view with counted := [] } else view
  | .unblock other =>
    if other = ip then { view with counted := [] } else view
  | .setWhiteList src =>
    { view with whiteList := changedWhiteList view.whiteList src }
  | .cleanup => view
  | .query _ => view

def countedFailures (ip : BitVec 32) (history : List (Int × IpBlocklist.Event)) :
    List (Int × FailureSeverity) :=
  (history.foldl (FailureView.apply ip) {}).counted

def countOf (severity : FailureSeverity) (failures : List (Int × FailureSeverity)) : Nat :=
  failures.countP (·.2 = severity)

/-- Failures that follow one another within less than sixteen seconds, enough
of them of one severity, up to one at the time `last`. -/
def Burst (counted : List (Int × FailureSeverity)) (last : Int) : Prop :=
  ∃ window : List (Int × FailureSeverity), window <:+: counted ∧
    (∀ early ∈ window, ∀ late ∈ window, late.1 - early.1 < seconds 16) ∧
    (5 ≤ countOf .hard window ∨ 30 ≤ countOf .soft window) ∧
    ∃ severity, window.getLast? = some (last, severity)

theorem Burst.append {counted : List (Int × FailureSeverity)} {last : Int}
    (burst : Burst counted last) (more : List (Int × FailureSeverity)) :
    Burst (counted ++ more) last := by
  obtain ⟨window, inside, rest⟩ := burst
  exact ⟨window, inside.trans (prefix_append counted more).isInfix, rest⟩

theorem Burst.exists_mem {counted : List (Int × FailureSeverity)}
    {last : Int} (burst : Burst counted last) :
    ∃ severity, (last, severity) ∈ counted := by
  obtain ⟨window, inside, _, _, severity, isLast⟩ := burst
  exact ⟨severity, inside.subset (mem_of_getLast? isLast)⟩

/-! ## What an entry stands for -/

namespace IpEntry

variable {entry : IpEntry} {counted : List (Int × FailureSeverity)} {now later : Int}

/-- The failures counted in the window of the entry, and the burst behind its
block. -/
structure Justified (now : Int) (entry : IpEntry)
    (counted : List (Int × FailureSeverity)) : Prop where
  started : entry.windowStart ≤ now
  window : ∃ before window, counted = before ++ window ∧
    (∀ failure ∈ window, entry.windowStart ≤ failure.1 ∧
      failure.1 < entry.windowStart + seconds 16) ∧
    entry.hardCount ≤ countOf .hard window ∧
    entry.softCount ≤ countOf .soft window
  blocked : ∀ blockedUntil, entry.blockedUntil = some blockedUntil →
    ∃ last, Burst counted last ∧ blockedUntil = last + seconds 300

theorem saturatingSucc_le (count : Nat) : saturatingSucc count ≤ count + 1 := Nat.min_le_left _ _

theorem Justified.count (justified : entry.Justified now counted)
    (valid : now < entry.windowStart + seconds 16)
    (severity : FailureSeverity) :
    (entry.count severity).Justified now (counted ++ [(now, severity)]) := by
  obtain ⟨before, window, rfl, inWindow, hard, soft⟩ := justified.window
  have started := justified.started
  have fields : (entry.count severity).windowStart = entry.windowStart ∧
      (entry.count severity).blockedUntil = entry.blockedUntil := by
    cases severity <;> exact ⟨rfl, rfl⟩
  refine ⟨by rw [fields.1]; exact started, ?_, ?_⟩
  · refine ⟨before, window ++ [(now, severity)], by simp, ?_, ?_, ?_⟩
    · rw [fields.1]
      intro failure member
      rcases mem_append.mp member with earlier | here
      · exact inWindow failure earlier
      · rw [mem_singleton.mp here]
        exact ⟨started, valid⟩
    · cases severity with
      | hard =>
        have grown := saturatingSucc_le entry.hardCount
        simp only [IpEntry.count, countOf, countP_append,
          countP_singleton, decide_true, if_true] at hard ⊢
        omega
      | soft => simpa [IpEntry.count, countOf] using hard
    · cases severity with
      | hard => simpa [IpEntry.count, countOf] using soft
      | soft =>
        have grown := saturatingSucc_le entry.softCount
        simp only [IpEntry.count, countOf, countP_append,
          countP_singleton, decide_true, if_true] at soft ⊢
        omega
  · rw [fields.2]
    intro blockedUntil isBlocked
    obtain ⟨last, burst, same⟩ := justified.blocked blockedUntil isBlocked
    exact ⟨last, burst.append _, same⟩

variable [DateTimeExt]

theorem Justified.openWindow (justified : entry.Justified now counted) :
    (entry.openWindow now).Justified now counted ∧
      now < (entry.openWindow now).windowStart + seconds 16 := by
  unfold IpEntry.openWindow
  split
  case isTrue expired =>
    refine ⟨⟨Int.le_refl now, ?_, justified.blocked⟩, ?_⟩
    · exact ⟨counted, [], by simp, by simp, by simp [countOf],
        by simp [countOf]⟩
    · simp only [seconds]
      omega
  case isFalse valid =>
    rw [windowExpired_iff justified.started, Int.not_le] at valid
    exact ⟨justified, valid⟩

theorem Justified.blockIfDue {severity : FailureSeverity}
    (justified : entry.Justified now (counted ++ [(now, severity)])) :
    (entry.blockIfDue now).Justified now (counted ++ [(now, severity)]) := by
  unfold IpEntry.blockIfDue
  split
  case isFalse _ => exact justified
  case isTrue due =>
    refine ⟨justified.started, justified.window, ?_⟩
    intro blockedUntil isBlocked
    rw [Option.some.injEq, addSeconds_eq] at isBlocked
    obtain ⟨before, window, same, inWindow, hard, soft⟩ := justified.window
    refine ⟨now, ⟨window, ⟨before, [], by simp [same]⟩, ?_, ?_, ?_⟩, isBlocked.symm⟩
    · intro early earlyMember late lateMember
      have fromStart := (inWindow early earlyMember).1
      have toEnd := (inWindow late lateMember).2
      omega
    · simp only [hardFailThreshold, softFailThreshold] at due
      omega
    · have notEmpty : window ≠ [] := by
        rintro rfl
        simp [countOf, hardFailThreshold, softFailThreshold] at hard soft due
        omega
      have lastOf := congrArg getLast? same
      rw [getLast?_append_of_ne_nil _ notEmpty] at lastOf
      exact ⟨severity, by rw [← lastOf]; simp⟩

theorem justified_fail {entry : Option IpEntry} (justified : ∀ present, entry = some present →
      present.Justified now counted) (severity : FailureSeverity) :
    (IpEntry.fail now severity entry).Justified now (counted ++ [(now, severity)]) := by
  have start : (entry.getD
      { hardCount := 0
        softCount := 0
        windowStart := now
        blockedUntil := none }).Justified now counted := by
    cases entry with
    | some present => exact justified present rfl
    | none =>
      exact ⟨Int.le_refl now, ⟨counted, [], by simp, by simp, by simp, by simp⟩, by simp⟩
  obtain ⟨opened, valid⟩ := start.openWindow
  exact (opened.count valid severity).blockIfDue

end IpEntry

namespace IpBlocklist

/-- The entry of the address stands for its counted failures. -/
structure Explained (ip : BitVec 32) (now : Int) (list : IpBlocklist)
    (view : FailureView) : Prop where
  whiteList : list.whiteList = view.whiteList
  entry : ∀ entry, list.map (.v4 ip) = some entry → entry.Justified now view.counted
  past : ∀ failure ∈ view.counted, failure.1 ≤ now

section

variable {ip : BitVec 32} {now later : Int} {list : IpBlocklist} {view : FailureView}

theorem Explained.lasts (explained : Explained ip now list view)
    (passes : now ≤ later) : Explained ip later list view :=
  { explained with
    entry := fun entry present =>
      let justified := explained.entry entry present
      { justified with started := justified.started.trans passes }
    past := fun failure member =>
      (explained.past failure member).trans passes }

theorem Explained.apply [DateTimeExt] (explained : Explained ip now list view) (event : Event) :
    Explained ip now (list.apply (now, event)) (view.apply ip (now, event)) := by
  have whiteList := apply_whiteList list now event
  have entry := apply_map list now event (.v4 ip)
  rw [explained.whiteList] at whiteList entry
  cases event with
  | failure other severity =>
    rw [FailureView.apply]
    dsimp only
    split
    · next counted =>
      obtain ⟨rfl, notListed⟩ := counted
      refine ⟨whiteList, ?_, ?_⟩
      · intro present same
        rw [entry, changedEntry, if_pos ⟨rfl, notListed⟩, Option.some.injEq] at same
        subst same
        exact IpEntry.justified_fail explained.entry severity
      · intro failure member
        rcases mem_append.mp member with earlier | here
        · exact explained.past failure earlier
        · rw [mem_singleton.mp here]
    · next skipped =>
      refine ⟨whiteList, ?_, explained.past⟩
      rw [entry, changedEntry, if_neg]
      · exact explained.entry
      · rintro ⟨⟨⟩, notListed⟩
        exact skipped ⟨rfl, notListed⟩
  | success other | unblock other =>
    rw [FailureView.apply]
    dsimp only
    split
    · next same =>
      subst same
      refine ⟨whiteList, ?_, by simp⟩
      rw [entry, changedEntry, if_pos rfl]
      simp
    · next different =>
      refine ⟨whiteList, ?_, explained.past⟩
      rw [entry, changedEntry, if_neg (by simpa using Ne.symm different)]
      exact explained.entry
  | setWhiteList src | query other =>
    refine ⟨whiteList, ?_, explained.past⟩
    rw [entry]
    exact explained.entry
  | cleanup =>
    refine ⟨whiteList, ?_, explained.past⟩
    intro present same
    exact explained.entry present (Option.filter_eq_some_iff.mp same).1

variable [DateTimeExt] {history : List (Int × Event)}

theorem explained_after (ip : BitVec 32) (timely : Timely history now) :
    Explained ip now (after history) (history.foldl (FailureView.apply ip) {}) := by
  refine foldl_timed Prod.fst (Explained ip) ?_ ?_ timely.sorted ?_ timely.ended
  · exact fun explained passes => explained.lasts passes
  · exact fun event _ => fun explained => explained.apply event.2
  · exact fun now => ⟨rfl, by simp, by simp⟩

/-- A blocked address is not white-listed, and a burst of its failures ended
less than five minutes ago. -/
theorem burst_of_isBlocked {ip : BitVec 32} (timely : Timely history now)
    (blocked : (after history).isBlocked now (.v4 ip) = .ret true) :
    (after history).isWhiteListed (.v4 ip) = .ret false ∧
      ∃ last, Burst (countedFailures ip history) last ∧ last ≤ now ∧ now - last < seconds 300 := by
  have explained := explained_after ip timely
  rw [isBlocked_v4, ret.injEq, Bool.and_eq_true] at blocked
  obtain ⟨notListed, hasBlock⟩ := blocked
  refine ⟨by simpa [isWhiteListed_v4] using notListed, ?_⟩
  cases present : (after history).map (.v4 ip) with
  | none => simp [present] at hasBlock
  | some entry =>
    cases ends : entry.blockedUntil with
    | none => simp [present, IpEntry.blockedAt, ends] at hasBlock
    | some blockedUntil =>
      simp only [present, Option.any_some, IpEntry.blockedAt, ends, decide_eq_true_eq] at hasBlock
      obtain ⟨last, burst, same⟩ := (explained.entry entry present).blocked blockedUntil ends
      obtain ⟨severity, member⟩ := burst.exists_mem
      exact ⟨last, burst, explained.past _ member, by omega⟩

end

end IpBlocklist

/-! ## Dense failures -/

def FailureSeverity.threshold : FailureSeverity → Nat
  | hard => hardFailThreshold
  | soft => softFailThreshold

namespace IpEntry

def countFor (severity : FailureSeverity) (entry : IpEntry) : Nat :=
  match severity with
  | .hard => entry.hardCount
  | .soft => entry.softCount

/-- How far `seen` failures since the time `start` have brought an entry.  The
window that was open at `start` has seen all of them, or it has been left with
fewer than the threshold and a later one has seen the rest. -/
inductive Advanced (severity : FailureSeverity) (start : Int) (seen : Nat) :
    Option IpEntry → Prop where
  | blocked {entry : IpEntry} {blockedUntil : Int} (ends : entry.blockedUntil = some blockedUntil)
      (late : start + seconds 300 ≤ blockedUntil) :
      Advanced severity start seen (some entry)
  | missing (few : seen < severity.threshold) : Advanced severity start seen none
  | first {entry : IpEntry} (few : seen < severity.threshold)
      (counts : seen ≤ entry.countFor severity) :
      Advanced severity start seen (some entry)
  | second {entry : IpEntry} (fresh : start ≤ entry.windowStart)
      (below : entry.countFor severity < severity.threshold)
      (counts : seen < entry.countFor severity + severity.threshold) :
      Advanced severity start seen (some entry)

variable [DateTimeExt] {severity : FailureSeverity} {start now : Int} {seen : Nat}

theorem openWindow_of_recent {entry : IpEntry} (started : entry.windowStart ≤ now)
    (recent : now ≤ entry.windowStart + seconds 15) :
    entry.openWindow now = entry := by
  unfold openWindow
  rw [if_neg]
  rw [windowExpired_iff started]
  simp only [seconds] at recent ⊢
  omega

omit [DateTimeExt] in
theorem countFor_count {entry : IpEntry} {kind : FailureSeverity}
    (below : (entry.count kind).countFor severity < severity.threshold) :
    (entry.count kind).countFor severity =
      entry.countFor severity + if kind = severity then 1 else 0 := by
  have small : severity.threshold ≤ 30 := by cases severity <;> decide
  cases kind <;> cases severity <;>
    simp_all [IpEntry.count, countFor, saturatingSucc] <;> omega

omit [DateTimeExt] in
/-- A failure that leaves the counter below its threshold has been counted. -/
theorem Advanced.of_counted {entry : IpEntry} {kind : FailureSeverity}
    (below : (entry.count kind).countFor severity < severity.threshold)
    (advanced : (seen ≤ entry.countFor severity) ∨ (start ≤ entry.windowStart ∧
        seen < entry.countFor severity + severity.threshold)) :
    Advanced severity start (seen + if kind = severity then 1 else 0)
      (some (entry.count kind)) := by
  have grown := countFor_count below
  rcases advanced with all | ⟨fresh, rest⟩
  · exact .first (by omega) (by omega)
  · refine .second ?_ below (by omega)
    cases kind <;> exact fresh

variable {entry : Option IpEntry}

theorem Advanced.fail (kind : FailureSeverity) (advanced : Advanced severity start seen entry)
    (started : ∀ present, entry = some present → present.windowStart ≤ now)
    (reached : start ≤ now) (recent : now ≤ start + seconds 15) :
    Advanced severity start (seen + if kind = severity then 1 else 0)
      (some (IpEntry.fail now kind entry)) := by
  unfold IpEntry.fail
  dsimp only
  generalize opened : (entry.getD
    { hardCount := 0
      softCount := 0
      windowStart := now
      blockedUntil := none }).openWindow now = current
  unfold blockIfDue
  by_cases due : (current.count kind).hardCount ≥ hardFailThreshold ∨
      (current.count kind).softCount ≥ softFailThreshold
  · rw [if_pos due]
    refine .blocked rfl ?_
    rw [addSeconds_eq]
    simp only [blockSecs, seconds]
    omega
  rw [if_neg due]
  have below : (current.count kind).countFor severity <
      severity.threshold := by
    cases severity with
    | hard => exact Nat.lt_of_not_le fun reached => due (.inl reached)
    | soft => exact Nat.lt_of_not_le fun reached => due (.inr reached)
  cases advanced with
  | @blocked entry blockedUntil ends late =>
    refine .blocked ?_ late
    subst opened
    rw [← ends]
    cases kind <;> simp [IpEntry.count, openWindow] <;> split <;> rfl
  | missing few =>
    refine .of_counted below (.inr ?_)
    rw [Option.getD_none, openWindow_of_recent (Int.le_refl now) (by simp [seconds])] at opened
    subst opened
    exact ⟨reached, by omega⟩
  | @first entry few counts =>
    refine .of_counted below ?_
    rw [Option.getD_some, openWindow] at opened
    split at opened
    · subst opened
      exact .inr ⟨reached, by omega⟩
    · subst opened
      exact .inl counts
  | @second entry fresh _ counts =>
    refine .of_counted below (.inr ?_)
    rw [Option.getD_some, openWindow_of_recent (started entry rfl) (by omega)] at opened
    subst opened
    exact ⟨fresh, counts⟩

theorem Advanced.cleanup (advanced : Advanced severity start seen entry)
    (started : ∀ present, entry = some present → present.windowStart ≤ now)
    (recent : now ≤ start + seconds 15) :
    Advanced severity start seen (entry.filter (isRetained now)) := by
  cases advanced with
  | @blocked entry blockedUntil ends late =>
    have retained : entry.isRetained now = true := by
      have active : blockedUntil > now := by
        simp only [seconds] at late recent
        omega
      simp [isRetained, blockedAt, ends, active]
    rw [Option.filter_some_pos retained]
    exact .blocked ends late
  | missing few => exact .missing few
  | @first entry few counts =>
    cases retained : entry.isRetained now with
    | true =>
      rw [Option.filter_some_pos retained]
      exact .first few counts
    | false =>
      rw [Option.filter_some_neg (by simp [retained])]
      exact .missing few
  | @second entry fresh below counts =>
    have retained : entry.isRetained now = true := by
      have isStarted := started entry rfl
      rw [← Bool.not_eq_false, isRetained_eq_false_iff isStarted]
      intro stale
      have expired := stale.expired
      simp only [seconds] at expired recent
      omega
    rw [Option.filter_some_pos retained]
    exact .second fresh below counts

omit [DateTimeExt] in
/-- Twice the threshold but one is enough, wherever the windows were. -/
theorem Advanced.blockedAt (advanced : Advanced severity start seen entry)
    (enough : 2 * severity.threshold ≤ seen + 1)
    (soon : now < start + seconds 300) :
    entry.any (·.blockedAt now) = true := by
  have positive : 0 < severity.threshold := by cases severity <;> decide
  cases advanced with
  | blocked ends late =>
    have active := Int.lt_of_lt_of_le soon late
    simp [IpEntry.blockedAt, ends, active]
  | missing few => omega
  | first few _ => omega
  | second _ below counts => omega

end IpEntry

namespace IpBlocklist

open IpEntry

variable [DateTimeExt]

/-- At no point of the history does a white list list the address. -/
def NeverWhiteListed (ip : BitVec 32) (history : List (Int × Event)) : Prop :=
  ∀ past, past <+: history → (after past).isWhiteListed (.v4 ip) = .ret false

/-- The failures of an address, counted or not. -/
def failuresOf (ip : BitVec 32) (severity : FailureSeverity) (history : List (Int × Event)) : Nat :=
  history.countP (·.2 = .failure ip severity)

section

variable {ip : BitVec 32} {severity : FailureSeverity} {start now : Int}

theorem advanced_apply {list : IpBlocklist} {seen : Nat} (event : Event)
    (advanced : Advanced severity start seen (list.map (.v4 ip)))
    (started : ∀ entry, list.map (.v4 ip) = some entry → entry.windowStart ≤ now)
    (notListed : whiteLists list.whiteList ip = false)
    (reached : start ≤ now) (recent : now ≤ start + seconds 15)
    (noSuccess : event ≠ .success ip) (noUnblock : event ≠ .unblock ip) :
    Advanced severity start (seen + if event = .failure ip severity then 1 else 0)
      ((list.apply (now, event)).map (.v4 ip)) := by
  rw [apply_map]
  cases event with
  | failure other kind =>
    rw [changedEntry]
    by_cases same : other = ip
    · subst same
      simpa [notListed] using advanced.fail kind started reached recent
    · simpa [same, Ne.symm same] using advanced
  | success other =>
    have different : other ≠ ip := by simpa using noSuccess
    simpa [changedEntry, Ne.symm different] using advanced
  | unblock other =>
    have different : other ≠ ip := by simpa using noUnblock
    simpa [changedEntry, Ne.symm different] using advanced
  | setWhiteList src | query other =>
    rw [if_neg (by simp)]
    exact advanced
  | cleanup =>
    rw [if_neg (by simp)]
    exact advanced.cleanup started recent

omit [DateTimeExt] in
theorem Timely.of_append {past rest : List (Int × Event)}
    {event : Int × Event} (timely : Timely (past ++ event :: rest) now) :
    Timely past event.1 := by
  obtain ⟨sorted, _, ordered⟩ := pairwise_append.mp timely.sorted
  exact ⟨sorted, fun early member =>
    ordered early member event mem_cons_self⟩

variable {before during : List (Int × Event)}

/-- By induction on the calls since `start`, the last one first. -/
theorem advanced_after (severity : FailureSeverity) (timely : Timely (before ++ during) now)
    (never : NeverWhiteListed ip (before ++ during))
    (within : ∀ event ∈ during, start ≤ event.1 ∧ event.1 ≤ start + seconds 15)
    (kept : ∀ event ∈ during, event.2 ≠ .success ip ∧ event.2 ≠ .unblock ip) :
    Advanced severity start (failuresOf ip severity during)
      ((after (before ++ during)).map (.v4 ip)) := by
  induction during using reverseRecOn generalizing now with
  | nil =>
    have positive : 0 < severity.threshold := by cases severity <;> decide
    cases (after (before ++ [])).map (.v4 ip) with
    | none => exact .missing positive
    | some entry => exact .first positive (Nat.zero_le _)
  | append_singleton past event ih =>
    rw [← append_assoc] at timely never ⊢
    have pastTimely := timely.of_append
    have pastAdvanced := ih pastTimely (fun early isPast =>
        never early (isPast.trans (prefix_append _ _)))
      (fun early member => within early (mem_append_left _ member))
      (fun early member => kept early (mem_append_left _ member))
    have explained := explained_after ip pastTimely
    have notListed := never (before ++ past) (prefix_append _ _)
    rw [isWhiteListed_v4, ret.injEq] at notListed
    have here : event ∈ past ++ [event] := by simp
    have advanced := advanced_apply event.2 pastAdvanced
      (fun entry present => (explained.entry entry present).started)
      notListed (within event here).1 (within event here).2
      (kept event here).1 (kept event here).2
    have afterEvent : after (before ++ past ++ [event]) = (after (before ++ past)).apply event := by
      simp only [after, foldl_append, foldl_cons, foldl_nil]
    rw [afterEvent]
    simpa [failuresOf, countP_append, countP_cons] using advanced

theorem isBlocked_of_dense (timely : Timely (before ++ during) now)
    (never : NeverWhiteListed ip (before ++ during))
    (within : ∀ event ∈ during, start ≤ event.1 ∧ event.1 ≤ start + seconds 15)
    (kept : ∀ event ∈ during, event.2 ≠ .success ip ∧ event.2 ≠ .unblock ip)
    (enough : 9 ≤ failuresOf ip .hard during ∨ 59 ≤ failuresOf ip .soft during)
    (soon : now < start + seconds 300) :
    (after (before ++ during)).isBlocked now (.v4 ip) = .ret true := by
  have notListed := never _ prefix_rfl
  rw [isWhiteListed_v4, ret.injEq] at notListed
  have reached : ∀ severity : FailureSeverity,
      2 * severity.threshold ≤ failuresOf ip severity during + 1 →
      ((after (before ++ during)).map (.v4 ip)).any (·.blockedAt now) := by
    intro severity enough
    exact (advanced_after severity timely never within kept).blockedAt enough soon
  rw [isBlocked_v4, notListed, ret.injEq]
  rcases enough with hard | soft
  · exact reached .hard (Nat.succ_le_succ hard)
  · exact reached .soft (Nat.succ_le_succ soft)

end

/-! ## Other addresses -/

def Event.address : Event → Option (BitVec 32)
  | .failure ip _ => some ip
  | .success ip => some ip
  | .unblock ip => some ip
  | .setWhiteList _ => none
  | .cleanup => none
  | .query ip => some ip

/-- Two lists that hold the same about one address. -/
structure SameFor (ip : BitVec 32) (first second : IpBlocklist) : Prop where
  whiteList : first.whiteList = second.whiteList
  entry : first.map (.v4 ip) = second.map (.v4 ip)

section

variable {ip other : BitVec 32} {first second : IpBlocklist}

theorem SameFor.apply (same : SameFor ip first second) (event : Int × Event) :
    SameFor ip (first.apply event) (second.apply event) := by
  constructor
  · rw [apply_whiteList, apply_whiteList, same.whiteList]
  · rw [apply_map, apply_map, same.whiteList, same.entry]

theorem sameFor_apply_of_address (list : IpBlocklist) {event : Int × Event} (different : other ≠ ip)
    (address : event.2.address = some other) :
    SameFor ip (list.apply event) list := by
  obtain ⟨now, event⟩ := event
  constructor
  · rw [apply_whiteList]
    cases event with
    | setWhiteList src => cases address
    | _ => rfl
  · rw [apply_map]
    cases event with
    | failure changed severity | success changed | unblock changed =>
      obtain rfl : changed = other := Option.some.inj address
      simp [changedEntry, Ne.symm different]
    | setWhiteList src | cleanup => cases address
    | query changed => rfl

theorem sameFor_without (history : List (Int × Event)) (different : other ≠ ip) :
    SameFor ip (after history) (after (history.filter (·.2.address ≠ some other))) := by
  unfold after
  rw [foldl_filter]
  refine foldl_rel (r := SameFor ip) ⟨rfl, rfl⟩ ?_
  intro event _ first second same
  by_cases address : event.2.address = some other
  · have unchanged := sameFor_apply_of_address first different address
    simpa [address] using SameFor.mk (unchanged.whiteList.trans same.whiteList)
        (unchanged.entry.trans same.entry)
  · simpa [address] using same.apply event

omit [DateTimeExt] in
theorem SameFor.isBlocked_eq (same : SameFor ip first second) (now : Int) :
    first.isBlocked now (.v4 ip) = second.isBlocked now (.v4 ip) := by
  rw [isBlocked_v4, isBlocked_v4, same.whiteList, same.entry]

omit [DateTimeExt] in
theorem StandsFor.isBlocked_eq {now : Int} (stands : StandsFor now first second) (ip : BitVec 32) :
    first.isBlocked now (.v4 ip) = second.isBlocked now (.v4 ip) := by
  rw [isBlocked_v4, isBlocked_v4, stands.whiteList, (stands.entries (.v4 ip)).blockedAt_eq]

end

/-! ## The answers and the history -/

/-- The answers of the block-list, from the history alone: cleanups do not
count, a block goes back to a burst, dense failures end in a block, and other
addresses do not count. -/
theorem blocklist_follows_history {history : List (Int × Event)} {now : Int}
    (timely : Timely history now) (ip : BitVec 32) :
    (after history).isBlocked now (.v4 ip) =
      (after (history.filter (·.2 ≠ .cleanup))).isBlocked now (.v4 ip) ∧
    ((after history).isBlocked now (.v4 ip) = .ret true →
      (after history).isWhiteListed (.v4 ip) = .ret false ∧
        ∃ last, Burst (countedFailures ip history) last ∧ last ≤ now ∧ now - last < seconds 300) ∧
    (∀ before during start, history = before ++ during → NeverWhiteListed ip history →
      (∀ event ∈ during, start ≤ event.1 ∧ event.1 ≤ start + seconds 15) →
      (∀ event ∈ during, event.2 ≠ .success ip ∧ event.2 ≠ .unblock ip) →
      (9 ≤ failuresOf ip .hard during ∨ 59 ≤ failuresOf ip .soft during) →
      now < start + seconds 300 →
      (after history).isBlocked now (.v4 ip) = .ret true) ∧
    ∀ other, other ≠ ip →
      (after history).isBlocked now (.v4 ip) =
        (after (history.filter (·.2.address ≠ some other))).isBlocked now (.v4 ip) := by
  refine ⟨?_, burst_of_isBlocked timely, ?_, ?_⟩
  · exact (standsFor_without_cleanups timely).isBlocked_eq ip
  · rintro before during start rfl never within kept enough soon
    exact isBlocked_of_dense timely never within kept enough soon
  · exact fun other different =>
      (sameFor_without history different).isBlocked_eq now

private def nineHardFailures : List (Int × Event) := replicate 9 (0, .failure 7 .hard) ++
    [(seconds 15, .failure 8 .soft), (seconds 15, .cleanup)]

omit [DateTimeExt] in
theorem blocklist_follows_history_nine :
    Timely nineHardFailures (seconds 20) ∧
      (@after microseconds nineHardFailures).isBlocked (seconds 20) (.v4 7) =
        .ret true := by
  let _ := microseconds
  have timely : Timely nineHardFailures (seconds 20) := ⟨by decide, by decide⟩
  have never : NeverWhiteListed 7 nineHardFailures := by
    have listed : ∀ past ∈ nineHardFailures.inits,
        (after past).isWhiteListed (.v4 7) = .ret false := by decide
    exact fun past isPast => listed past ((mem_inits _ _).mpr isPast)
  exact ⟨timely, (blocklist_follows_history timely 7).2.2.1 []
    nineHardFailures 0 rfl never (by decide) (by decide) (by decide)
    (by decide)⟩

/-! ## A block that another severity renews -/

/-- Failures of one severity alone that reach its threshold. -/
def BurstOfOneSeverity (counted : List (Int × FailureSeverity)) (last : Int) : Prop :=
  ∃ (window : List (Int × FailureSeverity)) (severity : FailureSeverity),
    window.Sublist counted ∧ (∀ failure ∈ window, failure.2 = severity) ∧
    (∀ early ∈ window, ∀ late ∈ window, late.1 - early.1 < seconds 16) ∧
    severity.threshold ≤ window.length ∧
    window.getLast? = some (last, severity)

private def hardThenSoft : List (Int × Event) := replicate 5 (0, .failure 7 .hard) ++
    [(seconds 10, .failure 7 .soft)]

omit [DateTimeExt] in
/-- The last hard failure is 305 seconds old, and the only soft one renewed
the block. -/
theorem soft_failure_renews_hard_block :
    Timely hardThenSoft (seconds 305) ∧
      (@after microseconds hardThenSoft).isBlocked (seconds 305) (.v4 7) = .ret true ∧
      ¬ ∃ last, BurstOfOneSeverity (countedFailures 7 hardThenSoft) last ∧
        seconds 305 - last < seconds 300 := by
  refine ⟨⟨by decide, by decide⟩, by decide, ?_⟩
  rintro ⟨last, ⟨window, severity, counted, alike, -, enough, ends⟩, recent⟩
  have counts : window.length ≤ countOf severity (countedFailures 7 hardThenSoft) := by
    have all : countOf severity window = window.length :=
      countP_eq_length.mpr (by simpa using alike)
    exact all ▸ counted.countP_le
  cases severity with
  | hard =>
    have member := counted.subset (mem_of_getLast? ends)
    have early : ∀ failure ∈ countedFailures 7 hardThenSoft,
        failure.2 = .hard → failure.1 = 0 := by decide
    obtain rfl : last = 0 := early _ member rfl
    simp [seconds] at recent
  | soft =>
    have single : countOf .soft (countedFailures 7 hardThenSoft) = 1 := by
      decide
    have many : 30 ≤ window.length := enough
    omega

end IpBlocklist

end ReverseProxy
