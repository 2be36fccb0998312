import ReverseProxy.App.IpBlocklist

/-!
# The block-list against its history

The compact entry of an address stands for its counted failures.  Removing stale
entries changes no answer, and failures that are dense enough end in a block
wherever the window was started.
-/

namespace ReverseProxy

open Library DateTimeExt

/-! ## White lists and IPv4 addresses -/

def WhitelistedIp.lists (item : WhitelistedIp) (ip : BitVec 32) : Bool :=
  match item with
  | .singleIp listed => listed == ip
  | .range ipFrom ipTo => decide (ipFrom ≤ ip) && decide (ip ≤ ipTo)

theorem isWhitelisted_v4 (items : List WhitelistedIp) (ip : BitVec 32) :
    isWhitelisted items (.v4 ip) = .ret (items.isEmpty || items.any (·.lists ip)) := by
  have loop : ∀ items : List WhitelistedIp,
      anyIsMyIp (.v4 ip) items = .ret (items.any (·.lists ip)) := by
    intro items
    induction items with
    | nil => rfl
    | cons item items ih =>
      have here : item.isMyIp (.v4 ip) = .ret (item.lists ip) := by
        cases item <;> rfl
      rw [anyIsMyIp, here, List.any_cons]
      cases item.lists ip with
      | false => simpa using ih
      | true => rfl
  cases items with
  | nil => rfl
  | cons item items =>
    rw [isWhitelisted, if_neg (List.cons_ne_nil _ _), loop]
    rfl

/-- Whether a white list that is configured lists the address. -/
def whiteLists (whiteList : Option (List WhitelistedIp)) (ip : BitVec 32) :
    Bool :=
  whiteList.any fun items => items.isEmpty || items.any (·.lists ip)

/-- The white list after a change; a list that does not parse is not
stored. -/
def changedWhiteList (whiteList : Option (List WhitelistedIp)) :
    Option (List Str) → Option (List WhitelistedIp)
  | some [] => none
  | some src =>
    match newWhiteListedIpList src with
    | .ret items => some items
    | .panic => whiteList
    | .diverge => whiteList
  | none => none

namespace IpBlocklist

variable {list : IpBlocklist}

theorem isWhiteListed_v4 (list : IpBlocklist) (ip : BitVec 32) :
    list.isWhiteListed (.v4 ip) = .ret (whiteLists list.whiteList ip) := by
  unfold isWhiteListed
  cases list.whiteList with
  | none => rfl
  | some items => exact isWhitelisted_v4 items ip

theorem isBlocked_v4 (list : IpBlocklist) (now : Int) (ip : BitVec 32) :
    list.isBlocked now (.v4 ip) =
      .ret (!whiteLists list.whiteList ip && (list.map (.v4 ip)).any (·.blockedAt now)) := by
  unfold isBlocked
  rw [isWhiteListed_v4]
  cases whiteLists list.whiteList ip with
  | true => rfl
  | false => cases list.map (.v4 ip) <;> rfl

section

variable [DateTimeExt]

theorem apply_setWhiteList (list : IpBlocklist) (now : Int) (src : Option (List Str)) :
    list.apply (now, .setWhiteList src) =
      { list with whiteList := changedWhiteList list.whiteList src } := by
  simp only [apply]
  cases src with
  | none => rfl
  | some src =>
    cases src with
    | nil => rfl
    | cons item items =>
      simp only [setWhiteList, changedWhiteList]
      cases newWhiteListedIpList (item :: items) <;> rfl

/-- What an event leaves of the entry of one address. -/
def changedEntry (now : Int) (whiteList : Option (List WhitelistedIp)) (ip : IpAddr)
    (entry : Option IpEntry) : Event → Option IpEntry
  | .failure other severity =>
    if ip = .v4 other ∧ whiteLists whiteList other = false then
      some (IpEntry.fail now severity entry)
    else
      entry
  | .success other => if ip = .v4 other then none else entry
  | .unblock other => if ip = .v4 other then none else entry
  | .setWhiteList _ => entry
  | .cleanup => entry.filter (IpEntry.isRetained now)
  | .query _ => entry

theorem apply_map (list : IpBlocklist) (now : Int) (event : Event) (ip : IpAddr) :
    (list.apply (now, event)).map ip =
      changedEntry now list.whiteList ip (list.map ip) event := by
  cases event with
  | failure other severity =>
    simp only [apply, registerFailure, isWhiteListed_v4, changedEntry]
    cases whiteLists list.whiteList other with
    | true => simp [orSame]
    | false =>
      by_cases here : ip = .v4 other
      · subst here
        simp [orSame]
      · simp [orSame, here]
  | success other | unblock other =>
    by_cases here : ip = .v4 other
    · subst here
      simp [apply, registerSuccess, unblock, changedEntry]
    · simp [apply, registerSuccess, unblock, changedEntry, here]
  | setWhiteList src =>
    rw [apply_setWhiteList]
    rfl
  | cleanup | query other => rfl

theorem apply_whiteList (list : IpBlocklist) (now : Int) (event : Event) :
    (list.apply (now, event)).whiteList =
      match event with
      | .setWhiteList src => changedWhiteList list.whiteList src
      | _ => list.whiteList := by
  cases event with
  | failure other severity =>
    simp only [apply, registerFailure, isWhiteListed_v4]
    cases whiteLists list.whiteList other <;> rfl
  | setWhiteList src => rw [apply_setWhiteList]
  | success other | unblock other | cleanup | query other => rfl

end

end IpBlocklist

/-! ## Entries and time -/

namespace IpEntry

variable [DateTimeExt] {entry : IpEntry} {now later : Int}

theorem windowExpired_iff (started : entry.windowStart ≤ now) :
    fullSecondsSince now entry.windowStart > windowSecs ↔ entry.windowStart + seconds 16 ≤ now := by
  rw [fullSecondsSince_of_le started]
  simp only [windowSecs, seconds]
  omega

/-- The block that is in force. -/
def activeBlock (entry : IpEntry) (now : Int) : Option Int := entry.blockedUntil.filter (now < ·)

omit [DateTimeExt] in
theorem blockedAt_eq (entry : IpEntry) (now : Int) :
    entry.blockedAt now = (entry.activeBlock now).isSome := by
  unfold blockedAt activeBlock
  cases entry.blockedUntil with
  | none => rfl
  | some blockedUntil => simp [Option.filter]; split <;> simp_all

omit [DateTimeExt] in
theorem activeBlock_later (entry : IpEntry) (passes : now ≤ later) :
    entry.activeBlock later = (entry.activeBlock now).filter (later < ·) := by
  unfold activeBlock
  cases entry.blockedUntil with
  | none => rfl
  | some blockedUntil =>
    by_cases active : later < blockedUntil
    · have before : now < blockedUntil := by omega
      simp [Option.filter, active, before]
    · by_cases before : now < blockedUntil <;>
        simp [Option.filter, active, before]

/-- Two entries that give the same answers from now on. -/
structure Alike (now : Int) (first second : IpEntry) : Prop where
  hardCount : first.hardCount = second.hardCount
  softCount : first.softCount = second.softCount
  windowStart : first.windowStart = second.windowStart
  started : second.windowStart ≤ now
  activeBlock : first.activeBlock now = second.activeBlock now

namespace Alike

variable {first second : IpEntry}

omit [DateTimeExt] in
theorem lasts (alike : Alike now first second) (passes : now ≤ later) :
    Alike later first second :=
  { alike with
    started := alike.started.trans passes
    activeBlock := by
      rw [first.activeBlock_later passes, second.activeBlock_later passes, alike.activeBlock] }

theorem openWindow (alike : Alike now first second) :
    Alike now (first.openWindow now) (second.openWindow now) := by
  unfold IpEntry.openWindow
  rw [alike.windowStart]
  split
  · exact ⟨rfl, rfl, rfl, Int.le_refl now, alike.activeBlock⟩
  · exact alike

omit [DateTimeExt] in
theorem count (alike : Alike now first second) (severity : FailureSeverity) :
    Alike now (first.count severity) (second.count severity) := by
  cases severity with
  | hard =>
    exact { alike with
      hardCount := congrArg saturatingSucc alike.hardCount }
  | soft =>
    exact { alike with
      softCount := congrArg saturatingSucc alike.softCount }

theorem blockIfDue (alike : Alike now first second) :
    Alike now (first.blockIfDue now) (second.blockIfDue now) := by
  have due : (first.hardCount ≥ hardFailThreshold ∨
      first.softCount ≥ softFailThreshold) ↔
      (second.hardCount ≥ hardFailThreshold ∨ second.softCount ≥ softFailThreshold) := by
    rw [alike.hardCount, alike.softCount]
  unfold IpEntry.blockIfDue
  simp only [due]
  split
  · exact { alike with activeBlock := rfl }
  · exact alike

end Alike

/-- An entry that counts no more. -/
structure Stale (now : Int) (entry : IpEntry) : Prop where
  expired : entry.windowStart + seconds 16 ≤ now
  notBlocked : entry.activeBlock now = none

theorem isRetained_eq_false_iff (started : entry.windowStart ≤ now) :
    entry.isRetained now = false ↔ entry.Stale now := by
  have window : decide (fullSecondsSince now entry.windowStart ≤
      windowSecs) = false ↔ entry.windowStart + seconds 16 ≤ now := by
    rw [decide_eq_false_iff_not, Int.not_le, ← windowExpired_iff started]
  rw [isRetained, Bool.or_eq_false_iff, window, blockedAt_eq,
    Option.isSome_eq_false_iff, Option.isNone_iff_eq_none]
  exact ⟨fun both => ⟨both.2, both.1⟩, fun stale => ⟨stale.notBlocked, stale.expired⟩⟩

/-- The first may stand for the second: a stale entry may be missing. -/
inductive StandsFor (now : Int) : Option IpEntry → Option IpEntry → Prop where
  | missing : StandsFor now none none
  | removed {entry : IpEntry} (stale : entry.Stale now) : StandsFor now none (some entry)
  | present {first second : IpEntry} (alike : Alike now first second) :
      StandsFor now (some first) (some second)

namespace StandsFor

variable {first second : Option IpEntry}

omit [DateTimeExt] in
theorem lasts (stands : StandsFor now first second) (passes : now ≤ later) :
    StandsFor later first second := by
  cases stands with
  | missing => exact .missing
  | removed stale =>
    refine .removed ⟨stale.expired.trans passes, ?_⟩
    rw [activeBlock_later _ passes, stale.notBlocked]
    rfl
  | present alike => exact .present (alike.lasts passes)

theorem fail (stands : StandsFor now first second) (severity : FailureSeverity) :
    StandsFor now (some (IpEntry.fail now severity first))
      (some (IpEntry.fail now severity second)) := by
  cases stands with
  | missing =>
    refine .present (Alike.blockIfDue (Alike.count (Alike.openWindow ?_) _))
    exact ⟨rfl, rfl, rfl, Int.le_refl now, rfl⟩
  | @removed entry stale =>
    refine .present (Alike.blockIfDue (Alike.count ?_ _))
    have expired := stale.expired
    have started : entry.windowStart ≤ now := by
      simp only [seconds] at expired
      omega
    rw [Option.getD_none, Option.getD_some, openWindow, openWindow,
      if_neg, if_pos ((windowExpired_iff started).mpr expired)]
    · exact ⟨rfl, rfl, rfl, Int.le_refl now, stale.notBlocked.symm⟩
    · rw [fullSecondsSince_of_le (Int.le_refl now)]
      simp [windowSecs]
  | present alike => exact .present (alike.openWindow.count severity).blockIfDue

theorem cleanup (stands : StandsFor now first second) :
    StandsFor now (first.filter (isRetained now)) second := by
  cases stands with
  | missing => exact .missing
  | removed stale => exact .removed stale
  | @present first second alike =>
    cases retained : first.isRetained now with
    | true =>
      rw [Option.filter_some_pos retained]
      exact .present alike
    | false =>
      have started : first.windowStart ≤ now := by
        rw [alike.windowStart]
        exact alike.started
      have stale := (isRetained_eq_false_iff started).mp retained
      rw [Option.filter_some_neg (by simp [retained])]
      exact .removed ⟨alike.windowStart ▸ stale.expired, alike.activeBlock ▸ stale.notBlocked⟩

omit [DateTimeExt] in
theorem blockedAt_eq (stands : StandsFor now first second) :
    first.any (·.blockedAt now) = second.any (·.blockedAt now) := by
  cases stands with
  | missing => rfl
  | removed stale => simp [IpEntry.blockedAt_eq, stale.notBlocked]
  | present alike => simp [IpEntry.blockedAt_eq, alike.activeBlock]

end StandsFor

end IpEntry

namespace IpBlocklist

variable [DateTimeExt] {first second : IpBlocklist} {now : Int}

/-- The answers of the first list are those of the second from now on. -/
structure StandsFor (now : Int) (first second : IpBlocklist) : Prop where
  whiteList : first.whiteList = second.whiteList
  entries : ∀ ip, IpEntry.StandsFor now (first.map ip) (second.map ip)

/-- Events change both lists alike; a cleanup changes the first only. -/
theorem StandsFor.apply (stands : StandsFor now first second) (event : Event) :
    StandsFor now (first.apply (now, event))
      (if event ≠ .cleanup then second.apply (now, event) else second) := by
  constructor
  · split
    · rw [apply_whiteList, apply_whiteList, stands.whiteList]
    · next kept =>
      rw [not_not.mp kept, apply_whiteList, stands.whiteList]
  · intro ip
    have entries := stands.entries ip
    rw [apply_map, stands.whiteList]
    split
    · rw [apply_map]
      cases event with
      | failure other severity =>
        simp only [changedEntry]
        split
        · exact entries.fail severity
        · exact entries
      | success other | unblock other =>
        simp only [changedEntry]
        split
        · exact .missing
        · exact entries
      | setWhiteList src | query other => exact entries
      | cleanup => contradiction
    · next kept =>
      rw [not_not.mp kept]
      exact entries.cleanup

/-- The calls of a history stand in the order of their times, which are not
later than the time of the question. -/
structure Timely (history : List (Int × Event)) (now : Int) : Prop where
  sorted : history.Pairwise fun early late => early.1 ≤ late.1
  ended : ∀ event ∈ history, event.1 ≤ now

theorem standsFor_without_cleanups {history : List (Int × Event)} (timely : Timely history now) :
    StandsFor now (after history) (after (history.filter fun event => event.2 ≠ .cleanup)) := by
  unfold after
  rw [List.foldl_filter]
  refine foldl_timed Prod.fst StandsFor ?_ ?_ timely.sorted ?_ timely.ended
  · intro now later first second stands passes
    exact ⟨stands.whiteList, fun ip => (stands.entries ip).lasts passes⟩
  · intro event _ first second stands
    simpa using stands.apply event.2
  · exact fun now => ⟨rfl, fun ip => .missing⟩

end IpBlocklist

end ReverseProxy
