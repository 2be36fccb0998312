import Mathlib.Data.List.Nodup
import Mathlib.Data.List.Perm.Subperm
import ReverseProxy.Library.Runs
import ReverseProxy.OAuth.OAuthServer

/-!
# Histories of authorization codes

A code is returned once, with the data it was issued with.  A full store gives
up a code that expires first; times count in seconds, and among the codes of
one second the choice is the map's.
-/

namespace ReverseProxy

open Library List

namespace AuthCodes

variable {codes : AuthCodes} {code : Str} {data : AuthCode} {now : Int}

theorem take_of_mem (keys : (codes.map Prod.fst).Nodup) (member : (code, data) ∈ codes)
    (alive : now < data.expiresAtSec) : (codes.take now code).2 = some data := by
  have swept : (code, data) ∈ codes.removeExpired now :=
    mem_filter.mpr ⟨member, by simpa using alive⟩
  unfold take
  dsimp only
  split
  · rename_i absent
    exact absurd (lookup_eq_none_iff.mp absent _ swept) (by simp)
  rename_i found
  have foundMember := mem_of_mem_removeExpired (mem_of_lookup found)
  cases inj_on_of_nodup_map keys member foundMember rfl
  exact if_neg (by omega)

theorem nodup_add (keys : (codes.map Prod.fst).Nodup) :
    ((codes.add now code data).map Prod.fst).Nodup := by
  obtain ⟨kept, same, sub, _⟩ := add_eq codes now code data
  rw [same, map_cons, nodup_cons]
  exact ⟨by simp [remove], ((remove_sublist.trans sub).map _).nodup keys⟩

theorem length_add_le (bounded : codes.length ≤ maxCodes) :
    (codes.add now code data).length ≤ maxCodes := by
  obtain ⟨kept, same, _, parts⟩ := add_eq codes now code data
  rw [same]
  refine Nat.lt_of_le_of_lt remove_sublist.length_le ?_
  rcases parts with ⟨_, room⟩ | ⟨least, member, rfl, _⟩
  · exact room
  have shorter : ((codes.removeExpired now).remove least.1).length <
      (codes.removeExpired now).length :=
    length_filter_lt_length_iff_exists.mpr ⟨least, member, by simp⟩
  exact shorter.trans_le (removeExpired_sublist.length_le.trans bounded)

end AuthCodes

/-- The store, the codes issued so far with the time of their issue, those that
were returned, and the latest reading of the clock. -/
structure CodeHistory where
  codes : AuthCodes := []
  issued : List (Int × Str × AuthCode) := []
  returned : List Str := []
  last : Int := -2 ^ 63

namespace CodeHistory

open AuthCodes

/-- `issue` reads the clock for the expiry, `add` reads it again. -/
def issue (history : CodeHistory) (now later : Int) (code : Str) (data : AuthCode) : CodeHistory :=
  { history with
    codes := history.codes.add later code data
    issued := (now, code, data) :: history.issued
    last := later }

def redeem (history : CodeHistory) (now : Int) (code : Str) : CodeHistory :=
  { history with
    codes := (history.codes.take now code).1
    returned := if (history.codes.take now code).2.isSome then code :: history.returned
      else history.returned
    last := now }

inductive Event where
  | issued (now later : Int)
  | redeemed (now : Int)
  | rehashed

inductive Step : CodeHistory → Event → CodeHistory → Prop where
  | issued (history : CodeHistory) (now later : Int) (code : Str) (data : AuthCode)
      (fresh : ∀ entry ∈ history.issued, entry.2.1 ≠ code)
      (expires : data.expiresAtSec = addI64 now authCodeTtlSec) :
      Step history (.issued now later) (history.issue now later code data)
  | redeemed (history : CodeHistory) (now : Int) (code : Str) :
      Step history (.redeemed now) (history.redeem now code)
  | rehashed (history : CodeHistory) {codes : AuthCodes} (same : codes.Perm history.codes) :
      Step history .rehashed { history with codes }

def NonDecreasing (history : CodeHistory) : Event → Prop
  | .issued now later => history.last ≤ now ∧ now ≤ later ∧ later < 2 ^ 63
  | .redeemed now => history.last ≤ now ∧ now < 2 ^ 63
  | .rehashed => True

structure Sound (history : CodeHistory) : Prop where
  stored : ∀ entry ∈ history.codes, ∃ time, (time, entry) ∈ history.issued
  unreturned : ∀ entry ∈ history.codes, entry.1 ∉ history.returned
  returned : ∀ code ∈ history.returned, ∃ entry ∈ history.issued, entry.2.1 = code
  keys : (history.codes.map Prod.fst).Nodup
  bounded : history.codes.length ≤ maxCodes

/-- As many codes as the store holds were issued in the same second or later. -/
def Crowded (history : CodeHistory) (entry : Int × Str × AuthCode) : Prop :=
  maxCodes ≤ (history.issued.filter fun other => other.2.1 ≠ entry.2.1 ∧ entry.1 ≤ other.1).length

/-- Under a clock that does not go back. -/
structure Timely (history : CodeHistory) : Prop extends Sound history where
  issued : ∀ entry ∈ history.issued, -2 ^ 63 ≤ entry.1 ∧ entry.1 ≤ history.last ∧
    entry.2.2.expiresAtSec = addI64 entry.1 authCodeTtlSec
  last : -2 ^ 63 ≤ history.last
  kept : ∀ entry ∈ history.issued, entry.2.1 ∉ history.returned →
    history.last < entry.2.2.expiresAtSec → entry.2 ∈ history.codes ∨ history.Crowded entry

variable {history next : CodeHistory} {event : Event}

theorem Sound.initial : Sound {} := ⟨by simp, by simp, by simp, by simp, by simp⟩

theorem Sound.step (sound : history.Sound) (stepped : Step history event next) : next.Sound := by
  obtain ⟨stored, unreturned, returned, keys, bounded⟩ := sound
  cases stepped with
  | issued now later code data fresh expires =>
    have members : ∀ entry ∈ history.codes.add later code data,
        entry = (code, data) ∨ entry ∈ history.codes := fun _ => mem_of_mem_add
    exact ⟨by grind [issue], by grind [issue], by grind [issue], nodup_add keys,
      length_add_le bounded⟩
  | redeemed now code =>
    have members : ∀ entry ∈ (history.codes.take now code).1,
        entry ∈ history.codes ∧ entry.1 ≠ code := fun _ => mem_of_mem_take
    have sub : (history.codes.take now code).1.Sublist history.codes := by
      rw [take_fst]
      exact remove_sublist.trans removeExpired_sublist
    refine ⟨by grind [redeem], by grind [redeem], ?_, (sub.map _).nodup keys,
      sub.length_le.trans bounded⟩
    intro other member
    cases taken : (history.codes.take now code).2 with
    | none => exact returned other (by simpa [redeem, taken] using member)
    | some data =>
      rcases mem_cons.mp (by simpa [redeem, taken] using member) with rfl | earlier
      · obtain ⟨time, issued⟩ := stored _ (mem_of_take taken).1
        exact ⟨_, issued, rfl⟩
      · exact returned other earlier
  | rehashed same =>
    refine ⟨?_, ?_, returned, (same.map _).nodup_iff.mpr keys, same.length_eq ▸ bounded⟩
    · exact fun entry member => stored entry (same.mem_iff.mp member)
    · exact fun entry member => unreturned entry (same.mem_iff.mp member)

theorem expires_of_alive {time now expiry : Int} (issued : -2 ^ 63 ≤ time ∧ time ≤ now)
    (last : now < 2 ^ 63) (expires : expiry = addI64 time authCodeTtlSec) (alive : now < expiry) :
    expiry = time + 300 := by
  simp only [addI64, authCodeTtlSec, Int.bmod] at expires
  omega

/-- The codes that outlive the evicted one, and the one it made room for. -/
theorem Timely.crowded {now later : Int} {code : Str} {data : AuthCode} {swept : AuthCodes}
    {entry : Int × Str × AuthCode} (timely : history.Timely)
    (clock : NonDecreasing history (.issued now later))
    (fresh : ∀ entry ∈ history.issued, entry.2.1 ≠ code) (issued : entry ∈ history.issued)
    (sub : swept.Sublist history.codes) (alive : ∀ other ∈ swept, later < other.2.expiresAtSec)
    (full : maxCodes ≤ swept.length) (member : entry.2 ∈ swept)
    (first : ∀ other ∈ swept, entry.2.2.expiresAtSec ≤ other.2.expiresAtSec) :
    Crowded { history with issued := (now, code, data) :: history.issued } entry := by
  have keys := (sub.map Prod.fst).nodup timely.keys
  have entryTimes := timely.issued entry issued
  obtain ⟨fromLast, notBack, range⟩ := clock
  have others : code :: (swept.map Prod.fst).erase entry.2.1 ⊆
      (((now, code, data) :: history.issued).filter fun other =>
        other.2.1 ≠ entry.2.1 ∧ entry.1 ≤ other.1).map fun other => other.2.1 := by
    intro other listed
    rcases mem_cons.mp listed with rfl | listed
    · have distinct := fresh entry issued
      exact mem_map.mpr ⟨(now, other, data), by grind, rfl⟩
    obtain ⟨distinct, listed⟩ := keys.mem_erase_iff.mp listed
    obtain ⟨⟨key, stored⟩, inside, rfl⟩ := mem_map.mp listed
    obtain ⟨time, storedIssued⟩ := timely.stored _ (sub.subset inside)
    have storedTimes := timely.issued _ storedIssued
    have ordered := first _ inside
    have expiry := expires_of_alive ⟨entryTimes.1, by omega⟩ range entryTimes.2.2
      (alive _ member)
    have storedExpiry := expires_of_alive ⟨storedTimes.1, by dsimp only at *; omega⟩ range
      storedTimes.2.2 (alive _ inside)
    exact mem_map.mpr ⟨(time, key, stored), by grind, rfl⟩
  have distinct : (code :: (swept.map Prod.fst).erase entry.2.1).Nodup := by
    refine nodup_cons.mpr ⟨fun listed => ?_, keys.erase _⟩
    obtain ⟨stored, inside, same⟩ := mem_map.mp (mem_of_mem_erase listed)
    obtain ⟨time, storedIssued⟩ := timely.stored _ (sub.subset inside)
    exact fresh _ storedIssued same
  have counted := (subperm_of_subset distinct others).length_le
  rw [length_cons, length_erase_of_mem (mem_map_of_mem member), length_map,
    length_map] at counted
  exact (Nat.le_succ_of_pred_le (Nat.sub_le_sub_right full 1)).trans counted

theorem Timely.step (timely : history.Timely)
    (clock : NonDecreasing history event) (stepped : Step history event next) : next.Timely := by
  have ⟨sound, issuedAt, lower, kept⟩ := timely
  have nextSound := sound.step stepped
  cases stepped with
  | issued now later code data fresh expires =>
    obtain ⟨fromLast, notBack, range⟩ := clock
    refine ⟨nextSound, by grind [issue], by dsimp only [issue]; omega, ?_⟩
    intro entry issued unreturned alive
    dsimp only [issue] at issued unreturned alive ⊢
    obtain ⟨left, same, _, parts⟩ := add_eq history.codes later code data
    rcases mem_cons.mp issued with rfl | issued
    · simp [same]
    rcases kept entry issued unreturned (by omega) with stored | crowded
    · have swept : entry.2 ∈ history.codes.removeExpired later :=
        mem_filter.mpr ⟨stored, by simpa using alive⟩
      have other := fresh entry issued
      rcases parts with ⟨rfl, _⟩ | ⟨least, member, rfl, full, first⟩
      · exact .inl (by simp [same, AuthCodes.remove, swept, other])
      by_cases evicted : entry.2.1 = least.1
      · cases inj_on_of_nodup_map timely.keys stored
          (mem_of_mem_removeExpired member) evicted
        exact .inr (timely.crowded ⟨fromLast, notBack, range⟩ fresh issued
          removeExpired_sublist (by simp [removeExpired]) full swept first)
      · exact .inl (by simp [same, AuthCodes.remove, swept, other, evicted])
    · exact .inr (crowded.trans ((sublist_cons_self _ _).filter _).length_le)
  | redeemed now code =>
    obtain ⟨fromLast, range⟩ := clock
    refine ⟨nextSound, by grind [redeem], by dsimp only [redeem]; omega, ?_⟩
    intro entry issued unreturned alive
    dsimp only [redeem] at issued unreturned alive ⊢
    have earlier : entry.2.1 ∉ history.returned := by
      intro returned
      split at unreturned <;> grind
    rcases kept entry issued earlier (by omega) with stored | crowded
    · have taken := take_of_mem timely.keys stored alive
      have other : entry.2.1 ≠ code := by
        rintro rfl
        simp [taken] at unreturned
      refine .inl ?_
      rw [take_fst]
      simpa [AuthCodes.remove, AuthCodes.removeExpired, stored, other] using alive
    · exact .inr crowded
  | rehashed same =>
    exact ⟨nextSound, issuedAt, lower, fun entry issued unreturned alive =>
      (kept entry issued unreturned alive).imp_left same.mem_iff.mpr⟩

/-- A code is returned at most once, with the data it was issued with and
before it expires; the store is bounded.  A good code that is not found was
crowded out. -/
theorem returned_once_unless_crowded {history : CodeHistory}
    (run : Run Step (fun _ _ => True) {} history) :
    history.codes.length ≤ maxCodes ∧
    (∀ now code data, (history.codes.take now code).2 = some data →
      (∃ time, (time, code, data) ∈ history.issued) ∧ now < data.expiresAtSec ∧
        code ∉ history.returned) ∧
    (Run Step NonDecreasing {} history → ∀ entry ∈ history.issued, ∀ now,
      entry.2.1 ∉ history.returned → history.last ≤ now → now < entry.2.2.expiresAtSec →
        (history.codes.take now entry.2.1).2 = some entry.2.2 ∨ history.Crowded entry) := by
  have sound : history.Sound := run.invariant .initial fun sound _ stepped => sound.step stepped
  refine ⟨sound.bounded, ?_, ?_⟩
  · intro now code data taken
    obtain ⟨member, alive⟩ := mem_of_take taken
    exact ⟨sound.stored _ member, alive, sound.unreturned _ member⟩
  · intro timed entry issued now unreturned notBack alive
    have timely : history.Timely := timed.invariant ⟨.initial, by simp, by simp, by simp⟩
      fun timely clock stepped => timely.step clock stepped
    refine (timely.kept entry issued unreturned (by omega)).imp_left fun stored => ?_
    exact take_of_mem sound.keys stored alive

/-! ## Codes of one second -/

private def sameSecond : AuthCode := ⟨[], [], [], none, 300⟩

private def issuedAtOnce (count : Nat) : CodeHistory where
  codes := (List.range count).reverse.map fun index => (replicate index 'a', sameSecond)
  issued := (List.range count).reverse.map fun index => (0, replicate index 'a', sameSecond)
  last := 0

theorem removeExpired_issuedAtOnce (count : Nat) :
    (issuedAtOnce count).codes.removeExpired 0 = (issuedAtOnce count).codes :=
  filter_eq_self.mpr (by simp [issuedAtOnce, sameSecond])

theorem issue_issuedAtOnce {count : Nat} (room : count < maxCodes) :
    (issuedAtOnce count).issue 0 0 (replicate count 'a') sameSecond =
      issuedAtOnce (count + 1) := by
  have length : (issuedAtOnce count).codes.length = count := by simp [issuedAtOnce]
  have other : (issuedAtOnce count).codes.remove (replicate count 'a') =
      (issuedAtOnce count).codes := filter_eq_self.mpr (by simp [issuedAtOnce]; omega)
  simp only [issue, AuthCodes.add, removeExpired_issuedAtOnce, length,
    if_neg (Nat.not_le.mpr room), other]
  simp [issuedAtOnce, range_succ]

theorem run_issue {count : Nat} (run : Run Step NonDecreasing {} (issuedAtOnce count)) :
    Run Step NonDecreasing {}
      ((issuedAtOnce count).issue 0 0 (replicate count 'a') sameSecond) :=
  .step run (by exact ⟨le_refl _, le_refl _, by simp⟩)
    (.issued _ 0 0 _ _ (by simp [issuedAtOnce]; omega) (by decide))

theorem run_issuedAtOnce {count : Nat} (room : count ≤ maxCodes) :
    Run Step NonDecreasing {} (issuedAtOnce count) := by
  induction count with
  | zero => exact .step (.start _) (by exact ⟨by simp, by simp⟩) (.redeemed {} 0 [])
  | succ count ih =>
    rw [← issue_issuedAtOnce room]
    exact run_issue (ih (by omega))

theorem returned_once_unless_crowded_issued :
    (issuedAtOnce 2).codes.length ≤ maxCodes ∧ ∀ entry ∈ (issuedAtOnce 2).issued,
      ((issuedAtOnce 2).codes.take 0 entry.2.1).2 = some entry.2.2 ∨
        (issuedAtOnce 2).Crowded entry := by
  have run := run_issuedAtOnce (by decide : 2 ≤ maxCodes)
  have held := returned_once_unless_crowded (run.mono fun _ => trivial)
  refine ⟨held.1, fun entry issued => held.2.2 run entry issued 0 not_mem_nil (by decide) ?_⟩
  revert entry
  decide

/-- Of a full second the newest code is evicted, with one code issued after it. -/
theorem newest_code_evicted :
    ∃ history entry after before, Run Step NonDecreasing {} history ∧
      history.issued = after ++ entry :: before ∧ after.length < maxCodes ∧
      entry.2.1 ∉ history.returned ∧ history.last < entry.2.2.expiresAtSec ∧
      (history.codes.take history.last entry.2.1).2 = none := by
  refine ⟨_, (0, replicate 255 'a', sameSecond), [(0, replicate 256 'a', sameSecond)],
    (issuedAtOnce 255).issued, run_issue (run_issuedAtOnce (le_refl 256)), rfl, by decide,
      not_mem_nil, by decide, ?_⟩
  have oldest : (issuedAtOnce 256).codes.oldestCode = some (replicate 255 'a') := by
    decide +kernel
  have length : (issuedAtOnce 256).codes.length = maxCodes := by simp [issuedAtOnce, maxCodes]
  refine Option.eq_none_iff_forall_ne_some.mpr fun data taken => ?_
  have member := (mem_of_take taken).1
  simp only [issue, AuthCodes.add, removeExpired_issuedAtOnce, oldest, length, le_refl, if_true]
    at member
  rcases mem_cons.mp member with new | kept
  · have lengths := congrArg (·.1.length) new
    simp only [length_replicate] at lengths
    omega
  · exact (mem_of_mem_remove (mem_of_mem_remove kept).1).2 rfl

end CodeHistory

end ReverseProxy
