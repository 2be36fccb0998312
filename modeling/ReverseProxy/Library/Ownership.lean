import Mathlib.Tactic.Common

/-!
# Exclusive ownership

Things with an identity are in places.  No two places hold the same thing, and
this is kept by taking a thing away, by moving it and by putting in a new one.
-/

namespace ReverseProxy.Library

variable {π ι : Type}

/-- Every thing is in one place at most. -/
def Exclusive (content : π → Option ι) : Prop :=
  ∀ ⦃first second : π⦄ ⦃thing : ι⦄, content first = some thing →
    content second = some thing → first = second

namespace Exclusive

variable {before after : π → Option ι}

theorem remove (exclusive : Exclusive before) (kept : ∀ place thing, after place = some thing →
      before place = some thing) : Exclusive after := by
  intro first second thing inFirst inSecond
  exact exclusive (kept first thing inFirst) (kept second thing inSecond)

theorem move (exclusive : Exclusive before) {source target : π}
    (moved : after target = before source) (cleared : after source = none)
    (others : ∀ place, place ≠ source → place ≠ target →
      after place = before place) : Exclusive after := by
  -- Where a thing was before the move.
  have origin : ∀ place thing, after place = some thing →
      (place = target ∧ before source = some thing) ∨
        (place ≠ source ∧ before place = some thing) := by
    intro place thing inside
    by_cases isTarget : place = target
    · exact .inl ⟨isTarget, by rw [← moved, ← isTarget, inside]⟩
    have notSource : place ≠ source := by
      rintro rfl
      rw [cleared] at inside
      cases inside
    exact .inr ⟨notSource, by rw [← others place notSource isTarget, inside]⟩
  intro first second thing inFirst inSecond
  rcases origin first thing inFirst with ⟨rfl, was⟩ | ⟨apart, was⟩
  · rcases origin second thing inSecond with ⟨rfl, _⟩ | ⟨otherApart, other⟩
    · rfl
    · exact (otherApart (exclusive other was)).elim
  · rcases origin second thing inSecond with ⟨rfl, other⟩ | ⟨_, other⟩
    · exact (apart (exclusive was other)).elim
    · exact exclusive was other

theorem put (exclusive : Exclusive before) {target : π} {fresh : ι}
    (unused : ∀ place, before place ≠ some fresh)
    (inside : after target = some fresh)
    (others : ∀ place, place ≠ target → after place = before place) :
    Exclusive after := by
  intro first second thing inFirst inSecond
  by_cases isFirst : first = target
  · by_cases isSecond : second = target
    · rw [isFirst, isSecond]
    rw [isFirst, inside] at inFirst
    cases inFirst
    rw [others second isSecond] at inSecond
    exact (unused second inSecond).elim
  · by_cases isSecond : second = target
    · rw [isSecond, inside] at inSecond
      cases inSecond
      rw [others first isFirst] at inFirst
      exact (unused first inFirst).elim
    · rw [others first isFirst] at inFirst
      rw [others second isSecond] at inSecond
      exact exclusive inFirst inSecond

end Exclusive

/-- Things are numbered; the numbers below `next` have been given out. -/
structure Numbered (content : π → Option Nat) (next : Nat) : Prop where
  exclusive : Exclusive content
  below : ∀ {place number}, content place = some number → number < next

namespace Numbered

variable {before after : π → Option Nat} {next : Nat}

variable (numbered : Numbered before next)

include numbered

theorem remove (kept : ∀ place number, after place = some number →
      before place = some number) : Numbered after next where
  exclusive := numbered.exclusive.remove kept
  below := fun inside => numbered.below (kept _ _ inside)

theorem move {source target : π}
    (moved : after target = before source) (cleared : after source = none)
    (others : ∀ place, place ≠ source → place ≠ target →
      after place = before place) : Numbered after next where
  exclusive := numbered.exclusive.move moved cleared others
  below := by
    intro place number inside
    by_cases isTarget : place = target
    · rw [isTarget, moved] at inside
      exact numbered.below inside
    have notSource : place ≠ source := by
      rintro rfl
      rw [cleared] at inside
      cases inside
    rw [others place notSource isTarget] at inside
    exact numbered.below inside

/-- The new thing has a number that was not given out. -/
theorem put {target : π} {fresh : Nat}
    (notGiven : next ≤ fresh) (inside : after target = some fresh)
    (others : ∀ place, place ≠ target → after place = before place) :
    Numbered after (fresh + 1) where
  exclusive := by
    apply numbered.exclusive.put _ inside others
    intro place present
    exact absurd (numbered.below present) (Nat.not_lt.mpr notGiven)
  below := by
    intro place number present
    by_cases isTarget : place = target
    · rw [isTarget, inside] at present
      cases present
      exact Nat.lt_succ_self _
    · rw [others place isTarget] at present
      exact Nat.lt_succ_of_lt (Nat.lt_of_lt_of_le (numbered.below present) notGiven)

end Numbered

/-! ## The places of a list -/

theorem getElem?_concat_ne {α : Type} (items : List α) (item : α)
    {index : Nat} (other : index ≠ items.length) :
    (items ++ [item])[index]? = items[index]? := by
  rcases Nat.lt_or_gt_of_ne other with inside | behind
  · exact List.getElem?_append_left inside
  · rw [List.getElem?_eq_none (by simp; omega), List.getElem?_eq_none (by omega)]

theorem getElem?_of_concat {α : Type} {items : List α} {item other : α}
    {index : Nat} (found : items[index]? = some other) :
    (items ++ [item])[index]? = some other := by
  rw [List.getElem?_append_left (List.getElem?_eq_some_iff.mp found).1]
  exact found

end ReverseProxy.Library
