import Mathlib.Data.List.Perm.Basic
import Mathlib.Tactic.Common

/-!
# Lists searched by a key

An entry is written into a list in place of the first one with its key, or at
the end.  A search that at most one member satisfies does not depend on the
order of the list.
-/

namespace ReverseProxy.Library

open List

section

variable {α κ : Type} [DecidableEq κ] {key : α → κ}

def replaceOrPush (key : α → κ) (item : α) (items : List α) : List α :=
  match items.findIdx? (fun other => key other = key item) with
  | some index => items.set index item
  | none => items ++ [item]

theorem replaceOrPush_of_fresh {item : α} {items : List α}
    (fresh : ∀ other ∈ items, key other ≠ key item) :
    replaceOrPush key item items = items ++ [item] := by
  have absent : items.findIdx? (fun other => key other = key item) = none := by
    simpa [findIdx?_eq_none_iff] using fresh
  rw [replaceOrPush, absent]

theorem replaceOrPush_cons (item head : α) (items : List α) :
    replaceOrPush key item (head :: items) =
      if key head = key item then item :: items
      else head :: replaceOrPush key item items := by
  unfold replaceOrPush
  rw [findIdx?_cons]
  by_cases same : key head = key item
  · simp [same]
  simp only [same, decide_false, Bool.false_eq_true, if_false]
  cases items.findIdx? (fun other => key other = key item) with
  | none => rfl
  | some index => rfl

/-- A search by key finds the written entry, and under the other keys what was
there before. -/
theorem find?_replaceOrPush (item : α) (items : List α) (sought : κ) :
    (replaceOrPush key item items).find? (fun other => key other = sought) =
      if key item = sought then some item
      else items.find? (fun other => key other = sought) := by
  induction items with
  | nil =>
    by_cases here : key item = sought <;> simp [replaceOrPush, here]
  | cons head items ih =>
    rw [replaceOrPush_cons]
    by_cases same : key head = key item
    · by_cases here : key item = sought
      · simp [same, here]
      · simp [same, here]
    rw [if_neg same, find?_cons, find?_cons, ih]
    by_cases first : key head = sought
    · have other : key item ≠ sought := fun here =>
        same (first.trans here.symm)
      simp [first, other]
    · simp [first]

end

section

variable {α β : Type}

theorem find?_eq_of_perm {items others : List α} {sought : α → Bool}
    (permutation : items.Perm others)
    (atMostOne : items.Pairwise fun first second =>
      ¬(sought first = true ∧ sought second = true)) :
    items.find? sought = others.find? sought := by
  induction permutation with
  | nil => rfl
  | cons head _ ih =>
    rw [find?_cons, find?_cons, ih (pairwise_cons.mp atMostOne).2]
  | swap first second rest =>
    have notBoth := (pairwise_cons.mp atMostOne).1 first (by simp)
    cases isFirst : sought first with
    | false => simp [find?_cons, isFirst]
    | true =>
      have notSecond : sought second = false := by
        simpa [isFirst] using notBoth
      simp [isFirst, notSecond]
  | trans firstPerm _ ihFirst ihSecond =>
    have later := (firstPerm.pairwise_iff (by tauto)).mp atMostOne
    exact (ihFirst atMostOne).trans (ihSecond later)

/-- A reordering of the selected members comes from a reordering of the whole
list. -/
theorem exists_perm_filterMap {select : α → Option β} {items : List α}
    {selected : List β} (permutation : selected.Perm (items.filterMap select)) :
    ∃ others : List α, others.Perm items ∧ others.filterMap select = selected := by
  have related : List.Forall₂ (fun output input => select input = some output)
      (items.filterMap select)
      (items.filter fun item => (select item).isSome) := by
    clear permutation
    induction items with
    | nil => exact .nil
    | cons item items ih =>
      cases chosen : select item with
      | none => simpa [chosen] using ih
      | some output => simpa [chosen] using ih
  obtain ⟨front, matched, reordered⟩ := perm_comp_forall₂ permutation related
  refine ⟨front ++ items.filter fun item => !(select item).isSome, ?_, ?_⟩
  · exact (reordered.append_right _).trans
      (filter_append_perm (fun item => (select item).isSome) items)
  · have ofFront : front.filterMap select = selected := by
      clear reordered permutation
      induction matched with
      | nil => rfl
      | cons output _ ih => rw [filterMap_cons, output, ih]
    have ofRest : (items.filter fun item => !(select item).isSome).filterMap select = [] := by
      rw [filterMap_eq_nil_iff]
      intro item member
      simpa using (mem_filter.mp member).2
    rw [filterMap_append, ofFront, ofRest, append_nil]

/-- Two members that are not related can be brought to the front. -/
theorem exists_perm_of_not_pairwise {Related : α → α → Prop}
    {items : List α} (unrelated : ¬items.Pairwise Related) :
    ∃ first second rest, (first :: second :: rest).Perm items ∧ ¬Related first second := by
  induction items with
  | nil => exact absurd .nil unrelated
  | cons item items ih =>
    by_cases later : items.Pairwise Related
    · have some_unrelated : ∃ other ∈ items, ¬Related item other := by
        by_contra none_unrelated
        push Not at none_unrelated
        exact unrelated (.cons none_unrelated later)
      obtain ⟨other, member, notRelated⟩ := some_unrelated
      obtain ⟨before, after, rfl⟩ := append_of_mem member
      exact ⟨item, other, before ++ after, perm_middle.symm.cons item, notRelated⟩
    · obtain ⟨first, second, rest, permutation, notRelated⟩ := ih later
      refine ⟨first, second, item :: rest, ?_, notRelated⟩
      exact ((List.Perm.swap item second rest).cons first).trans
        ((List.Perm.swap item first (second :: rest)).trans (permutation.cons item))

end

end ReverseProxy.Library
