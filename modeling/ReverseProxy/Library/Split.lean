import Mathlib.Data.List.Basic

/-!
# Splitting a list at a separator

`splitOnce` cuts at the first occurrence of a symbol and `rsplitOnce` at the
last one.  Each is characterised by the concatenation it undoes.  The parts
between all separators are those of `List.splitOnP`.
-/

namespace ReverseProxy.Library

open List

variable {α : Type} [DecidableEq α]

/-- The parts before and after the first `symbol`. -/
def splitOnce (symbol : α) : List α → Option (List α × List α)
  | [] => none
  | head :: rest =>
    if head = symbol then some ([], rest)
    else (splitOnce symbol rest).map fun parts => (head :: parts.1, parts.2)

/-- The parts before and after the last `symbol`. -/
def rsplitOnce (symbol : α) (items : List α) : Option (List α × List α) :=
  (splitOnce symbol items.reverse).map fun parts =>
    (parts.2.reverse, parts.1.reverse)

variable {symbol : α} {items : List α}

theorem splitOnce_eq_some_iff {before after : List α} :
    splitOnce symbol items = some (before, after) ↔
      items = before ++ symbol :: after ∧ symbol ∉ before := by
  induction items generalizing before with
  | nil => simp [splitOnce]
  | cons head rest ih =>
    unfold splitOnce
    by_cases found : head = symbol
    · rw [if_pos found]
      constructor
      · intro split
        cases split
        simp [found]
      · rintro ⟨joined, absent⟩
        cases before with
        | nil =>
          simp only [nil_append, List.cons.injEq] at joined
          rw [joined.2]
        | cons first before =>
          simp only [cons_append, List.cons.injEq] at joined
          exact (absent (by simp [← joined.1, found])).elim
    · rw [if_neg found, Option.map_eq_some_iff]
      constructor
      · rintro ⟨⟨before, after⟩, split, same⟩
        cases same
        obtain ⟨joined, absent⟩ := ih.mp split
        exact ⟨by simp [joined], by simp [absent, Ne.symm found]⟩
      · rintro ⟨joined, absent⟩
        cases before with
        | nil =>
          simp only [nil_append, List.cons.injEq] at joined
          exact (found joined.1).elim
        | cons first before =>
          simp only [cons_append, List.cons.injEq] at joined
          obtain ⟨rfl, joined⟩ := joined
          simp only [mem_cons, not_or] at absent
          exact ⟨(before, after), ih.mpr ⟨joined, absent.2⟩, rfl⟩

theorem rsplitOnce_eq_some_iff {before after : List α} :
    rsplitOnce symbol items = some (before, after) ↔
      items = before ++ symbol :: after ∧ symbol ∉ after := by
  unfold rsplitOnce
  rw [Option.map_eq_some_iff]
  constructor
  · rintro ⟨⟨tail, head⟩, split, same⟩
    cases same
    obtain ⟨joined, absent⟩ := splitOnce_eq_some_iff.mp split
    refine ⟨?_, by simpa using absent⟩
    rw [← reverse_reverse items, joined]
    simp
  · rintro ⟨joined, absent⟩
    refine ⟨(after.reverse, before.reverse), ?_, by simp⟩
    refine splitOnce_eq_some_iff.mpr ⟨by simp [joined], by simpa using absent⟩

theorem append_cons_inj {left right leftRest rightRest : List α}
    (leftFree : symbol ∉ left) (rightFree : symbol ∉ right) :
    left ++ symbol :: leftRest = right ++ symbol :: rightRest ↔
      left = right ∧ leftRest = rightRest := by
  constructor
  · intro same
    have cut : splitOnce symbol (left ++ symbol :: leftRest) = some (left, leftRest) :=
      splitOnce_eq_some_iff.mpr ⟨rfl, leftFree⟩
    rw [splitOnce_eq_some_iff.mpr ⟨same, rightFree⟩] at cut
    cases cut
    exact ⟨rfl, rfl⟩
  · rintro ⟨rfl, rfl⟩
    rfl

theorem splitOnce_eq_none_iff : splitOnce symbol items = none ↔ symbol ∉ items := by
  induction items with
  | nil => simp [splitOnce]
  | cons head rest ih =>
    unfold splitOnce
    by_cases found : head = symbol
    · simp [found]
    · rw [if_neg found, Option.map_eq_none_iff, ih]
      simp [Ne.symm found]

theorem rsplitOnce_eq_none_iff : rsplitOnce symbol items = none ↔ symbol ∉ items := by
  rw [rsplitOnce, Option.map_eq_none_iff, splitOnce_eq_none_iff, mem_reverse]

/-! ## Parts between separators -/

section

variable {β : Type} {separates : β → Bool} {items part : List β}

theorem mem_splitOnP (member : part ∈ items.splitOnP separates) :
    ∀ item ∈ part, separates item = false := by
  induction items generalizing part with
  | nil => simp_all
  | cons item items ih =>
    rw [splitOnP_cons_eq_if_modifyHead] at member
    split at member
    · rcases mem_cons.mp member with rfl | later
      · simp
      · exact ih later
    next keeps =>
      obtain ⟨first, rest, split⟩ :=
        exists_cons_of_ne_nil (splitOnP_ne_nil separates items)
      rw [split, modifyHead_cons] at member
      rcases mem_cons.mp member with rfl | later
      · intro other inside
        rcases mem_cons.mp inside with rfl | inside
        · simpa using keeps
        · exact ih (by rw [split]; exact mem_cons_self) other inside
      · exact ih (by rw [split]; exact mem_cons_of_mem _ later)

theorem splitOnP_isInfix (separates : β → Bool) (items : List β) :
    ∃ first parts, items.splitOnP separates = first :: parts ∧
      first <+: items ∧ ∀ part ∈ parts, part <:+: items := by
  induction items with
  | nil => exact ⟨[], [], rfl, prefix_rfl, by simp⟩
  | cons item items ih =>
    obtain ⟨first, parts, split, isPrefix, inside⟩ := ih
    have longer : items <:+: item :: items := (suffix_cons _ _).isInfix
    rw [splitOnP_cons_eq_if_modifyHead, split]
    by_cases separator : separates item
    · rw [if_pos separator]
      refine ⟨[], first :: parts, rfl, nil_prefix, ?_⟩
      intro part member
      rcases mem_cons.mp member with rfl | later
      · exact isPrefix.isInfix.trans longer
      · exact (inside part later).trans longer
    · rw [if_neg separator, modifyHead_cons]
      refine ⟨item :: first, parts, rfl, ?_, ?_⟩
      · exact (prefix_cons_inj item).mpr isPrefix
      · exact fun part member => (inside part member).trans longer

theorem infix_of_mem_splitOnP (member : part ∈ items.splitOnP separates) : part <:+: items := by
  obtain ⟨first, parts, split, isPrefix, inside⟩ := splitOnP_isInfix separates items
  rw [split] at member
  rcases mem_cons.mp member with rfl | later
  · exact isPrefix.isInfix
  · exact inside part later

theorem exists_mem_splitOnP (separates : β → Bool) {item : β}
    (member : item ∈ items) (kept : separates item = false) :
    ∃ part ∈ items.splitOnP separates, item ∈ part := by
  induction items with
  | nil => cases member
  | cons first items ih =>
    rw [splitOnP_cons_eq_if_modifyHead]
    obtain ⟨head, tail, split⟩ := exists_cons_of_ne_nil (splitOnP_ne_nil separates items)
    rcases mem_cons.mp member with rfl | later
    · rw [kept, split]
      exact ⟨_, mem_cons_self, mem_cons_self⟩
    obtain ⟨part, isPart, inside⟩ := ih later
    by_cases separator : separates first = true
    · rw [if_pos separator]
      exact ⟨part, mem_cons_of_mem _ isPart, inside⟩
    rw [if_neg separator, split, modifyHead_cons]
    rw [split] at isPart
    rcases mem_cons.mp isPart with rfl | other
    · exact ⟨_, mem_cons_self, mem_cons_of_mem _ inside⟩
    · exact ⟨part, mem_cons_of_mem _ other, inside⟩

end

end ReverseProxy.Library
