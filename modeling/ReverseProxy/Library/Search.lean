import Mathlib.Data.List.Infix
import Mathlib.Data.List.TakeDrop

/-!
# First occurrence of a pattern in a list

`FirstAt needle hay start pos` says that `pos` is the least position from `start`
on at which `needle` occurs in `hay`, and `indexFrom` computes it.  The second
half specialises to a separator of two distinct symbols.
-/

namespace ReverseProxy.Library

open List

variable {α : Type}

/-- `pos` is the first occurrence of `needle` at or after `start`. -/
structure FirstAt (needle hay : List α) (start pos : Nat) : Prop where
  start_le : start ≤ pos
  occurs : needle <+: hay.drop pos
  first : ∀ earlier, start ≤ earlier → earlier < pos → ¬ needle <+: hay.drop earlier

theorem FirstAt.unique {needle hay : List α} {start left right : Nat}
    (leftFirst : FirstAt needle hay start left)
    (rightFirst : FirstAt needle hay start right) : left = right := by
  rcases Nat.lt_trichotomy left right with below | equal | above
  · exact (rightFirst.first left leftFirst.start_le below leftFirst.occurs).elim
  · exact equal
  · exact (leftFirst.first right rightFirst.start_le above rightFirst.occurs).elim

theorem FirstAt.length_le {needle hay : List α} {start pos : Nat}
    (found : FirstAt needle hay start pos) (nonempty : needle ≠ []) :
    pos + needle.length ≤ hay.length := by
  have fits := found.occurs.length_le
  have positive : 0 < needle.length := length_pos_iff.mpr nonempty
  simp only [length_drop] at fits
  omega

theorem firstAt_drop {needle hay : List α} {start offset : Nat} :
    FirstAt needle hay start (start + offset) ↔ FirstAt needle (hay.drop start) 0 offset := by
  constructor
  · intro found
    refine ⟨Nat.zero_le _, ?_, ?_⟩
    · simpa [drop_drop] using found.occurs
    · intro earlier _ before occurs
      refine found.first (start + earlier) (by omega) (by omega) ?_
      simpa [drop_drop] using occurs
  · intro found
    refine ⟨by omega, ?_, ?_⟩
    · simpa [drop_drop] using found.occurs
    · intro earlier startLe before occurs
      refine found.first (earlier - start) (by omega) (by omega) ?_
      rw [drop_drop, show start + (earlier - start) = earlier by omega]
      exact occurs

section Search

variable [DecidableEq α]

/-- Position of the first occurrence of `needle`. -/
def indexOf (needle : List α) : List α → Option Nat
  | [] => if needle.isPrefixOf [] then some 0 else none
  | symbol :: rest =>
    if needle.isPrefixOf (symbol :: rest) then some 0
    else (indexOf needle rest).map (· + 1)

/-- Position of the first occurrence of `needle` at or after `start`. -/
def indexFrom (needle hay : List α) (start : Nat) : Option Nat :=
  (indexOf needle (hay.drop start)).map (start + ·)

theorem indexOf_eq_some_iff {needle hay : List α} {pos : Nat} (inside : pos ≤ hay.length) :
    indexOf needle hay = some pos ↔ FirstAt needle hay 0 pos := by
  induction hay generalizing pos with
  | nil =>
    have atStart : pos = 0 := by simpa using inside
    subst atStart
    constructor
    · intro found
      have occurs : needle <+: [] := by
        simpa [indexOf] using found
      exact ⟨Nat.le_refl 0, by simpa using occurs, by omega⟩
    · intro found
      have occurs : needle = [] := by simpa using found.occurs
      simp [indexOf, occurs]
  | cons symbol rest ih =>
    by_cases here : needle <+: symbol :: rest
    · constructor
      · intro found
        have atStart : 0 = pos := by simpa [indexOf, here] using found
        subst atStart
        exact ⟨Nat.le_refl 0, by simpa using here, by omega⟩
      · intro found
        have atStart : pos = 0 := by
          by_contra positive
          exact found.first 0 (Nat.le_refl 0) (by omega) (by simpa using here)
        subst atStart
        simp [indexOf, here]
    · cases pos with
      | zero =>
        constructor
        · intro found
          simp [indexOf, here] at found
        · intro found
          exact (here (by simpa using found.occurs)).elim
      | succ before =>
        have insideRest : before ≤ rest.length := by simpa using inside
        have step : indexOf needle (symbol :: rest) = some (before + 1) ↔
            indexOf needle rest = some before := by
          simp [indexOf, here]
        rw [step, ih insideRest]
        constructor
        · intro found
          refine ⟨Nat.zero_le _, by simpa using found.occurs, ?_⟩
          intro earlier _ beforePos occurs
          cases earlier with
          | zero => exact here (by simpa using occurs)
          | succ index =>
            exact found.first index (Nat.zero_le _) (by omega) (by simpa using occurs)
        · intro found
          refine ⟨Nat.zero_le _, by simpa using found.occurs, ?_⟩
          intro earlier _ beforePos occurs
          exact found.first (earlier + 1) (Nat.zero_le _) (by omega) (by simpa using occurs)

theorem indexOf_le_length {needle hay : List α} {pos : Nat}
    (found : indexOf needle hay = some pos) : pos ≤ hay.length := by
  induction hay generalizing pos with
  | nil =>
    have atStart : needle <+: [] ∧ 0 = pos := by
      simpa [indexOf] using found
    simp [← atStart.2]
  | cons symbol rest ih =>
    by_cases here : needle <+: symbol :: rest
    · have atStart : 0 = pos := by simpa [indexOf, here] using found
      simp [← atStart]
    obtain ⟨before, foundRest, rfl⟩ :
        ∃ before, indexOf needle rest = some before ∧ before + 1 = pos := by
      simpa [indexOf, here] using found
    simpa using ih foundRest

theorem indexFrom_eq_some_iff {needle hay : List α} {start pos : Nat}
    (inside : start ≤ hay.length) (nonempty : needle ≠ []) :
    indexFrom needle hay start = some pos ↔ FirstAt needle hay start pos := by
  constructor
  · intro found
    obtain ⟨offset, foundOffset, rfl⟩ :
        ∃ offset, indexOf needle (hay.drop start) = some offset ∧ start + offset = pos := by
      simpa [indexFrom] using found
    exact firstAt_drop.mpr ((indexOf_eq_some_iff (indexOf_le_length foundOffset)).mp foundOffset)
  · intro found
    have fits := found.length_le nonempty
    obtain ⟨offset, rfl⟩ : ∃ offset, pos = start + offset :=
      ⟨pos - start, by have := found.start_le; omega⟩
    have insideRest : offset ≤ (hay.drop start).length := by
      simp only [length_drop]
      omega
    have foundOffset : indexOf needle (hay.drop start) = some offset :=
      (indexOf_eq_some_iff insideRest).mpr (firstAt_drop.mp found)
    simp [indexFrom, foundOffset]

end Search

/-! ## Segments ended by one symbol -/

theorem singleton_prefix_drop_iff {hay : List α} {symbol : α} {pos : Nat} :
    [symbol] <+: hay.drop pos ↔ hay[pos]? = some symbol := by
  rw [← head?_drop]
  cases hay.drop pos with
  | nil => simp
  | cons head rest =>
    simp only [cons_prefix_cons, nil_prefix, and_true, head?_cons, Option.some.injEq]
    exact eq_comm

theorem firstAt_of_not_mem (before : List α) {segment : List α} {symbol : α}
    (suffix : List α) (absent : symbol ∉ segment) :
    FirstAt [symbol] (before ++ segment ++ symbol :: suffix)
      before.length (before.length + segment.length) := by
  refine ⟨by omega, ?_, ?_⟩
  · rw [singleton_prefix_drop_iff, List.getElem?_append_right (by simp)]
    simp
  · intro earlier startLe beforeEnd occurs
    rw [singleton_prefix_drop_iff, List.getElem?_append_left (by simpa using beforeEnd),
      List.getElem?_append_right startLe] at occurs
    exact absent (mem_of_getElem? occurs)

theorem FirstAt.mem {before suffix : List α} {symbol : α} {pos : Nat}
    (found : FirstAt [symbol] (before ++ suffix) before.length pos) :
    symbol ∈ suffix := by
  have occurs := found.occurs
  rw [singleton_prefix_drop_iff, List.getElem?_append_right found.start_le] at occurs
  exact mem_of_getElem? occurs

/-! ## Segments ended by a separator of two distinct symbols -/

section Separator

variable {first second : α}

/-- No separator starts inside the segment. -/
def SeparatorFree (first second : α) (segment : List α) : Prop := ¬ [first, second] <:+: segment

private theorem prefix_pair_append {segment suffix : List α}
    (nonempty : segment ≠ []) (different : first ≠ second)
    (occurs : [first, second] <+: segment ++ first :: suffix) :
    [first, second] <+: segment := by
  match segment, nonempty with
  | [only], _ =>
    obtain ⟨tail, equality⟩ := occurs
    have parts : first = only ∧ second = first ∧ tail = suffix := by
      simpa using equality
    exact (different parts.2.1.symm).elim
  | head :: next :: rest, _ =>
    obtain ⟨tail, equality⟩ := occurs
    have parts : first = head ∧ second = next ∧ tail = rest ++ first :: suffix := by
      simpa using equality
    exact ⟨rest, by simp [parts.1, parts.2.1]⟩

theorem firstAt_of_separatorFree (before : List α) {segment : List α}
    (suffix : List α) (different : first ≠ second)
    (free : SeparatorFree first second segment) :
    FirstAt [first, second] (before ++ segment ++ first :: second :: suffix)
      before.length (before.length + segment.length) := by
  refine ⟨by omega, ?_, ?_⟩
  · refine ⟨suffix, ?_⟩
    simp [drop_append]
  · intro earlier startLe beforeEnd occurs
    obtain ⟨offset, rfl⟩ : ∃ offset, earlier = before.length + offset :=
      ⟨earlier - before.length, by omega⟩
    have shifted : [first, second] <+: segment.drop offset ++ first :: second :: suffix := by
      have rewritten : (before ++ segment ++ first :: second :: suffix).drop
          (before.length + offset) = segment.drop offset ++ first :: second :: suffix := by
        rw [append_assoc, drop_append]
        simp [drop_append, show offset - segment.length = 0 by omega]
      rwa [rewritten] at occurs
    have nonempty : segment.drop offset ≠ [] := by
      intro empty
      have := drop_eq_nil_iff.mp empty
      omega
    have inside := prefix_pair_append nonempty different shifted
    exact free (inside.isInfix.trans (drop_suffix offset segment).isInfix)

theorem FirstAt.segment {hay : List α} {start pos : Nat}
    (found : FirstAt [first, second] hay start pos) :
    ∃ segment suffix,
      hay.drop start = segment ++ first :: second :: suffix ∧
        start + segment.length = pos ∧ SeparatorFree first second segment := by
  obtain ⟨suffix, tail⟩ := found.occurs
  have fits := found.length_le (by simp)
  have startLe := found.start_le
  simp only [length_cons, length_nil] at fits
  refine ⟨(hay.drop start).take (pos - start), suffix, ?_, ?_, ?_⟩
  · have split := take_append_drop (pos - start) (hay.drop start)
    rw [drop_drop, show start + (pos - start) = pos by omega, ← tail]
      at split
    simpa using split.symm
  · simp only [length_take, length_drop]
    omega
  · rintro ⟨left, right, equality⟩
    have short : left.length + 2 ≤ pos - start := by
      have lengths := congrArg List.length equality
      simp only [length_append, length_cons, length_nil,
        length_take, length_drop] at lengths
      omega
    refine found.first (start + left.length) (by omega) (by omega) ?_
    have inside : [first, second] <+: ((hay.drop start).take (pos - start)).drop left.length := by
      rw [← equality]
      exact ⟨right, by simp⟩
    rw [← drop_drop]
    rw [drop_take] at inside
    exact inside.trans <| take_prefix _ _

theorem SeparatorFree.nil : SeparatorFree first second ([] : List α) := by
  intro occurs
  simp at occurs

theorem SeparatorFree.of_isInfix {segment part : List α}
    (free : SeparatorFree first second segment) (inside : part <:+: segment) :
    SeparatorFree first second part :=
  fun occurs => free (occurs.trans inside)

theorem pair_infix_iff {segment : List α} :
    [first, second] <:+: segment ↔
      ∃ pos, segment[pos]? = some first ∧ segment[pos + 1]? = some second := by
  constructor
  · rintro ⟨left, right, rfl⟩
    refine ⟨left.length, ?_, ?_⟩
    · simp
    · rw [append_assoc, List.getElem?_append_right (by omega)]
      simp
  · rintro ⟨pos, atPos, next⟩
    obtain ⟨inside, rfl⟩ := List.getElem?_eq_some_iff.mp atPos
    obtain ⟨nextInside, rfl⟩ := List.getElem?_eq_some_iff.mp next
    refine ⟨segment.take pos, segment.drop (pos + 2), ?_⟩
    rw [append_assoc, cons_append, cons_append,
      nil_append, ← drop_eq_getElem_cons nextInside,
      ← drop_eq_getElem_cons inside, take_append_drop]

theorem SeparatorFree.of_not_mem {segment : List α}
    (absent : first ∉ segment) : SeparatorFree first second segment := by
  intro occurs
  exact absent (occurs.mem (by simp))

/-- A symbol that is no part of the separator keeps its neighbours apart. -/
theorem SeparatorFree.append_cons {left right : List α} {symbol : α}
    (leftFree : SeparatorFree first second left)
    (rightFree : SeparatorFree first second right)
    (notFirst : symbol ≠ first) (notSecond : symbol ≠ second) :
    SeparatorFree first second (left ++ symbol :: right) := by
  intro occurs
  obtain ⟨pos, atPos, next⟩ := pair_infix_iff.mp occurs
  rcases Nat.lt_trichotomy pos left.length with inLeft | atSymbol | inRight
  · rw [List.getElem?_append_left inLeft] at atPos
    by_cases last : pos + 1 = left.length
    · rw [last, List.getElem?_append_right (Nat.le_refl _), Nat.sub_self]
        at next
      exact notSecond (by simpa using next)
    · rw [List.getElem?_append_left (by omega)] at next
      exact leftFree (pair_infix_iff.mpr ⟨pos, atPos, next⟩)
  · rw [atSymbol, List.getElem?_append_right (Nat.le_refl _), Nat.sub_self]
      at atPos
    exact notFirst (by simpa using atPos)
  · obtain ⟨offset, rfl⟩ : ∃ offset, pos = left.length + (offset + 1) :=
      ⟨pos - left.length - 1, by omega⟩
    rw [List.getElem?_append_right (by omega), Nat.add_sub_cancel_left,
      List.getElem?_cons_succ] at atPos
    rw [Nat.add_assoc, List.getElem?_append_right (by omega),
      Nat.add_sub_cancel_left, List.getElem?_cons_succ] at next
    exact rightFree (pair_infix_iff.mpr ⟨offset, atPos, next⟩)

theorem separated_unique {left right leftSuffix rightSuffix : List α} (different : first ≠ second)
    (leftFree : SeparatorFree first second left)
    (rightFree : SeparatorFree first second right)
    (equality : left ++ first :: second :: leftSuffix = right ++ first :: second :: rightSuffix) :
    left = right ∧ leftSuffix = rightSuffix := by
  have leftFirst := firstAt_of_separatorFree [] leftSuffix different leftFree
  have rightFirst := firstAt_of_separatorFree [] rightSuffix different rightFree
  simp only [nil_append, length_nil, Nat.zero_add] at *
  rw [← equality] at rightFirst
  have lengths : left.length = right.length := leftFirst.unique rightFirst
  obtain ⟨segments, suffixes⟩ := append_inj equality lengths
  exact ⟨segments, by simpa using suffixes⟩

end Separator

/-! ## Up to the first match -/

/-- A search for the first item with a property looks at this one. -/
def Reached {α : Type} (found : α → Prop) (items : List α) (item : α) :
    Prop :=
  ∃ before after, items = before ++ item :: after ∧ ∀ earlier ∈ before, ¬ found earlier

theorem Reached.not_nil {α : Type} {found : α → Prop} {item : α} : ¬ Reached found [] item := by
  rintro ⟨before, after, split, _⟩
  simp at split

theorem reached_cons_iff {α : Type} {found : α → Prop} {first item : α} {items : List α} :
    Reached found (first :: items) item ↔
      item = first ∨ ¬ found first ∧ Reached found items item := by
  constructor
  · rintro ⟨before, after, split, passed⟩
    cases before with
    | nil =>
      cases split
      exact Or.inl rfl
    | cons earlier before =>
      cases split
      exact Or.inr ⟨passed first mem_cons_self, before, after, rfl,
        fun other member => passed other (mem_cons_of_mem _ member)⟩
  · rintro (rfl | ⟨notFirst, before, after, rfl, passed⟩)
    · exact ⟨[], items, rfl, by simp⟩
    · refine ⟨first :: before, after, rfl, ?_⟩
      intro earlier member
      rcases mem_cons.mp member with rfl | later
      · exact notFirst
      · exact passed earlier later

end ReverseProxy.Library
