import ReverseProxy.Library.Search

/-!
# Cutting a list at a separator of two symbols

`pieces` cuts wherever the separator occurs.  The pieces hold no separator, and
putting one behind each of them gives the list back.
-/

namespace ReverseProxy.Library

open List

variable {α : Type} [DecidableEq α] (first second : α)

/-- The segments between the separators. -/
def pieces : List α → List (List α)
  | [] => [[]]
  | [item] => [[item]]
  | item :: next :: items =>
    if item = first ∧ next = second then [] :: pieces items
    else (pieces (next :: items)).modifyHead (item :: ·)

variable {first second}

theorem exists_pieces (items : List α) :
    ∃ piece others, pieces first second items = piece :: others ∧ piece <+: items := by
  induction items using pieces.induct first second with
  | case1 => exact ⟨[], [], rfl, prefix_rfl⟩
  | case2 item => exact ⟨[item], [], rfl, prefix_rfl⟩
  | case3 item next items separator _ =>
    rw [pieces, if_pos separator]
    exact ⟨[], _, rfl, nil_prefix⟩
  | case4 item next items plain ih =>
    obtain ⟨piece, others, cut, isPrefix⟩ := ih
    rw [pieces, if_neg plain, cut, modifyHead_cons]
    exact ⟨item :: piece, others, rfl, (prefix_cons_inj item).mpr isPrefix⟩

theorem joined_pieces (items : List α) :
    (pieces first second items).flatMap (· ++ [first, second]) = items ++ [first, second] := by
  induction items using pieces.induct first second with
  | case1 => rfl
  | case2 item => rfl
  | case3 item next items separator ih =>
    obtain ⟨rfl, rfl⟩ := separator
    rw [pieces, if_pos ⟨rfl, rfl⟩, flatMap_cons, ih]
    rfl
  | case4 item next items plain ih =>
    obtain ⟨piece, others, cut, _⟩ :
        ∃ piece others, pieces first second (next :: items) =
          piece :: others ∧ piece <+: next :: items :=
      exists_pieces (next :: items)
    rw [cut, flatMap_cons] at ih
    rw [pieces, if_neg plain, cut, modifyHead_cons, flatMap_cons,
      cons_append, cons_append, ih]
    rfl

theorem separatorFree_of_mem_pieces {items piece : List α}
    (member : piece ∈ pieces first second items) :
    SeparatorFree first second piece := by
  induction items using pieces.induct first second generalizing piece with
  | case1 =>
    obtain rfl := mem_singleton.mp member
    exact SeparatorFree.nil
  | case2 item =>
    obtain rfl := mem_singleton.mp member
    intro occurs
    have length := occurs.length_le
    simp at length
  | case3 item next items separator ih =>
    rw [pieces, if_pos separator] at member
    rcases mem_cons.mp member with rfl | later
    · exact SeparatorFree.nil
    · exact ih later
  | case4 item next items plain ih =>
    obtain ⟨head, others, cut, isPrefix⟩ :
        ∃ piece others, pieces first second (next :: items) =
          piece :: others ∧ piece <+: next :: items :=
      exists_pieces (next :: items)
    rw [pieces, if_neg plain, cut, modifyHead_cons] at member
    rw [cut] at ih
    rcases mem_cons.mp member with rfl | later
    · intro occurs
      rcases infix_cons_iff.mp occurs with atFront | behind
      · -- the two symbols are the first two of the list
        obtain ⟨_, rest⟩ := atFront.trans ((prefix_cons_inj item).mpr isPrefix)
        simp only [cons_append, nil_append, List.cons.injEq] at rest
        exact plain ⟨rest.1.symm, rest.2.1.symm⟩
      · exact ih mem_cons_self behind
    · exact ih (mem_cons_of_mem _ later)

theorem pieces_of_separatorFree {items : List α} (free : SeparatorFree first second items) :
    pieces first second items = [items] := by
  induction items using pieces.induct first second with
  | case1 => rfl
  | case2 item => rfl
  | case3 item next items separator _ =>
    obtain ⟨rfl, rfl⟩ := separator
    exact (free ⟨[], items, rfl⟩).elim
  | case4 item next items plain ih =>
    rw [pieces, if_neg plain, ih (free.of_isInfix (suffix_cons _ _).isInfix)]
    rfl

/-! ## Taking a beginning -/

omit [DecidableEq α]

theorem mem_takeWhile_without {keeps : α → Bool} {front middle back : List α} {item : α}
    (member : item ∈ (front ++ middle ++ back).takeWhile keeps) :
    item ∈ middle ∨ item ∈ (front ++ back).takeWhile keeps := by
  rw [append_assoc] at member
  induction front with
  | nil =>
    rw [nil_append, takeWhile_append] at member
    split at member
    · exact mem_append.mp member
    · exact .inl ((takeWhile_sublist _).subset member)
  | cons first front ih =>
    rw [cons_append, takeWhile_cons] at member ⊢
    split at member
    · next kept =>
        rw [if_pos kept]
        rcases mem_cons.mp member with rfl | later
        · exact .inr mem_cons_self
        · exact (ih later).imp_right (mem_cons_of_mem _)
    · cases member

theorem mem_takeWhile_with {keeps : α → Bool} {front middle back : List α} {item : α}
    (kept : ∀ other ∈ middle, keeps other = true)
    (member : item ∈ (front ++ back).takeWhile keeps) :
    item ∈ (front ++ middle ++ back).takeWhile keeps := by
  rw [append_assoc]
  induction front with
  | nil =>
    rw [nil_append, takeWhile_append_of_pos kept]
    exact mem_append_right _ member
  | cons first front ih =>
    rw [cons_append, takeWhile_cons] at member ⊢
    split at member
    · next keepsFirst =>
        rw [if_pos keepsFirst]
        rcases mem_cons.mp member with rfl | later
        · exact mem_cons_self
        · exact mem_cons_of_mem _ (ih later)
    · cases member

end ReverseProxy.Library
