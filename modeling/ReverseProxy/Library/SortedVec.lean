import Mathlib.Order.Lattice
import Mathlib.Tactic.Common

/-!
# Vectors sorted by key

A vector of values with keys in ascending order, so that a key occurs once.
-/

namespace ReverseProxy.Library

open List

structure SortedVec (κ α : Type) [LinearOrder κ] where
  items : List (κ × α)
  sorted : items.Pairwise fun first second => first.1 < second.1

namespace SortedVec

variable {κ α : Type} [LinearOrder κ]

def empty : SortedVec κ α := { items := [], sorted := .nil }

def get (vec : SortedVec κ α) (key : κ) : Option α := (vec.items.find? (·.1 = key)).map (·.2)

def insertItem (key : κ) (value : α) : List (κ × α) → List (κ × α)
  | [] => [(key, value)]
  | item :: rest =>
    if key < item.1 then (key, value) :: item :: rest
    else if key = item.1 then (key, value) :: rest
    else item :: insertItem key value rest

variable {key : κ} {items : List (κ × α)}

theorem mem_of_mem_insertItem {value : α} {item : κ × α}
    (member : item ∈ insertItem key value items) :
    item = (key, value) ∨ item ∈ items := by
  induction items with
  | nil => exact .inl (mem_singleton.mp member)
  | cons head rest ih =>
    rw [insertItem] at member
    split at member
    · exact mem_cons.mp member
    split at member
    · rcases mem_cons.mp member with new | old
      · exact .inl new
      · exact .inr (mem_cons_of_mem _ old)
    · rcases mem_cons.mp member with first | later
      · exact .inr (first ▸ mem_cons_self)
      · exact (ih later).imp_right (mem_cons_of_mem _)

theorem sorted_insertItem (key : κ) (value : α)
    (sorted : items.Pairwise fun first second => first.1 < second.1) :
    (insertItem key value items).Pairwise fun first second => first.1 < second.1 := by
  induction items with
  | nil => exact pairwise_singleton _ _
  | cons head rest ih =>
    obtain ⟨above, restSorted⟩ := pairwise_cons.mp sorted
    rw [insertItem]
    split
    case isTrue below =>
      refine pairwise_cons.mpr ⟨?_, sorted⟩
      intro item member
      rcases mem_cons.mp member with rfl | later
      · exact below
      · exact lt_trans below (above item later)
    case isFalse notBelow =>
      split
      case isTrue same =>
        refine pairwise_cons.mpr ⟨?_, restSorted⟩
        rw [same]
        exact above
      case isFalse different =>
        refine pairwise_cons.mpr ⟨?_, ih restSorted⟩
        intro item member
        rcases mem_of_mem_insertItem member with rfl | later
        · exact lt_of_le_of_ne (not_lt.mp notBelow) (Ne.symm different)
        · exact above item later

def insertOrReplace (vec : SortedVec κ α) (key : κ) (value : α) :
    SortedVec κ α :=
  { items := insertItem key value vec.items
    sorted := sorted_insertItem key value vec.sorted }

/-- A vector filled item by item. -/
def fromIterator (items : List (κ × α)) : SortedVec κ α :=
  items.foldl (fun vec item => vec.insertOrReplace item.1 item.2) empty

theorem get_eq_some_iff {vec : SortedVec κ α} {value : α} :
    vec.get key = some value ↔ (key, value) ∈ vec.items := by
  obtain ⟨items, sorted⟩ := vec
  induction items with
  | nil => simp [get]
  | cons head rest ih =>
    obtain ⟨above, restSorted⟩ := pairwise_cons.mp sorted
    by_cases same : head.1 = key
    · subst same
      simp only [get, find?_cons, decide_true, Option.map_some,
        Option.some.injEq, mem_cons]
      constructor
      · rintro rfl
        exact .inl rfl
      · rintro (first | later)
        · rw [← first]
        · exact absurd (above _ later) (lt_irrefl _)
    · have there := ih restSorted
      simp only [get] at there
      simp only [get, find?_cons, same, decide_false, mem_cons]
      rw [there]
      constructor
      · exact .inr
      · rintro (rfl | later)
        · exact absurd rfl same
        · exact later

theorem value_unique {vec : SortedVec κ α} {first second : α}
    (one : (key, first) ∈ vec.items) (other : (key, second) ∈ vec.items) :
    first = second := by
  rw [← get_eq_some_iff] at one other
  rw [one] at other
  exact Option.some.inj other

theorem mem_insertItem_self (key : κ) (value : α) (items : List (κ × α)) :
    (key, value) ∈ insertItem key value items := by
  induction items with
  | nil => exact mem_singleton.mpr rfl
  | cons head rest ih =>
    rw [insertItem]
    split
    · exact mem_cons_self
    · split
      · exact mem_cons_self
      · exact mem_cons_of_mem _ ih

theorem mem_insertItem_of_ne {value : α} {item : κ × α} (member : item ∈ items)
    (different : item.1 ≠ key) :
    item ∈ insertItem key value items := by
  induction items with
  | nil => simp at member
  | cons head rest ih =>
    rw [insertItem]
    split
    · exact mem_cons_of_mem _ member
    split
    case isTrue same =>
      rcases mem_cons.mp member with rfl | later
      · exact absurd same.symm different
      · exact mem_cons_of_mem _ later
    case isFalse _ =>
      rcases mem_cons.mp member with rfl | later
      · exact mem_cons_self
      · exact mem_cons_of_mem _ (ih later)

theorem insertItem_of_above {value : α} (above : ∀ item ∈ items, item.1 < key) :
    insertItem key value items = items ++ [(key, value)] := by
  induction items with
  | nil => rfl
  | cons head rest ih =>
    have below := above head mem_cons_self
    rw [insertItem, if_neg (lt_asymm below), if_neg (ne_of_lt below).symm,
      ih fun item member => above item (mem_cons_of_mem _ member)]
    rfl

theorem fromIterator_items (sorted : items.Pairwise fun first second => first.1 < second.1) :
    (fromIterator items).items = items := by
  have filled : ∀ (vec : SortedVec κ α) (items : List (κ × α)),
      (vec.items ++ items).Pairwise (fun first second => first.1 < second.1) →
      (items.foldl (fun vec item => vec.insertOrReplace item.1 item.2)
        vec).items = vec.items ++ items := by
    intro vec items
    induction items generalizing vec with
    | nil => exact fun _ => (append_nil _).symm
    | cons item items ih =>
      intro ascending
      have appended : (vec.insertOrReplace item.1 item.2).items = vec.items ++ [item] := by
        apply insertItem_of_above
        intro other member
        exact (pairwise_append.mp ascending).2.2 other member item mem_cons_self
      rw [foldl_cons, ih, appended, append_assoc]
      · rfl
      · rw [appended, append_assoc]
        exact ascending
  exact filled empty items sorted

end SortedVec

end ReverseProxy.Library
