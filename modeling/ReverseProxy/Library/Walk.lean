import Mathlib.Data.List.Basic
import Mathlib.Data.List.Infix

/-!
# Walks in a tree of names

A place is the list of names on the way down to it.  Going up from the root stays
there.  Whatever the start, a walk comes to the same as going up some levels and
then down by some names.
-/

namespace ReverseProxy.Library

variable {Name : Type}

/-- One step of a walk. -/
inductive Move (Name : Type) where
  | up
  | down (name : Name)
deriving DecidableEq, Repr

def Move.go (place : List Name) : Move Name → List Name
  | up => place.dropLast
  | down name => place ++ [name]

/-- Where a walk ends. -/
def walk (start : List Name) (moves : List (Move Name)) : List Name := moves.foldl Move.go start

/-- Up by levels, then down by names. -/
structure Detour (Name : Type) where
  ups : Nat
  names : List Name
deriving DecidableEq, Repr

def Detour.extend (detour : Detour Name) : Move Name → Detour Name
  | .up =>
    if detour.names.isEmpty then { detour with ups := detour.ups + 1 }
    else { detour with names := detour.names.dropLast }
  | .down name => { detour with names := detour.names ++ [name] }

/-- What a walk comes to. -/
def detour (moves : List (Move Name)) : Detour Name :=
  moves.foldl Detour.extend { ups := 0, names := [] }

/-- The place a detour leads to. -/
def Detour.follow (detour : Detour Name) (start : List Name) : List Name :=
  start.take (start.length - detour.ups) ++ detour.names

theorem Detour.follow_nil (detour : Detour Name) : detour.follow [] = detour.names := by
  simp [follow]

theorem Detour.follow_extend (detour : Detour Name) (start : List Name) (move : Move Name) :
    (detour.extend move).follow start = move.go (detour.follow start) := by
  cases move with
  | down name => simp [follow, extend, Move.go]
  | up =>
    obtain ⟨ups, names⟩ := detour
    cases names with
    | nil =>
      simp only [follow, extend, Move.go, List.isEmpty_nil, if_true,
        List.append_nil, List.dropLast_eq_take, List.take_take,
        List.length_take]
      congr 1
      omega
    | cons name names =>
      simp only [follow, extend, Move.go, List.isEmpty_cons, Bool.false_eq_true, if_false]
      rw [List.dropLast_append_of_ne_nil (List.cons_ne_nil name names)]

theorem walk_eq_follow (start : List Name) (moves : List (Move Name)) :
    walk start moves = (detour moves).follow start := by
  induction moves using List.reverseRecOn with
  | nil => simp [walk, detour, Detour.follow]
  | append_singleton moves move ih =>
    have extended : detour (moves ++ [move]) = (detour moves).extend move := by
      simp [detour]
    rw [extended, Detour.follow_extend, ← ih]
    simp [walk]

/-- A detour stays below its start exactly if it comes back by the names it
went up from. -/
theorem Detour.prefix_follow_iff (detour : Detour Name) (start : List Name) :
    start <+: detour.follow start ↔ start.drop (start.length - detour.ups) <+: detour.names := by
  have whole := List.take_append_drop (start.length - detour.ups) start
  calc start <+: detour.follow start ↔ start.take (start.length - detour.ups) ++
            start.drop (start.length - detour.ups) <+:
          start.take (start.length - detour.ups) ++ detour.names := by
        rw [whole, follow]
    _ ↔ start.drop (start.length - detour.ups) <+: detour.names := List.prefix_append_right_inj _

end ReverseProxy.Library
