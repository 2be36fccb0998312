import Mathlib.Data.List.Induction
import Mathlib.Tactic.Common

/-!
# Runs of a machine

A run is a fold of a step function over the inputs of the machine, or a chain
of labelled steps each of which meets a condition.
-/

namespace ReverseProxy.Library

/-- A fold whose steps keep the accumulator or overwrite it with one value
ends in that value once some step overwrites. -/
theorem foldl_overwrite {α β : Type} {step : α → β → α} {target : α} {items : List β} (start : α)
    (steps : ∀ item ∈ items,
      (∀ current, step current item = current) ∨ ∀ current, step current item = target)
    (written : start = target ∨ ∃ item ∈ items, ∀ current, step current item = target) :
    items.foldl step start = target := by
  induction items generalizing start with
  | nil =>
    rcases written with same | ⟨item, member, _⟩
    · exact same
    · simp at member
  | cons item items ih =>
    rw [List.foldl_cons]
    refine ih (step start item) (fun other member => steps other (by simp [member])) ?_
    rcases written with rfl | ⟨other, member, overwrites⟩
    · rcases steps item (by simp) with keeps | overwrites
      · exact Or.inl (keeps start)
      · exact Or.inl (overwrites start)
    · rcases List.mem_cons.mp member with rfl | member
      · exact Or.inl (overwrites start)
      · exact Or.inr ⟨other, member, overwrites⟩

/-- Two folds over events of a clock that does not go back.  A relation that
lasts while time passes and that every event keeps holds at the end. -/
theorem foldl_timed {σ τ ε : Type} (time : ε → Int)
    (Related : Int → σ → τ → Prop) {left : σ → ε → σ} {right : τ → ε → τ}
    {events : List ε} {last : Int} {first : σ} {second : τ}
    (lasts : ∀ {now later state other}, Related now state other →
      now ≤ later → Related later state other)
    (keeps : ∀ event ∈ events, ∀ {state other},
      Related (time event) state other →
        Related (time event) (left state event) (right other event))
    (sorted : events.Pairwise fun early late => time early ≤ time late)
    (initially : ∀ now, Related now first second)
    (ended : ∀ event ∈ events, time event ≤ last) :
    Related last (events.foldl left first) (events.foldl right second) := by
  -- From the end: what came before the last event is over by its time.
  induction events using List.reverseRecOn generalizing last with
  | nil => exact initially last
  | append_singleton events event ih =>
    obtain ⟨sorted, _, before⟩ := List.pairwise_append.mp sorted
    have reached := ih (fun other member => keeps other (List.mem_append_left _ member)) sorted
      fun other member => before other member event List.mem_cons_self
    rw [List.foldl_append, List.foldl_append]
    exact lasts (keeps event (by simp) reached) (ended event (by simp))

section

variable {σ ε : Type} {Step : σ → ε → σ → Prop} {Meets : σ → ε → Prop}

/-- Runs of a machine with labelled steps that meet a condition on the state
they start in and their label. -/
inductive Run (Step : σ → ε → σ → Prop) (Meets : σ → ε → Prop) : σ → σ → Prop where
  | start (state : σ) : Run Step Meets state state
  | step {first state next : σ} {label : ε}
      (run : Run Step Meets first state) (meets : Meets state label)
      (stepped : Step state label next) : Run Step Meets first next

/-- What every step of a run preserves holds at its end. -/
theorem Run.invariant {first last : σ} {Holds : σ → Prop}
    (run : Run Step Meets first last) (initially : Holds first)
    (preserved : ∀ {state label next}, Holds state → Meets state label →
      Step state label next → Holds next) :
    Holds last := by
  induction run with
  | start => exact initially
  | step _ meets stepped ih => exact preserved ih meets stepped

theorem Run.trans {first middle last : σ}
    (run : Run Step Meets first middle) (further : Run Step Meets middle last) :
    Run Step Meets first last := by
  induction further with
  | start => exact run
  | step _ meets stepped ih => exact .step ih meets stepped

theorem Run.mono {Weaker : σ → ε → Prop} {first last : σ} (run : Run Step Meets first last)
    (weaker : ∀ {state label}, Meets state label → Weaker state label) :
    Run Step Weaker first last := by
  induction run with
  | start => exact .start _
  | step _ meets stepped ih => exact .step ih (weaker meets) stepped

end

end ReverseProxy.Library
