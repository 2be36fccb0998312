import Mathlib.Tactic.Common

/-!
# Results of running source code

A call of the source returns a value, panics, or keeps running.  `diverge` is
the result of a loop that is still running when the number of iterations the
model grants it is used up; no theorem treats it as a returned value.
-/

namespace ReverseProxy

inductive Outcome (α : Type) where
  | ret (value : α)
  | panic
  | diverge
deriving DecidableEq, Repr

namespace Outcome

variable {α β γ : Type}

def bind : Outcome α → (α → Outcome β) → Outcome β
  | ret value, next => next value
  | panic, _ => panic
  | diverge, _ => diverge

instance : Monad Outcome where
  pure := ret
  bind := bind

@[simp] theorem pure_eq (value : α) : (pure value : Outcome α) = ret value :=
  rfl

@[simp] theorem bind_ret (value : α) (next : α → Outcome β) :
    (ret value >>= next) = next value :=
  rfl

@[simp] theorem bind_panic (next : α → Outcome β) :
    ((panic : Outcome α) >>= next) = panic :=
  rfl

@[simp] theorem bind_diverge (next : α → Outcome β) :
    ((diverge : Outcome α) >>= next) = diverge :=
  rfl

theorem bind_eq_ret_iff {first : Outcome α} {next : α → Outcome β} {result : β} :
    (first >>= next) = ret result ↔ ∃ value, first = ret value ∧ next value = ret result := by
  cases first with
  | ret value => simp
  | panic => simp
  | diverge => simp

theorem bind_returns_iff {first : Outcome α} {next : α → Outcome β}
    (returns : ∀ value, ∃ result, next value = ret result) :
    (∃ result, (first >>= next) = ret result) ↔ ∃ value, first = ret value := by
  simp only [bind_eq_ret_iff]
  constructor
  · rintro ⟨_, value, returned, _⟩
    exact ⟨value, returned⟩
  · rintro ⟨value, returned⟩
    obtain ⟨result, continued⟩ := returns value
    exact ⟨result, value, returned, continued⟩

end Outcome

/-- `&payload[start..end]`: an index out of order or out of bounds panics. -/
def slice (payload : List UInt8) (start stop : Nat) : Outcome (List UInt8) :=
  if start ≤ stop ∧ stop ≤ payload.length then
    .ret ((payload.take stop).drop start)
  else
    .panic

theorem slice_append (before segment after : List UInt8) :
    slice (before ++ segment ++ after) before.length
      (before.length + segment.length) = .ret segment := by
  have fits : before.length ≤ before.length + segment.length ∧ before.length + segment.length ≤
        (before ++ segment ++ after).length := by
    simp only [List.length_append]
    omega
  rw [slice, if_pos fits]
  simp [List.take_append]

theorem slice_panic {payload : List UInt8} {start stop : Nat}
    (reversed : stop < start) : slice payload start stop = .panic := by
  rw [slice, if_neg (by omega)]

/-! ## Results -/

/-- A sequence of calls succeeds if each of them does. -/
theorem bind_eq_ok_iff {ε α β : Type} {first : Except ε α} {next : α → Except ε β} {result : β} :
    (first >>= next) = .ok result ↔ ∃ value, first = .ok value ∧ next value = .ok result := by
  cases first with
  | error err | ok value => simp [bind, Except.bind]

theorem mapError_eq_ok_iff {ε δ α : Type} {f : ε → δ} {result : Except ε α}
    {value : α} : result.mapError f = .ok value ↔ result = .ok value := by
  cases result with
  | error err | ok value => simp [Except.mapError]

theorem isOk_iff {ε α : Type} {result : Except ε α} :
    result.isOk = true ↔ ∃ value, result = .ok value := by
  cases result with
  | error err | ok value => simp [Except.isOk, Except.toBool]

end ReverseProxy
