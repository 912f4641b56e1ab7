import Mathlib.Logic.Basic

/-!
# Outcomes that mirror each other

A fallible operation on a concrete state refines one on an abstract state when both fail with
the same error or both succeed with related results. Operations are sequences of checks that
end in a result, so refinement is proved check by check.

Two concrete operations that refine one abstract operation cannot be told apart by their
errors, and their results are related to one abstract result.

An operation that succeeds has passed its checks (`passed_check`), and so has the one whose
result it returns a part of (`succeeded_of_map`).
-/

set_option autoImplicit false

namespace Transition

universe u v w x

variable {ε : Type u} {α : Type v} {β : Type w} {rel : α → β → Prop}

theorem passed_check {p : Prop} {_ : Decidable p} {e : ε} {rest : Except ε α} {a : α}
    (succeeds : (if p then .error e else rest) = .ok a) : ¬ p ∧ rest = .ok a := by
  by_cases fails : p
  · rw [if_pos fails] at succeeds
    cases succeeds
  · rw [if_neg fails] at succeeds
    exact ⟨fails, succeeds⟩

theorem succeeded_of_map {f : α → β} {result : Except ε α} {b : β}
    (succeeds : result.map f = .ok b) : ∃ a, result = .ok a ∧ f a = b := by
  cases result with
  | error e => cases succeeds
  | ok a =>
      cases succeeds
      exact ⟨a, rfl, rfl⟩

/-- The same error, or related results. -/
inductive Mirrors (rel : α → β → Prop) : Except ε α → Except ε β → Prop where
  | error (e : ε) : Mirrors rel (.error e) (.error e)
  | ok {a : α} {b : β} (related : rel a b) : Mirrors rel (.ok a) (.ok b)

namespace Mirrors

/-- Both operations make the same check. -/
theorem check {p q : Prop} {_ : Decidable p} {_ : Decidable q} {e : ε} {first : Except ε α}
    {second : Except ε β} (same : p ↔ q) (passes : ¬ p → Mirrors rel first second) :
    Mirrors rel (if p then .error e else first) (if q then .error e else second) := by
  by_cases fails : p
  · rw [if_pos fails, if_pos (same.mp fails)]
    exact .error e
  · rw [if_neg fails, if_neg (fun h => fails (same.mpr h))]
    exact passes fails

/-- The concrete operation returns a part of its result. -/
theorem map {γ : Type x} {f : γ → α} {first : Except ε γ} {second : Except ε β}
    (mirrors : Mirrors (fun c b => rel (f c) b) first second) :
    Mirrors rel (first.map f) second := by
  cases mirrors with
  | error e => exact .error e
  | ok related => exact .ok related

end Mirrors

end Transition
