import Mathlib.Order.WellFounded
import Mathlib.Data.Nat.Notation

/-!
# Programs driven by inputs

A sequential program takes one step after the other; what it meets at each step, such as the time,
comes from outside, as a sequence of inputs. A step of a program that has ended changes nothing.
If every step of a program that has not ended lowers a well-founded rank, the program ends, whatever
the inputs are (`exists_ended`), and stays as it is from there on (`driven_of_ended`).
-/

set_option autoImplicit false

namespace Transition

universe u v w

variable {State : Type u} {Input : Type v}

/-- The state after so many steps. -/
def driven (step : Input → State → State) (inputs : ℕ → Input) (s : State) : ℕ → State
  | 0 => s
  | n + 1 => step (inputs n) (driven step inputs s n)

variable {step : Input → State → State} {inputs : ℕ → Input} {s : State}

/-- The first step is the step that all others come after. -/
theorem driven_succ (step : Input → State → State) (inputs : ℕ → Input) (s : State) (n : ℕ) :
    driven step inputs s (n + 1) =
      driven step (fun k => inputs (k + 1)) (step (inputs 0) s) n := by
  induction n with
  | zero => rfl
  | succ n ih =>
      rw [driven, ih]
      rfl

/-- A program whose steps lower a rank ends. -/
theorem exists_ended {α : Type w} [LT α] [WellFoundedLT α] (rank : State → α)
    {running : State → Prop}
    (lowers : ∀ input s, running s → rank (step input s) < rank s)
    (inputs : ℕ → Input) (s : State) : ∃ n, ¬ running (driven step inputs s n) := by
  induction s using (InvImage.wf rank (wellFounded_lt)).induction generalizing inputs with
  | _ s ih =>
      by_cases runs : running s
      · obtain ⟨n, ended⟩ := ih (step (inputs 0) s) (lowers _ s runs) fun k => inputs (k + 1)
        exact ⟨n + 1, by rwa [driven_succ]⟩
      · exact ⟨0, runs⟩

/-- A program that has ended stays as it is. -/
theorem driven_of_ended (running : State → Prop)
    (stays : ∀ input s, ¬ running s → step input s = s) {n : ℕ}
    (ended : ¬ running (driven step inputs s n)) {m : ℕ} (later : n ≤ m) :
    driven step inputs s m = driven step inputs s n := by
  induction later with
  | refl => rfl
  | step _ ih => rw [driven, ih, stays _ _ ended]

/-- What holds of every state and input until a program has ended, and of ended ones, holds of
all. -/
theorem forall_of_ended (running : State → Prop) (holds : Input → State → Prop)
    (stays : ∀ input s, ¬ running s → step input s = s) {n : ℕ}
    (ended : ¬ running (driven step inputs s n))
    (before : ∀ m < n, holds (inputs m) (driven step inputs s m))
    (after : ∀ input s, ¬ running s → holds input s) (m : ℕ) :
    holds (inputs m) (driven step inputs s m) := by
  by_cases early : m < n
  · exact before m early
  · rw [driven_of_ended running stays ended (Nat.le_of_not_lt early)]
    exact after _ _ ended

end Transition
