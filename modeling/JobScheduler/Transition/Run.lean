import Mathlib.Data.List.Basic

/-!
# Runs of a transition system

A system is a set of initial states and a partial step function: `step s a` is the
state after action `a`, and `none` when `a` is not enabled in `s`. A run is a finite
sequence of steps from an initial state. Its trace lists the steps, latest first,
each as the state before it and the action taken.

Assumptions about the environment are conditions on single steps. A run meets a
condition when every step of its trace does. An invariant that the initial states
satisfy and that every step meeting the condition preserves holds in the last state of
every run that meets the condition (`Run.invariant`), and in every state before a step
of its trace (`Run.invariant_before`).
-/

set_option autoImplicit false

namespace Transition

universe u v

/-- Initial states and a partial step function. -/
structure System (State : Type u) (Action : Type v) where
  initial : State → Prop
  step : State → Action → Option State

variable {State : Type u} {Action : Type v} (system : System State Action)

/-- The runs of a system: a trace, latest step first, and the state it ends in. -/
inductive Run : List (State × Action) → State → Prop where
  | start {s : State} : system.initial s → Run [] s
  | next {trace : List (State × Action)} {s s' : State} (a : Action) :
      Run trace s → system.step s a = some s' → Run ((s, a) :: trace) s'

/-- A trace meets a condition when each of its steps does. -/
def Meets (condition : State → Action → Prop) (trace : List (State × Action)) : Prop :=
  ∀ entry ∈ trace, condition entry.1 entry.2

/-- A property holds in every state of a run with this trace and this last state. -/
def Throughout (property : State → Prop) (trace : List (State × Action)) (last : State) :
    Prop :=
  (∀ entry ∈ trace, property entry.1) ∧ property last

section Meets

variable {condition : State → Action → Prop} {trace : List (State × Action)}

theorem meets_nil : Meets condition [] := by
  intro entry member
  cases member

theorem meets_cons {s : State} {a : Action} :
    Meets condition ((s, a) :: trace) ↔ condition s a ∧ Meets condition trace := by
  simp only [Meets, List.forall_mem_cons]

theorem Meets.and {other : State → Action → Prop} (first : Meets condition trace)
    (second : Meets other trace) : Meets (fun s a => condition s a ∧ other s a) trace :=
  fun entry member => ⟨first entry member, second entry member⟩

theorem throughout_cons {property : State → Prop} {s last : State} {a : Action} :
    Throughout property ((s, a) :: trace) last ↔ Throughout property trace s ∧ property last := by
  simp only [Throughout, List.forall_mem_cons]
  tauto

end Meets

namespace Run

variable {system} {condition : State → Action → Prop} {trace : List (State × Action)}
  {last : State}

/-- **The invariant rule.** What the initial states satisfy and every step that meets
the condition preserves holds at the end of every run that meets the condition. -/
theorem invariant {holds : State → Prop} (run : Run system trace last)
    (meets : Meets condition trace)
    (base : ∀ s, system.initial s → holds s)
    (preserved : ∀ s a s', system.step s a = some s' → condition s a → holds s → holds s') :
    holds last := by
  induction run with
  | start initial => exact base _ initial
  | next a _ taken ih =>
      rw [meets_cons] at meets
      exact preserved _ a _ taken meets.1 (ih meets.2)

/-- The state before any step of a trace is itself the end of a run, on a trace that
meets every condition the whole trace meets, and its step is enabled. -/
theorem before (run : Run system trace last) {s : State} {a : Action}
    (member : (s, a) ∈ trace) :
    ∃ earlier, Run system earlier s ∧ (∀ entry ∈ earlier, entry ∈ trace) ∧
      ∃ s', system.step s a = some s' := by
  induction run with
  | start _ => cases member
  | next b previous taken ih =>
      rcases List.mem_cons.mp member with same | member
      · cases same
        exact ⟨_, previous, fun entry inside => List.mem_cons_of_mem _ inside, _, taken⟩
      · obtain ⟨earlier, reaches, inside, enabled⟩ := ih member
        exact ⟨earlier, reaches, fun entry found => List.mem_cons_of_mem _ (inside entry found),
          enabled⟩

/-- The invariant rule for the states before the steps of a trace. -/
theorem invariant_before {holds : State → Prop} (run : Run system trace last)
    (meets : Meets condition trace)
    (base : ∀ s, system.initial s → holds s)
    (preserved : ∀ s a s', system.step s a = some s' → condition s a → holds s → holds s')
    {s : State} {a : Action} (member : (s, a) ∈ trace) : holds s := by
  obtain ⟨earlier, reaches, inside, _⟩ := run.before member
  exact reaches.invariant (fun entry found => meets entry (inside entry found)) base preserved

/-- The invariant rule for all states of a run. -/
theorem throughout {holds : State → Prop} (run : Run system trace last)
    (meets : Meets condition trace)
    (base : ∀ s, system.initial s → holds s)
    (preserved : ∀ s a s', system.step s a = some s' → condition s a → holds s → holds s') :
    Throughout holds trace last :=
  ⟨fun _ member => run.invariant_before meets base preserved member,
    run.invariant meets base preserved⟩

/-- **When a property holds throughout, exactly.** Suppose that under the ambient condition
the steps meeting `condition` preserve an invariant that implies the property, and that a
step after which the property still holds must have met `condition`. Then the property
holds throughout a run exactly when all its steps meet `condition`. -/
theorem throughout_iff_meets (ambient : State → Action → Prop) (holds : State → Prop)
    {property : State → Prop} (run : Run system trace last) (within : Meets ambient trace)
    (base : ∀ s, system.initial s → holds s)
    (preserved : ∀ s a s', system.step s a = some s' → ambient s a → condition s a →
      holds s → holds s')
    (implies : ∀ s, holds s → property s)
    (needed : ∀ s a s', system.step s a = some s' → ambient s a → holds s → property s' →
      condition s a) :
    Throughout property trace last ↔ Meets condition trace := by
  have keeps : ∀ s a s', system.step s a = some s' → (ambient s a ∧ condition s a) →
      holds s → holds s' :=
    fun s a s' taken both => preserved s a s' taken both.1 both.2
  constructor
  · intro throughout
    induction run with
    | start _ => exact meets_nil
    | next a previous taken ih =>
        rw [meets_cons] at within
        rw [throughout_cons] at throughout
        have earlier := ih within.2 throughout.1
        have before := previous.invariant (within.2.and earlier) base keeps
        exact meets_cons.mpr ⟨needed _ a _ taken within.1 before throughout.2, earlier⟩
  · intro meets
    have all := run.throughout (within.and meets) base keeps
    exact ⟨fun entry member => implies _ (all.1 entry member), implies _ all.2⟩

end Run

/-! ## The later part of a run -/

/-- The steps that lead from one state to another, latest first. -/
inductive Path (s : State) : List (State × Action) → State → Prop where
  | refl : Path s [] s
  | next {trace : List (State × Action)} {s' s'' : State} (a : Action) :
      Path s trace s' → system.step s' a = some s'' → Path s ((s', a) :: trace) s''

/-- A run is a run of its earlier steps and a path of its later ones. -/
theorem Run.split {later earlier : List (State × Action)} {last : State}
    (run : Run system (later ++ earlier) last) :
    ∃ s, Run system earlier s ∧ Path system s later last := by
  induction later generalizing last with
  | nil => exact ⟨last, run, .refl⟩
  | cons entry later ih =>
      cases run with
      | next a previous taken =>
          obtain ⟨s, first, path⟩ := ih previous
          exact ⟨s, first, path.next a taken⟩

namespace Path

variable {system} {s last : State} {trace : List (State × Action)}

/-- A path continues the run that leads to its first state. -/
theorem run {earlier : List (State × Action)} (path : Path system s trace last)
    (first : Run system earlier s) : Run system (trace ++ earlier) last := by
  induction path with
  | refl => exact first
  | next a _ taken ih => exact ih.next a taken

/-- The invariant rule for paths: what holds in the first state and is preserved by every
step that meets the condition holds in every state of the path. -/
theorem throughout {condition : State → Action → Prop} {holds : State → Prop}
    (path : Path system s trace last) (meets : Meets condition trace) (base : holds s)
    (preserved : ∀ s a s', system.step s a = some s' → condition s a → holds s → holds s') :
    Throughout holds trace last := by
  induction path with
  | refl => exact ⟨by simp, base⟩
  | next a _ taken ih =>
      rw [meets_cons] at meets
      have earlier := ih meets.2
      exact throughout_cons.mpr ⟨earlier, preserved _ a _ taken meets.1 earlier.2⟩

/-- What is false at the start of a path and true at its end becomes true by one of its
steps. -/
theorem exists_change (property : State → Prop) (path : Path system s trace last)
    (first : ¬ property s) (final : property last) :
    ∃ entry ∈ trace, ∃ s', system.step entry.1 entry.2 = some s' ∧ ¬ property entry.1 ∧
      property s' := by
  induction path with
  | refl => exact absurd final first
  | @next trace s' s'' a _ taken ih =>
      by_cases before : property s'
      · obtain ⟨entry, member, change⟩ := ih before
        exact ⟨entry, List.mem_cons_of_mem _ member, change⟩
      · exact ⟨(s', a), List.mem_cons_self, s'', taken, before, final⟩

end Path

/-! ## Executing a list of actions -/

/-- Take the actions in order, recording the trace. -/
def execute (step : State → Action → Option State) :
    List Action → List (State × Action) → State → Option (List (State × Action) × State)
  | [], trace, s => some (trace, s)
  | a :: rest, trace, s =>
      match step s a with
      | none => none
      | some s' => execute step rest ((s, a) :: trace) s'

/-- Executing actions extends a path. -/
theorem Path.execute {actions : List Action} {trace trace' : List (State × Action)}
    {start s last : State} (path : Path system start trace s)
    (executes : execute system.step actions trace s = some (trace', last)) :
    Path system start trace' last := by
  induction actions generalizing trace s with
  | nil =>
      cases executes
      exact path
  | cons a rest ih =>
      simp only [Transition.execute] at executes
      split at executes
      · cases executes
      · next s' taken => exact ih (path.next a taken) executes

/-- A list of actions that can be executed from a state gives a path, and what a check finds
of its trace and last state holds of that path. -/
theorem exists_path_of_execute (actions : List Action) (s : State)
    (check : List (State × Action) → State → Prop) [∀ trace last, Decidable (check trace last)]
    (passes : (execute system.step actions [] s).any (fun end' => check end'.1 end'.2) = true) :
    ∃ trace last, Path system s trace last ∧ check trace last := by
  cases result : execute system.step actions [] s with
  | none =>
      rw [result] at passes
      cases passes
  | some end' =>
      rw [result] at passes
      exact ⟨end'.1, end'.2, Path.execute system .refl result, of_decide_eq_true passes⟩

/-- The same for a run, when the state is initial. -/
theorem exists_run_of_execute (actions : List Action) (s : State)
    (check : List (State × Action) → State → Prop) [∀ trace last, Decidable (check trace last)]
    (start : system.initial s)
    (passes : (execute system.step actions [] s).any (fun end' => check end'.1 end'.2) = true) :
    ∃ trace last, Run system trace last ∧ check trace last := by
  obtain ⟨trace, last, path, checked⟩ := exists_path_of_execute system actions s check passes
  have run := path.run (.start start)
  rw [List.append_nil] at run
  exact ⟨trace, last, run, checked⟩

end Transition
