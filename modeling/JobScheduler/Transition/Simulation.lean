import JobScheduler.Transition.Run

/-!
# Forward simulation

A relation between the states of two systems is a simulation when related initial states exist
and each step of the concrete system is matched by a path of the abstract one that leads back
into the relation. Then every run of the concrete system is matched by a run of the abstract one
that ends in a related state, so every invariant of the abstract system holds of what the concrete
one reaches, read through the relation.

The match may need to know of conditions on the steps taken before, which are part of the
relation, and of a condition on the step itself.
-/

set_option autoImplicit false

namespace Transition

universe u v w x

variable {State : Type u} {Action : Type v} {Abstract : Type w} {Move : Type x}
  {concrete : System State Action} {abstract : System Abstract Move}

/-- Paths are composed. -/
theorem Path.trans {t t' t'' : Abstract} {first second : List (Abstract × Move)}
    (leads : Path abstract t first t') (goesOn : Path abstract t' second t'') :
    Path abstract t (second ++ first) t'' := by
  induction goesOn with
  | refl => exact leads
  | next a _ taken ih => exact ih.next a taken

/-- One enabled step is a path. -/
theorem Path.single {t t' : Abstract} {a : Move} (taken : abstract.step t a = some t') :
    Path abstract t [(t, a)] t' :=
  Path.refl.next a taken

/-- **The simulation rule**, from a pair of related states. -/
theorem Path.simulated {condition : State → Action → Prop} {related : State → Abstract → Prop}
    {s last : State} {t : Abstract} {trace : List (State × Action)}
    (path : Path concrete s trace last) (meets : Meets condition trace) (relation : related s t)
    (matched : ∀ s a s' t, concrete.step s a = some s' → condition s a → related s t →
      ∃ moves t', Path abstract t moves t' ∧ related s' t') :
    ∃ moves t', Path abstract t moves t' ∧ related last t' := by
  induction path with
  | refl => exact ⟨[], t, .refl, relation⟩
  | next a _ taken ih =>
      rw [meets_cons] at meets
      obtain ⟨moves, t', first, relation'⟩ := ih meets.2
      obtain ⟨more, t'', goesOn, relation''⟩ := matched _ a _ t' taken meets.1 relation'
      exact ⟨more ++ moves, t'', first.trans goesOn, relation''⟩

/-- The rule for runs. -/
theorem Run.simulated {condition : State → Action → Prop} {related : State → Abstract → Prop}
    {trace : List (State × Action)} {last : State} (run : Run concrete trace last)
    (meets : Meets condition trace)
    (starts : ∀ s, concrete.initial s → ∃ t, abstract.initial t ∧ related s t)
    (matched : ∀ s a s' t, concrete.step s a = some s' → condition s a → related s t →
      ∃ moves t', Path abstract t moves t' ∧ related s' t') :
    ∃ moves t, Run abstract moves t ∧ related last t := by
  rw [← List.append_nil trace] at run
  obtain ⟨s, first, path⟩ := run.split
  cases first with
  | start initial =>
      obtain ⟨t, begins, relation⟩ := starts s initial
      obtain ⟨moves, t', follows, relation'⟩ := path.simulated meets relation matched
      have whole := follows.run (.start begins)
      exact ⟨_, t', whole, relation'⟩

end Transition
