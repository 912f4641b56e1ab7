import JobScheduler.Relational.Table
import Mathlib.Data.Set.Insert

/-!
# Queries and the rows they select

The answer of a query depends on the rows it selects and on nothing else. Two tables may
differ in other rows and in the order in which the rows are kept: a query with an `ORDER BY`
lists the same rows in the same way in both, a lookup that selects at most one row finds the
same row, and a count is the same.

An `ORDER BY` that leaves rows tied is completed by a ranking the server chooses, and by the
primary key where that ranking has ties of its own.
-/

set_option autoImplicit false

namespace Relational

variable {α : Type*}

/-! ## Ordered results -/

/-- `ORDER BY key`, ties by rank and then by primary key. -/
def Ordered (key : α → Int) (rank id : α → Nat) (first second : α) : Prop :=
  key first < key second ∨ key first = key second ∧
    (rank first < rank second ∨ rank first = rank second ∧ id first ≤ id second)

instance (key : α → Int) (rank id : α → Nat) : DecidableRel (Ordered key rank id) :=
  fun _ _ => inferInstanceAs (Decidable (_ ∨ _ ∧ (_ ∨ _ ∧ _)))

section Ordered

variable {key : α → Int} {rank id : α → Nat}

instance : Std.Total (Ordered key rank id) where
  total first second := by
    unfold Ordered
    omega

instance : IsTrans α (Ordered key rank id) where
  trans first second third := by
    unfold Ordered
    omega

/-- The rows in the order of the query. -/
def orderBy (key : α → Int) (rank id : α → Nat) (rows : List α) : List α :=
  rows.insertionSort (Ordered key rank id)

theorem orderBy_perm (key : α → Int) (rank id : α → Nat) (rows : List α) :
    (orderBy key rank id rows).Perm rows :=
  List.perm_insertionSort _ rows

/-- Rows with distinct primary keys are listed in one way only. -/
theorem orderBy_eq_of_perm {first second : List α} (perm : first.Perm second)
    (unique : (first.map id).Nodup) : orderBy key rank id first = orderBy key rank id second := by
  have listed : (orderBy key rank id first).Perm (orderBy key rank id second) :=
    ((orderBy_perm key rank id first).trans perm).trans (orderBy_perm key rank id second).symm
  refine listed.eq_of_pairwise ?_ (List.pairwise_insertionSort _ first)
    (List.pairwise_insertionSort _ second)
  intro a b aMember bMember before after
  have aRow : a ∈ first := (List.mem_insertionSort _).mp aMember
  have bRow : b ∈ first := perm.mem_iff.mpr ((List.mem_insertionSort _).mp bMember)
  refine eq_of_key_eq unique aRow bRow ?_
  unfold Ordered at before after
  omega

end Ordered

/-! ## Selections of the same rows -/

section Same

variable {first second : List α} {selects₁ selects₂ : α → Bool}

/-- Two conditions that select the same rows of two tables select them the same number of
times when the tables have no duplicates. -/
theorem filter_perm_of_same (nodup₁ : first.Nodup) (nodup₂ : second.Nodup)
    (same : ∀ row, row ∈ first ∧ selects₁ row = true ↔ row ∈ second ∧ selects₂ row = true) :
    (first.filter selects₁).Perm (second.filter selects₂) := by
  rw [List.perm_ext_iff_of_nodup (nodup₁.filter _) (nodup₂.filter _)]
  intro row
  rw [List.mem_filter, List.mem_filter]
  exact same row

/-- The query lists the same rows in the same order. -/
theorem orderBy_filter_eq {key : α → Int} {rank id : α → Nat} (unique₁ : (first.map id).Nodup)
    (unique₂ : (second.map id).Nodup)
    (same : ∀ row, row ∈ first ∧ selects₁ row = true ↔ row ∈ second ∧ selects₂ row = true) :
    orderBy key rank id (first.filter selects₁) = orderBy key rank id (second.filter selects₂) :=
  orderBy_eq_of_perm (filter_perm_of_same unique₁.of_map unique₂.of_map same)
    (nodup_map_filter unique₁ _)

/-- The count is the same. -/
theorem countP_eq_of_same (nodup₁ : first.Nodup) (nodup₂ : second.Nodup)
    (same : ∀ row, row ∈ first ∧ selects₁ row = true ↔ row ∈ second ∧ selects₂ row = true) :
    first.countP selects₁ = second.countP selects₂ := by
  rw [List.countP_eq_length_filter, List.countP_eq_length_filter]
  exact (filter_perm_of_same nodup₁ nodup₂ same).length_eq

/-- A lookup that selects at most one row finds the same row. -/
theorem find?_eq_of_same
    (same : ∀ row, row ∈ first ∧ selects₁ row = true ↔ row ∈ second ∧ selects₂ row = true)
    (unique : ∀ row ∈ first, ∀ other ∈ first, selects₁ row = true → selects₁ other = true →
      row = other) : first.find? selects₁ = second.find? selects₂ := by
  cases found : first.find? selects₁ with
  | none =>
      refine (List.find?_eq_none.mpr ?_).symm
      intro row member selected
      obtain ⟨member', selected'⟩ := (same row).mpr ⟨member, selected⟩
      exact List.find?_eq_none.mp found row member' selected'
  | some row =>
      have here := (same row).mp ⟨List.mem_of_find?_eq_some found, List.find?_some found⟩
      cases found' : second.find? selects₂ with
      | none => exact absurd here.2 (List.find?_eq_none.mp found' row here.1)
      | some other =>
          have there :=
            (same other).mpr ⟨List.mem_of_find?_eq_some found', List.find?_some found'⟩
          rw [unique row (List.mem_of_find?_eq_some found) other there.1
            (List.find?_some found) there.2]

/-- A lookup by key among the rows one may see finds the same row. -/
theorem find?_owned_eq {κ : Type*} [DecidableEq κ] {key : α → κ} {owned₁ owned₂ : α → Prop}
    [DecidablePred owned₁] [DecidablePred owned₂] (unique : (first.map key).Nodup)
    (same : ∀ row, row ∈ first ∧ owned₁ row ↔ row ∈ second ∧ owned₂ row) (k : κ) :
    (first.find? fun row => key row = k ∧ owned₁ row) =
      second.find? fun row => key row = k ∧ owned₂ row := by
  refine find?_eq_of_same (fun row => ?_) ?_
  · rw [decide_eq_true_eq, decide_eq_true_eq, and_left_comm, same row, and_left_comm]
  · intro row member other member' selected selected'
    rw [decide_eq_true_eq] at selected selected'
    exact eq_of_key_eq unique member member' (selected.1.trans selected'.1.symm)

end Same

/-! ## Inserted rows -/

section Inserted

variable {table : List α} {row : α} (owned : α → Prop)

theorem rows_append_of_owned (holds : owned row) :
    {row' | row' ∈ table ++ [row] ∧ owned row'} =
      insert row {row' | row' ∈ table ∧ owned row'} := by
  ext row'
  simp only [Set.mem_ofPred_eq, Set.mem_insert_iff, List.mem_append, List.mem_singleton]
  constructor
  · rintro ⟨old | rfl, here⟩
    · exact .inr ⟨old, here⟩
    · exact .inl rfl
  · rintro (rfl | ⟨old, here⟩)
    · exact ⟨.inr rfl, holds⟩
    · exact ⟨.inl old, here⟩

/-- A key that is in use is not that of a new row. -/
theorem exists_append_iff {κ : Type*} {key : α → κ} {rows : List α}
    (fresh : ∀ row ∈ table, ∀ new ∈ rows, key row ≠ key new) {k : κ}
    (used : ∃ row ∈ table, key row = k) :
    (∃ row ∈ table ++ rows, key row = k ∧ owned row) ↔
      ∃ row ∈ table, key row = k ∧ owned row := by
  obtain ⟨holder, present, holds⟩ := used
  constructor
  · rintro ⟨row, listed, same, here⟩
    rcases List.mem_append.mp listed with old | new
    · exact ⟨row, old, same, here⟩
    · exact absurd (holds.trans same.symm) (fresh holder present row new)
  · rintro ⟨row, old, same, here⟩
    exact ⟨row, List.mem_append_left _ old, same, here⟩

theorem rows_append_of_not_owned (foreign : ¬ owned row) :
    {row' | row' ∈ table ++ [row] ∧ owned row'} = {row' | row' ∈ table ∧ owned row'} := by
  ext row'
  simp only [Set.mem_ofPred_eq, List.mem_append, List.mem_singleton]
  constructor
  · rintro ⟨old | rfl, here⟩
    · exact ⟨old, here⟩
    · exact absurd here foreign
  · rintro ⟨old, here⟩
    exact ⟨.inl old, here⟩

end Inserted

/-! ## Updates of a set of rows -/

section Updated

variable {selects selects' : α → Prop} [DecidablePred selects] [DecidablePred selects']
  {rewrite : α → α} {rows : Set α}

/-- `UPDATE … SET … WHERE …`, on the rows as a set. -/
def updated (selects : α → Prop) [DecidablePred selects] (rewrite : α → α) (rows : Set α) :
    Set α :=
  {row' | ∃ row ∈ rows, row' = if selects row then rewrite row else row}

theorem updated_congr (same : ∀ row ∈ rows, (selects row ↔ selects' row)) :
    updated selects rewrite rows = updated selects' rewrite rows := by
  ext row'
  refine exists_congr fun row => and_congr_right fun member => ?_
  rw [if_congr (same row member) rfl rfl]

theorem updated_eq_self (none : ∀ row ∈ rows, ¬ selects row) :
    updated selects rewrite rows = rows := by
  ext row'
  constructor
  · rintro ⟨row, member, rfl⟩
    rw [if_neg (none row member)]
    exact member
  · intro member
    exact ⟨row', member, (if_neg (none row' member)).symm⟩

end Updated

end Relational
