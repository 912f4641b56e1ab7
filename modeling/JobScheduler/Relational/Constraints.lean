import JobScheduler.Relational.Table

/-!
# Constraints of a schema

A unique index is a column without duplicates, a foreign key a column whose values are keys of
another table. Each kind of write keeps them under its own condition: an insertion when the new
value is free and the new reference is there, an update when it keeps the columns or gives one
row a value that is free, a deletion when the rows that refer to a deleted row go with it.
-/

set_option autoImplicit false

namespace Relational

variable {α β κ ι : Type*}

/-- Every row refers to a row of the other table, `FOREIGN KEY … NOT NULL`. -/
def References (column : α → κ) (key : β → κ) (table : List α) (targets : List β) : Prop :=
  ∀ row ∈ table, ∃ target ∈ targets, key target = column row

/-! ## Unique indexes -/

section Unique

variable {key : α → κ} {table : List α} {row : α}

/-- A row whose value is free can be inserted. -/
theorem nodup_map_append (unique : (table.map key).Nodup)
    (free : ¬ ∃ old ∈ table, key old = key row) : ((table ++ [row]).map key).Nodup := by
  rw [List.map_append, List.nodup_append]
  refine ⟨unique, List.nodup_singleton _, ?_⟩
  rintro _ listed _ new rfl
  obtain ⟨old, member, same⟩ := List.mem_map.mp listed
  exact free ⟨old, member, same.trans (List.mem_singleton.mp new)⟩

/-- The row with a certain primary key can be given a value that no other row has. -/
theorem nodup_map_update_of_free {id : α → ι} {i : ι} {selects : α → Prop}
    [DecidablePred selects] {rewrite : α → α} (ids : (table.map id).Nodup)
    (unique : (table.map key).Nodup) (selected : ∀ row ∈ table, selects row → id row = i)
    (free : ∀ row ∈ table, selects row →
      ¬ ∃ other ∈ table, id other ≠ i ∧ key other = key (rewrite row)) :
    ((update selects rewrite table).map key).Nodup := by
  rw [update, List.map_map]
  refine List.Nodup.map_on ?_ ids.of_map
  intro first firstMember second secondMember same
  simp only [Function.comp_apply] at same
  by_cases firstSelected : selects first <;> by_cases secondSelected : selects second
  · refine eq_of_key_eq ids firstMember secondMember ?_
    rw [selected first firstMember firstSelected, selected second secondMember secondSelected]
  · rw [if_pos firstSelected, if_neg secondSelected] at same
    by_cases here : id second = i
    · refine eq_of_key_eq ids firstMember secondMember ?_
      rw [selected first firstMember firstSelected, here]
    · exact absurd ⟨second, secondMember, here, same.symm⟩ (free first firstMember firstSelected)
  · rw [if_neg firstSelected, if_pos secondSelected] at same
    by_cases here : id first = i
    · refine eq_of_key_eq ids firstMember secondMember ?_
      rw [selected second secondMember secondSelected, here]
    · exact absurd ⟨first, firstMember, here, same⟩ (free second secondMember secondSelected)
  · rw [if_neg firstSelected, if_neg secondSelected] at same
    exact eq_of_key_eq unique firstMember secondMember same

end Unique

/-! ## Conditions on single rows -/

section Rows

variable {holds : α → Prop} {table : List α}

theorem forall_mem_append_singleton {row : α} (all : ∀ old ∈ table, holds old) (new : holds row) :
    ∀ old ∈ table ++ [row], holds old := by
  intro old member
  rcases List.mem_append.mp member with member | member
  · exact all old member
  · rw [List.mem_singleton.mp member]
    exact new

theorem forall_mem_update {selects : α → Prop} [DecidablePred selects] {rewrite : α → α}
    (all : ∀ row ∈ table, holds row)
    (rewritten : ∀ row ∈ table, selects row → holds (rewrite row)) :
    ∀ row ∈ update selects rewrite table, holds row := by
  intro row member
  rcases cases_mem_update member with ⟨member, _⟩ | ⟨old, before, selected, rfl⟩
  · exact all row member
  · exact rewritten old before selected

theorem forall_mem_filter {keep : α → Bool} (all : ∀ row ∈ table, holds row) :
    ∀ row ∈ table.filter keep, holds row :=
  fun row member => all row (List.mem_of_mem_filter member)

end Rows

/-! ## Foreign keys -/

section ForeignKeys

variable {column : α → κ} {key : β → κ} {table : List α} {targets targets' : List β}

namespace References

theorem append {row : α} (refers : References column key table targets)
    (found : ∃ target ∈ targets, key target = column row) :
    References column key (table ++ [row]) targets :=
  forall_mem_append_singleton refers found

theorem update {selects : α → Prop} [DecidablePred selects] {rewrite : α → α}
    (refers : References column key table targets)
    (keeps : ∀ row, column (rewrite row) = column row) :
    References column key (update selects rewrite table) targets :=
  forall_mem_update refers fun row member _ => by
    rw [keeps]
    exact refers row member

theorem filter {keep : α → Bool} (refers : References column key table targets) :
    References column key (table.filter keep) targets :=
  forall_mem_filter refers

/-- The targets are rows with the same keys, and possibly others. -/
theorem targets_mono (refers : References column key table targets)
    (kept : targets.map key ⊆ targets'.map key) : References column key table targets' := by
  intro row member
  obtain ⟨target, listed, same⟩ := refers row member
  obtain ⟨target', listed', same'⟩ := List.mem_map.mp (kept (List.mem_map_of_mem listed))
  exact ⟨target', listed', same'.trans same⟩

theorem targets_append (refers : References column key table targets) (more : List β) :
    References column key table (targets ++ more) :=
  refers.targets_mono (List.map_subset key (List.subset_append_left _ _))

theorem targets_update {selects : β → Prop} [DecidablePred selects] {rewrite : β → β}
    (refers : References column key table targets) (keeps : ∀ row, key (rewrite row) = key row) :
    References column key table (Relational.update selects rewrite targets) :=
  refers.targets_mono (by rw [map_update keeps]; exact fun _ listed => listed)

/-- `ON DELETE CASCADE`: the rows that stay refer to rows that stay. -/
theorem cascade {keep : α → Bool} {keepTarget : β → Bool}
    (refers : References column key table targets)
    (cascades : ∀ row ∈ table, keep row = true → ∀ target ∈ targets, key target = column row →
      keepTarget target = true) :
    References column key (table.filter keep) (targets.filter keepTarget) := by
  intro row member
  obtain ⟨member, kept⟩ := List.mem_filter.mp member
  obtain ⟨target, listed, same⟩ := refers row member
  exact ⟨target, List.mem_filter.mpr ⟨listed, cascades row member kept target listed same⟩, same⟩

end References

end ForeignKeys

end Relational
