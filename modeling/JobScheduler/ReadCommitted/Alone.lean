import JobScheduler.ReadCommitted.Versions

/-!
# A transaction alone

When no other transaction has a draft, nothing is waited for and nothing changes under a
statement: each row it selected in its snapshot is still there when it comes to it. So the
statement takes exactly the rows it selected, and what the transaction sees in the end, and what
its commit publishes, is the table with these rows replaced. After its end nothing is locked.
-/

set_option autoImplicit false

namespace ReadCommitted

open Relational

namespace Versions

variable {κ α : Type} [DecidableEq κ] {key : α → κ} {table : Versions κ α} {tx : Nat}
  {version : α → Option α} {taken : List α} {row : α}

/-- One transaction has drafts of these rows, in this order, and there are no others. -/
structure Alone (key : α → κ) (table : Versions κ α) (tx : Nat) (version : α → Option α)
    (taken : List α) : Prop where
  unique : (table.rows.map key).Nodup
  present : ∀ row ∈ taken, row ∈ table.rows
  drafts : table.drafts = (taken.map fun row => ⟨tx, key row, version row⟩).reverse

omit [DecidableEq κ] in
/-- Before its first draft. -/
theorem Alone.start (unique : (table.rows.map key).Nodup) (free : table.drafts = []) :
    Alone key table tx version [] where
  unique := unique
  present _ member := by cases member
  drafts := free

omit [DecidableEq κ] in
theorem Alone.mem_drafts (alone : Alone key table tx version taken) {draft : Draft κ α}
    (member : draft ∈ table.drafts) :
    ∃ row ∈ taken, draft = ⟨tx, key row, version row⟩ := by
  rw [alone.drafts, List.mem_reverse] at member
  obtain ⟨row, rowMember, same⟩ := List.mem_map.mp member
  exact ⟨row, rowMember, same.symm⟩

omit [DecidableEq κ] in
/-- A key that was not taken has no draft. -/
theorem Alone.free (alone : Alone key table tx version taken) {k : κ} (other : k ∉ taken.map key) :
    ∀ draft ∈ table.drafts, draft.key ≠ k := by
  rintro draft member rfl
  obtain ⟨row, rowMember, rfl⟩ := alone.mem_drafts member
  exact other (List.mem_map_of_mem rowMember)

omit [DecidableEq κ] in
theorem Alone.unlocked (alone : Alone key table tx version taken) (k : κ) :
    ¬ table.LockedByOther tx k := by
  rintro ⟨draft, member, _, different⟩
  obtain ⟨row, _, rfl⟩ := alone.mem_drafts member
  exact different rfl

omit [DecidableEq κ] in
/-- A statement that goes through its rows has not taken the next one. -/
theorem key_not_mem_taken {rest : List α} (unique : ((taken ++ row :: rest).map key).Nodup) :
    key row ∉ taken.map key := by
  rw [List.map_append, List.map_cons, List.nodup_append] at unique
  intro listed
  exact unique.2.2 _ listed _ List.mem_cons_self rfl

/-- **The row is still as it was in the snapshot.** -/
theorem Alone.handle (alone : Alone key table tx version taken) (statement : Statement α)
    (member : row ∈ table.rows) (other : key row ∉ taken.map key)
    (selected : statement.selects row = true) :
    table.handle key statement tx (key row) = .takes row := by
  have undrafted : table.draftOf tx (key row) = none :=
    draftOf_eq_none fun draft draftMember _ => alone.free other draft draftMember
  have newest : table.newest key tx (key row) = some row := by
    rw [Versions.newest, undrafted]
    exact find?_key_eq alone.unique member
  rw [Versions.handle, if_neg (alone.unlocked _), newest]
  exact if_pos selected

/-- The transaction takes one more row. -/
theorem Alone.write (alone : Alone key table tx version taken) (member : row ∈ table.rows)
    (other : key row ∉ taken.map key) :
    Alone key (table.write tx (key row) (version row)) tx version (taken ++ [row]) where
  unique := alone.unique
  present := by
    intro row' member'
    rcases List.mem_append.mp member' with old | new
    · exact alone.present row' old
    · rw [List.mem_singleton] at new
      rw [new]
      exact member
  drafts := by
    have kept : (table.drafts.filter fun draft => ¬ (draft.tx = tx ∧ draft.key = key row)) =
        table.drafts := by
      rw [List.filter_eq_self]
      intro draft draftMember
      simp [alone.free other draft draftMember]
    simp only [Versions.write]
    rw [kept, alone.drafts]
    simp

/-! ## What it sees -/

/-- The drafts of the transaction. -/
theorem Alone.draftOf (alone : Alone key table tx version taken) (member : row ∈ table.rows) :
    table.draftOf tx (key row) =
      if key row ∈ taken.map key then some ⟨tx, key row, version row⟩ else none := by
  split
  next listed =>
    obtain ⟨other, otherMember, same⟩ := List.mem_map.mp listed
    obtain rfl := eq_of_key_eq alone.unique (alone.present other otherMember) member same
    cases found : table.draftOf tx (key other) with
    | none =>
        have drafted : (⟨tx, key other, version other⟩ : Draft κ α) ∈ table.drafts := by
          rw [alone.drafts, List.mem_reverse]
          exact List.mem_map_of_mem otherMember
        have missing := List.find?_eq_none.mp found _ drafted
        simp at missing
    | some draft =>
        obtain ⟨draftMember, _, ownKey⟩ := mem_of_draftOf found
        obtain ⟨row, rowMember, rfl⟩ := alone.mem_drafts draftMember
        rw [eq_of_key_eq alone.unique (alone.present row rowMember) member ownKey]
  next unlisted =>
    exact draftOf_eq_none fun draft draftMember _ => alone.free unlisted draft draftMember

/-- **The table with the taken rows replaced.** -/
theorem Alone.seenBy (alone : Alone key table tx version taken) :
    table.seenBy key tx =
      table.rows.filterMap fun row =>
        if key row ∈ taken.map key then version row else some row := by
  have inserted : (table.drafts.filter fun draft =>
      draft.tx = tx ∧ ∀ row ∈ table.rows, key row ≠ draft.key) = [] := by
    rw [List.filter_eq_nil_iff]
    intro draft draftMember new
    obtain ⟨row, rowMember, rfl⟩ := alone.mem_drafts draftMember
    rw [decide_eq_true_eq] at new
    exact new.2 row (alone.present row rowMember) rfl
  unfold Versions.seenBy
  rw [inserted, List.filterMap_nil, List.append_nil]
  refine List.filterMap_congr fun row member => ?_
  rw [alone.draftOf member]
  split
  next found =>
    split at found
    next listed =>
      cases found
      rw [if_pos listed]
    · cases found
  next found =>
    split at found
    · cases found
    next unlisted => rw [if_neg unlisted]

/-- Rows that are rewritten stay in their places. -/
theorem Alone.seenBy_update {rewrite : α → α}
    (alone : Alone key table tx (fun row => some (rewrite row)) taken) :
    table.seenBy key tx = update (fun row => key row ∈ taken.map key) rewrite table.rows := by
  have replaced : (fun row => if key row ∈ taken.map key then some (rewrite row) else some row) =
      some ∘ fun row => if key row ∈ taken.map key then rewrite row else row := by
    funext row
    simp only [Function.comp_apply]
    split <;> rfl
  rw [alone.seenBy, replaced, List.filterMap_eq_map]
  rfl

/-- Rows that are deleted are gone. -/
theorem Alone.seenBy_delete (alone : Alone key table tx (fun _ => none) taken) :
    table.seenBy key tx = table.rows.filter fun row => key row ∉ taken.map key := by
  rw [alone.seenBy, ← List.filterMap_eq_filter]
  refine List.filterMap_congr fun row _ => ?_
  by_cases listed : key row ∈ taken.map key
  · simp [listed, Option.guard]
  · simp [listed, Option.guard]

/-- Without drafts the rows are seen as they were committed. -/
theorem seenBy_of_free (free : table.drafts = []) : table.seenBy key tx = table.rows := by
  unfold Versions.seenBy Versions.draftOf
  rw [free]
  simp

/-- A row that is inserted comes last. -/
theorem seenBy_insert {k : κ} (free : table.drafts = []) (new : ∀ row ∈ table.rows, key row ≠ k) :
    (table.write tx k (some row)).seenBy key tx = table.rows ++ [row] := by
  unfold Versions.seenBy Versions.write Versions.draftOf
  rw [free]
  have kept : ∀ old ∈ table.rows, ([(⟨tx, k, some row⟩ : Draft κ α)].find? fun draft =>
      draft.tx = tx ∧ draft.key = key old) = none := by
    intro old member
    simp [Ne.symm (new old member)]
  have inserted : ([(⟨tx, k, some row⟩ : Draft κ α)].filter fun draft =>
      draft.tx = tx ∧ ∀ old ∈ table.rows, key old ≠ draft.key) = [⟨tx, k, some row⟩] := by
    simp only [List.filter_cons, true_and]
    rw [if_pos (decide_eq_true new)]
    rfl
  simp only [List.filter_nil]
  rw [inserted]
  congr 1
  conv_rhs => rw [← List.filterMap_some (l := table.rows)]
  refine List.filterMap_congr fun old member => ?_
  rw [kept old member]

theorem newest_of_free (free : table.drafts = []) (k : κ) :
    table.newest key tx k = table.rows.find? (key · = k) := by
  unfold Versions.newest Versions.draftOf
  rw [free]
  rfl

/-- A row that is drafted as it is. -/
theorem seenBy_lock (unique : (table.rows.map key).Nodup) (free : table.drafts = [])
    (member : row ∈ table.rows) :
    (table.write tx (key row) (some row)).seenBy key tx = table.rows := by
  have alone : Alone key (table.write tx (key row) (some row)) tx (fun row => some (id row))
      [row] := (Alone.start unique free).write member (by simp)
  rw [alone.seenBy_update]
  simp [update, Versions.write]

/-! ## All drafts are its own -/

/-- The table is sound and only this transaction has drafts. -/
structure Sole (key : α → κ) (table : Versions κ α) (tx : Nat) : Prop where
  sound : table.Sound key
  own : ∀ draft ∈ table.drafts, draft.tx = tx

omit [DecidableEq κ] in
theorem Sole.start (sound : table.Sound key) (free : table.drafts = []) : Sole key table tx := by
  refine ⟨sound, ?_⟩
  rw [free]
  intro draft member
  cases member

theorem Sole.write (sole : Sole key table tx) {k : κ} {version : Option α}
    (keeps : ∀ row, version = some row → key row = k) :
    Sole key (table.write tx k version) tx where
  sound := by
    refine sole.sound.write ?_ keeps
    rintro ⟨draft, member, _, different⟩
    exact different (sole.own draft member)
  own := by
    intro draft member
    rcases cases_drafts_write member with rfl | ⟨old, _⟩
    · rfl
    · exact sole.own draft old

omit [DecidableEq κ] in
/-- Nothing is locked after its end. -/
theorem Sole.release (sole : Sole key table tx) : table.release tx = [] := by
  refine List.eq_nil_iff_forall_not_mem.mpr fun draft member => ?_
  obtain ⟨old, other⟩ := of_mem_release member
  exact other (sole.own draft old)

end Versions

end ReadCommitted
