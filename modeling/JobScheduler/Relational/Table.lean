import Mathlib.Data.List.Nodup
import Mathlib.Data.List.Sort
import Mathlib.Data.List.Count

/-!
# Tables as lists of rows

A table is the list of its rows. An update rewrites the rows its condition
selects and keeps the others in place, a deletion filters, an insertion appends.
A primary key is a column without duplicates; the operations below keep it when
they keep the key of each row.

A result set without an `ORDER BY` comes in an order the server chooses. It is
modelled by a ranking the caller supplies: `arrange rank` lists the rows by rank,
and every order of a duplicate-free result is the order of some ranking.
-/

set_option autoImplicit false

namespace Relational

variable {α κ : Type*}

/-! ## Updates -/

/-- Rewrite the rows that satisfy the condition. -/
def update (selects : α → Prop) [DecidablePred selects] (rewrite : α → α)
    (table : List α) : List α :=
  table.map fun row => if selects row then rewrite row else row

section Update

variable {selects : α → Prop} [DecidablePred selects] {rewrite : α → α} {table : List α}

/-- Every row after an update is an old row, rewritten exactly when the condition
selects it. -/
theorem mem_update {row : α} :
    row ∈ update selects rewrite table ↔
      ∃ old ∈ table, row = if selects old then rewrite old else old := by
  simp only [update, List.mem_map]
  constructor
  · rintro ⟨old, member, rfl⟩
    exact ⟨old, member, rfl⟩
  · rintro ⟨old, member, rfl⟩
    exact ⟨old, member, rfl⟩

/-- A row after an update is an untouched row or a rewritten selected one. -/
theorem cases_mem_update {row : α} (member : row ∈ update selects rewrite table) :
    (row ∈ table ∧ ¬ selects row) ∨ ∃ old ∈ table, selects old ∧ row = rewrite old := by
  obtain ⟨old, oldMember, rfl⟩ := mem_update.mp member
  by_cases selected : selects old
  · exact .inr ⟨old, oldMember, selected, if_pos selected⟩
  · rw [if_neg selected]
    exact .inl ⟨oldMember, selected⟩

theorem mem_update_of_selects {row : α} (member : row ∈ table) (selected : selects row) :
    rewrite row ∈ update selects rewrite table :=
  mem_update.mpr ⟨row, member, (if_pos selected).symm⟩

/-- An update that keeps a column leaves the list of its values unchanged. -/
theorem map_update {column : α → κ} (keeps : ∀ row, column (rewrite row) = column row) :
    (update selects rewrite table).map column = table.map column := by
  simp only [update, List.map_map]
  refine List.map_congr_left fun row _ => ?_
  simp only [Function.comp_apply]
  split
  · exact keeps row
  · rfl

/-- A lookup by what an update keeps finds the same row, rewritten when it is selected. -/
theorem find?_update {holds : α → Bool} (keeps : ∀ row, holds (rewrite row) = holds row) :
    (update selects rewrite table).find? holds =
      (table.find? holds).map fun row => if selects row then rewrite row else row := by
  have same : holds ∘ (fun row => if selects row then rewrite row else row) = holds := by
    funext row
    simp only [Function.comp_apply]
    split
    · exact keeps row
    · rfl
  rw [update, List.find?_map, same]

/-- An update that selects no row changes nothing. -/
theorem update_eq_self (none : ∀ row ∈ table, ¬ selects row) :
    update selects rewrite table = table := by
  simp only [update]
  conv_rhs => rw [← List.map_id table]
  refine List.map_congr_left fun row member => ?_
  rw [if_neg (none row member), id]

/-- The rows with a property that the rewriting does not touch. -/
theorem mem_update_and (owned : α → Prop) (keeps : ∀ row, owned (rewrite row) ↔ owned row)
    {row' : α} : row' ∈ update selects rewrite table ∧ owned row' ↔
      ∃ row, (row ∈ table ∧ owned row) ∧ row' = if selects row then rewrite row else row := by
  rw [mem_update]
  constructor
  · rintro ⟨⟨row, member, rfl⟩, holds⟩
    refine ⟨row, ⟨member, ?_⟩, rfl⟩
    split at holds
    · exact (keeps row).mp holds
    · exact holds
  · rintro ⟨row, ⟨member, holds⟩, rfl⟩
    refine ⟨⟨row, member, rfl⟩, ?_⟩
    split
    · exact (keeps row).mpr holds
    · exact holds

/-- Whether some row has such a property. -/
theorem exists_mem_update_iff (owned : α → Prop)
    (keeps : ∀ row, owned (rewrite row) ↔ owned row) :
    (∃ row ∈ update selects rewrite table, owned row) ↔ ∃ row ∈ table, owned row := by
  constructor
  · rintro ⟨row', both⟩
    obtain ⟨row, before, _⟩ := (mem_update_and owned keeps).mp both
    exact ⟨row, before⟩
  · rintro ⟨row, before⟩
    exact ⟨_, (mem_update_and owned keeps).mpr ⟨row, before, rfl⟩⟩

/-- An update adds at most the rows it selects to those that satisfy a condition. -/
theorem countP_update_le (holds : α → Bool) :
    (update selects rewrite table).countP holds ≤
      table.countP holds + table.countP fun row => selects row := by
  induction table with
  | nil => exact le_rfl
  | cons row rest ih =>
      have step : update selects rewrite (row :: rest) =
          (if selects row then rewrite row else row) :: update selects rewrite rest := rfl
      rw [step, List.countP_cons, List.countP_cons, List.countP_cons]
      by_cases selected : selects row
      · simp only [selected, if_true, decide_true]
        split <;> split <;> omega
      · simp only [selected, if_false, decide_false]
        split <;> simp <;> omega

end Update

/-! ## Keys -/

/-- Two rows with the same primary key are the same row. -/
theorem eq_of_key_eq {key : α → κ} {table : List α} (unique : (table.map key).Nodup)
    {first second : α} (firstMember : first ∈ table) (secondMember : second ∈ table)
    (same : key first = key second) : first = second :=
  List.inj_on_of_nodup_map unique firstMember secondMember same

/-- An update that keeps the key keeps it duplicate-free. -/
theorem nodup_map_update {key : α → κ} {selects : α → Prop} [DecidablePred selects]
    {rewrite : α → α} {table : List α} (keeps : ∀ row, key (rewrite row) = key row)
    (unique : (table.map key).Nodup) : ((update selects rewrite table).map key).Nodup := by
  rw [map_update keeps]
  exact unique

/-- The keys of a sublist of the rows stay duplicate-free. -/
theorem nodup_map_filter {key : α → κ} {table : List α} (unique : (table.map key).Nodup)
    (keep : α → Bool) : ((table.filter keep).map key).Nodup :=
  unique.sublist (List.filter_sublist.map key)

/-- Rows that are dropped or replaced under the same key keep it duplicate-free. -/
theorem nodup_map_filterMap {β : Type*} {key : α → κ} {key' : β → κ} {f : α → Option β}
    {table : List α} (unique : (table.map key).Nodup)
    (keeps : ∀ row ∈ table, ∀ value, f row = some value → key' value = key row) :
    ((table.filterMap f).map key').Nodup := by
  induction table with
  | nil => exact List.nodup_nil
  | cons row rest ih =>
      rw [List.map_cons, List.nodup_cons] at unique
      have tail := ih unique.2 fun other member => keeps other (List.mem_cons_of_mem _ member)
      cases result : f row with
      | none =>
          rw [List.filterMap_cons_none result]
          exact tail
      | some value =>
          rw [List.filterMap_cons_some result, List.map_cons, List.nodup_cons]
          refine ⟨?_, tail⟩
          rw [keeps row List.mem_cons_self value result]
          intro listed
          obtain ⟨other, otherMember, same⟩ := List.mem_map.mp listed
          obtain ⟨old, oldMember, oldResult⟩ := List.mem_filterMap.mp otherMember
          apply unique.1
          rw [← same, keeps old (List.mem_cons_of_mem _ oldMember) other oldResult]
          exact List.mem_map_of_mem oldMember

/-- A primary key selects at most one row. -/
theorem filter_key_eq_singleton [DecidableEq κ] {key : α → κ} {table : List α}
    (unique : (table.map key).Nodup) {row : α} (member : row ∈ table) :
    table.filter (fun other => key other = key row) = [row] := by
  induction table with
  | nil => cases member
  | cons head tail ih =>
      rw [List.map_cons, List.nodup_cons] at unique
      obtain ⟨absent, unique⟩ := unique
      rcases List.mem_cons.mp member with rfl | member
      · have rest : tail.filter (fun other => key other = key row) = [] := by
          refine List.filter_eq_nil_iff.mpr fun other otherMember same => ?_
          rw [decide_eq_true_eq] at same
          rw [← same] at absent
          exact absent (List.mem_map_of_mem otherMember)
        rw [List.filter_cons, rest]
        simp
      · have different : key head ≠ key row := by
          intro same
          rw [same] at absent
          exact absent (List.mem_map_of_mem member)
        rw [List.filter_cons, ih unique member]
        simp [different]

/-- A lookup by primary key finds the row with that key. -/
theorem find?_key_eq [DecidableEq κ] {key : α → κ} {table : List α}
    (unique : (table.map key).Nodup) {row : α} (member : row ∈ table) :
    table.find? (fun other => key other = key row) = some row := by
  rw [← List.head?_filter, filter_key_eq_singleton unique member]
  rfl

/-- The same among the rows with a property that the row has. -/
theorem find?_key_and_eq [DecidableEq κ] {key : α → κ} {table : List α}
    (unique : (table.map key).Nodup) {row : α} (member : row ∈ table) {owned : α → Prop}
    [DecidablePred owned] (holds : owned row) :
    table.find? (fun other => key other = key row ∧ owned other) = some row := by
  cases found : table.find? fun other => key other = key row ∧ owned other with
  | none => exact absurd (decide_eq_true ⟨rfl, holds⟩) (List.find?_eq_none.mp found row member)
  | some other =>
      have same := List.find?_some found
      rw [decide_eq_true_eq] at same
      rw [eq_of_key_eq unique (List.mem_of_find?_eq_some found) member same.1]

/-- At most one row for each of the given keys. -/
theorem countP_key_mem_le [DecidableEq κ] {key : α → κ} {table : List α}
    (unique : (table.map key).Nodup) (keys : List κ) :
    (table.countP fun row => key row ∈ keys) ≤ keys.length := by
  rw [List.countP_eq_length_filter, ← List.length_map (f := key)]
  refine (List.subperm_of_subset (nodup_map_filter unique _) ?_).length_le
  intro value member
  obtain ⟨row, selected, rfl⟩ := List.mem_map.mp member
  exact of_decide_eq_true (List.mem_filter.mp selected).2

/-- If every row of the new table that satisfies a condition had its key in the old table
on a row that satisfied it, no more rows satisfy it than before. -/
theorem countP_le_of_key {key : α → κ} {table table' : List α}
    (unique : (table'.map key).Nodup) (holds : α → Bool)
    (before : ∀ row' ∈ table', holds row' → ∃ row ∈ table, holds row ∧ key row = key row') :
    table'.countP holds ≤ table.countP holds := by
  have keys : (table'.filter holds).map key ⊆ (table.filter holds).map key := by
    intro value member
    obtain ⟨row', selected, rfl⟩ := List.mem_map.mp member
    obtain ⟨member', holds'⟩ := List.mem_filter.mp selected
    obtain ⟨row, rowMember, rowHolds, same⟩ := before row' member' holds'
    rw [← same]
    exact List.mem_map_of_mem (List.mem_filter.mpr ⟨rowMember, rowHolds⟩)
  have fewer := (List.subperm_of_subset (nodup_map_filter unique _) keys).length_le
  rw [List.length_map, List.length_map] at fewer
  rw [List.countP_eq_length_filter, List.countP_eq_length_filter]
  exact fewer

/-! ## Unique indexes -/

/-- Two rows with the same value in a unique index are the same row. -/
theorem eq_of_index_eq {index : α → Option κ} {table : List α}
    (unique : (table.filterMap index).Nodup) {first second : α} (firstMember : first ∈ table)
    (secondMember : second ∈ table) {value : κ} (firstValue : index first = some value)
    (secondValue : index second = some value) : first = second := by
  induction table with
  | nil => cases firstMember
  | cons row rest ih =>
      have listed : ∀ other ∈ rest, index other = some value →
          value ∈ rest.filterMap index := by
        intro other member found
        exact List.mem_filterMap.mpr ⟨other, member, found⟩
      rcases List.mem_cons.mp firstMember with rfl | firstRest
      · rcases List.mem_cons.mp secondMember with rfl | secondRest
        · rfl
        · rw [List.filterMap_cons_some firstValue, List.nodup_cons] at unique
          exact absurd (listed second secondRest secondValue) unique.1
      · rcases List.mem_cons.mp secondMember with rfl | secondRest
        · rw [List.filterMap_cons_some secondValue, List.nodup_cons] at unique
          exact absurd (listed first firstRest firstValue) unique.1
        · refine ih (unique.sublist ?_) firstRest secondRest
          exact (List.sublist_cons_self row rest).filterMap index

/-- What a list of parties contributes when one of them contributes for the first time. -/
theorem flatMap_set_perm {f : α → List κ} {l : List α} {i : Nat} {a : α} (a' : α)
    (found : l[i]? = some a) (nothing : f a = []) :
    ((l.set i a').flatMap f).Perm (l.flatMap f ++ f a') := by
  induction l generalizing i with
  | nil => cases found
  | cons head tail ih =>
      cases i with
      | zero =>
          cases found
          rw [List.set_cons_zero, List.flatMap_cons, List.flatMap_cons, nothing]
          exact List.perm_append_comm
      | succ i =>
          rw [List.set_cons_succ, List.flatMap_cons, List.flatMap_cons, List.append_assoc]
          exact (ih found).append_left _

/-! ## Result sets in an order the server chooses -/

/-- The rows listed by rank. -/
def arrange (rank : α → Nat) (rows : List α) : List α :=
  rows.insertionSort fun first second => rank first ≤ rank second

theorem arrange_perm (rank : α → Nat) (rows : List α) : (arrange rank rows).Perm rows :=
  List.perm_insertionSort _ rows

end Relational
