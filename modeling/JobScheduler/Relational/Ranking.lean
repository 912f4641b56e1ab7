import JobScheduler.Relational.Table
import Mathlib.Data.List.Sort
import Mathlib.Data.List.Nodup
import Mathlib.Data.List.TakeDrop

/-!
# The first rows of an ordered result

A query with `ORDER BY` and `LIMIT` returns the first rows of a sorted list. Sorting is stable,
so it commutes with a selection (`filter_insertionSort`). The first `n` rows are all selected
exactly when at least `n` selected rows come before each row that is not
(`take_all_selected_iff`), and two limits return the same rows exactly when they cut the list at
the same place (`mem_take_iff_of_nodup`).

Without `ORDER BY` any row may come first (`exists_rank_head?`).
-/

set_option autoImplicit false

namespace Relational

variable {α κ : Type*}

section Sorted

variable (r : α → α → Prop) [DecidableRel r]

/-- Inserting a selected row and selecting commute. -/
theorem filter_orderedInsert [IsTrans α r] (selects : α → Bool) {row : α} {rows : List α}
    (selected : selects row = true) (sorted : rows.Pairwise r) :
    (rows.orderedInsert r row).filter selects = (rows.filter selects).orderedInsert r row := by
  induction rows with
  | nil => simp [selected]
  | cons head tail ih =>
      rw [List.pairwise_cons] at sorted
      by_cases before : r row head
      · rw [List.orderedInsert_cons_of_le r tail before, List.filter_cons_of_pos selected]
        -- the row comes before everything that is left of the list
        have all : ∀ other ∈ (head :: tail).filter selects, r row other := by
          intro other member
          rcases List.mem_cons.mp (List.mem_filter.mp member).1 with rfl | later
          · exact before
          · exact IsTrans.trans _ _ _ before (sorted.1 other later)
        cases kept : (head :: tail).filter selects with
        | nil => rfl
        | cons first rest =>
            rw [kept] at all
            rw [List.orderedInsert_cons_of_le r rest (all first List.mem_cons_self)]
      · rw [List.orderedInsert_of_not_le r tail before]
        cases kept : selects head with
        | true =>
            rw [List.filter_cons_of_pos kept, List.filter_cons_of_pos kept, ih sorted.2,
              List.orderedInsert_of_not_le r _ before]
        | false =>
            rw [List.filter_cons_of_neg (by simp [kept]), List.filter_cons_of_neg (by simp [kept]),
              ih sorted.2]

theorem filter_orderedInsert_of_not (selects : α → Bool) {row : α} (dropped : selects row = false)
    (rows : List α) : (rows.orderedInsert r row).filter selects = rows.filter selects := by
  induction rows with
  | nil => simp [dropped]
  | cons head tail ih =>
      by_cases before : r row head
      · rw [List.orderedInsert_cons_of_le r tail before,
          List.filter_cons_of_neg (by simp [dropped])]
      · rw [List.orderedInsert_of_not_le r tail before, List.filter_cons, List.filter_cons, ih]

/-- Sorting and selecting commute. -/
theorem filter_insertionSort [Std.Total r] [IsTrans α r] (selects : α → Bool) (rows : List α) :
    (rows.insertionSort r).filter selects = (rows.filter selects).insertionSort r := by
  induction rows with
  | nil => rfl
  | cons row rest ih =>
      rw [List.insertionSort_cons]
      cases kept : selects row with
      | true =>
          rw [filter_orderedInsert r selects kept (List.pairwise_insertionSort r rest), ih,
            List.filter_cons_of_pos kept, List.insertionSort_cons]
      | false =>
          rw [filter_orderedInsert_of_not r selects kept, ih,
            List.filter_cons_of_neg (by simp [kept])]

/-- Two orders that agree on the rows sort them in the same way. -/
theorem insertionSort_congr (s : α → α → Prop) [DecidableRel s] {rows : List α}
    (agree : ∀ first ∈ rows, ∀ second ∈ rows, r first second ↔ s first second) :
    rows.insertionSort r = rows.insertionSort s := by
  have sorted := List.map_insertionSort r s id rows agree
  rwa [List.map_id, List.map_id] at sorted

end Sorted

section Prefix

/-- The selected rows of a prefix are a prefix of the selected rows. -/
theorem filter_take (selects : α → Bool) (n : Nat) (rows : List α) :
    (rows.take n).filter selects = (rows.filter selects).take ((rows.take n).countP selects) := by
  conv_rhs => rw [← List.take_append_drop n rows, List.filter_append]
  rw [List.take_append_drop, List.countP_eq_length_filter, List.take_left]

variable {r : α → α → Prop} {selects : α → Bool} {n : Nat} {rows : List α}

/-- The first rows of a sorted list come before the others. -/
theorem rel_take_drop (sorted : rows.Pairwise r) (n : Nat) :
    ∀ first ∈ rows.take n, ∀ second ∈ rows.drop n, r first second := by
  rw [← List.take_append_drop n rows, List.pairwise_append] at sorted
  exact sorted.2.2

/-- The first `n` rows are all selected exactly when `n` selected rows come before each of the
others. A selected row and another one are never tied. -/
theorem take_all_selected_iff [DecidableRel r] (sorted : rows.Pairwise r)
    (untied : ∀ row ∈ rows, ∀ other ∈ rows, selects row = true → selects other = false →
      r row other → ¬ r other row) :
    (∀ row ∈ rows.take n, selects row = true) ↔
      ∀ other ∈ rows, selects other = false →
        n ≤ rows.countP fun row => selects row = true ∧ r row other := by
  have split : rows.take n ++ rows.drop n = rows := List.take_append_drop n rows
  have apart : ∀ first ∈ rows.take n, ∀ second ∈ rows.drop n, r first second :=
    rel_take_drop sorted n
  constructor
  · intro all other member dropped
    have later : other ∈ rows.drop n := by
      rw [← split] at member
      rcases List.mem_append.mp member with early | late
      · rw [all other early] at dropped
        cases dropped
      · exact late
    have cut : (rows.take n).length = n := by
      rw [List.length_take, Nat.min_eq_left]
      have : 0 < (rows.drop n).length := List.length_pos_of_mem later
      rw [List.length_drop] at this
      omega
    have counted : (rows.take n).countP (fun row => selects row = true ∧ r row other) = n := by
      rw [List.countP_eq_length.mpr, cut]
      intro row early
      exact decide_eq_true ⟨all row early, apart row early other later⟩
    calc n = (rows.take n).countP (fun row => selects row = true ∧ r row other) := counted.symm
      _ ≤ rows.countP (fun row => selects row = true ∧ r row other) :=
        (List.take_sublist n rows).countP_le
  · intro outranked row early
    by_contra dropped
    rw [Bool.not_eq_true] at dropped
    have member : row ∈ rows := List.mem_of_mem_take early
    -- what comes before the row stands before it in the prefix
    have none : (rows.drop n).countP (fun other => selects other = true ∧ r other row) = 0 := by
      refine List.countP_eq_zero.mpr fun other late holds => ?_
      have both := of_decide_eq_true holds
      exact untied other (List.mem_of_mem_drop late) row member both.1 dropped both.2
        (apart row early other late)
    have fewer : (rows.take n).countP (fun other => selects other = true ∧ r other row) <
        (rows.take n).length := by
      refine lt_of_le_of_ne List.countP_le_length fun full => ?_
      have holds := of_decide_eq_true (List.countP_eq_length.mp full row early)
      rw [dropped] at holds
      cases holds.1
    have total := outranked row member dropped
    rw [← split, List.countP_append, none] at total
    have short : (rows.take n).length ≤ n := List.length_take_le n rows
    omega

/-- Two limits return the same keys exactly when they cut the rows at the same place. -/
theorem mem_take_iff_of_nodup {key : α → κ} (unique : (rows.map key).Nodup) (m n : Nat) :
    (∀ k, k ∈ (rows.take m).map key ↔ k ∈ (rows.take n).map key) ↔
      min m rows.length = min n rows.length := by
  have keys : ∀ k, ((rows.take k).map key).Nodup := by
    intro k
    exact unique.sublist ((List.take_sublist k rows).map key)
  constructor
  · intro same
    have perm := (List.perm_ext_iff_of_nodup (keys m) (keys n)).mpr same
    have lengths := perm.length_eq
    rwa [List.length_map, List.length_map, List.length_take, List.length_take] at lengths
  · intro same k
    have equal : rows.take m = rows.take n := by
      rw [List.take_eq_take_min, same, ← List.take_eq_take_min]
    rw [equal]

end Prefix

/-! ## The first row of an unordered result -/

section Unordered

variable {rows : List α} {row : α}

theorem mem_of_head?_arrange {rank : α → Nat} (first : (arrange rank rows).head? = some row) :
    row ∈ rows :=
  (arrange_perm rank rows).mem_iff.mp (List.mem_of_mem_head? first)

theorem exists_head?_arrange (rank : α → Nat) (member : row ∈ rows) :
    ∃ first ∈ rows, (arrange rank rows).head? = some first := by
  have listed := (arrange_perm rank rows).mem_iff.mpr member
  cases order : arrange rank rows with
  | nil =>
      rw [order] at listed
      cases listed
  | cons first rest =>
      refine ⟨first, ?_, rfl⟩
      apply (arrange_perm rank rows).mem_iff.mp
      rw [order]
      exact List.mem_cons_self

/-- For every row there is a ranking by identifiers that puts it first. -/
theorem exists_rank_head? (id : α → Nat) (member : row ∈ rows) :
    ∃ (rank : Nat → Nat) (first : α), (arrange (fun r => rank (id r)) rows).head? = some first ∧
      id first = id row := by
  let rank : Nat → Nat := fun n => if n = id row then 0 else 1
  obtain ⟨first, _, order⟩ := exists_head?_arrange (fun r => rank (id r)) member
  refine ⟨rank, first, order, ?_⟩
  have sorted : (arrange (fun r => rank (id r)) rows).Pairwise
      fun first second => rank (id first) ≤ rank (id second) := by
    apply List.pairwise_insertionSort
  obtain ⟨rest, whole⟩ := List.head?_eq_some_iff.mp order
  have listed := (arrange_perm (fun r => rank (id r)) rows).mem_iff.mpr member
  rw [whole] at sorted listed
  rcases List.mem_cons.mp listed with same | later
  · rw [same]
  · have least := (List.pairwise_cons.mp sorted).1 row later
    simpa [rank] using least

end Unordered

end Relational
