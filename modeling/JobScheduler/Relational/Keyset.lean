import Mathlib.Data.List.Sort
import Mathlib.Data.List.Nodup
import Mathlib.Order.Defs.LinearOrder

/-!
# Keyset pagination

A client fetches pages one after the other. Each response carries some rows and, unless it is the
last one, a cursor that the client passes on with its next request. The table may change between
two requests.

A server that lists the rows in the order of a key, starts after the cursor, and hands out the key
of the last row as the cursor serves such a client well. Whatever happens to the table, the keys
that the client receives increase (`visit_sorted`) and a key that is there all the time is
received (`visit_complete`). The client comes to an end once no new keys appear (`visit_ends`), and
if the table does not change it has received the sorted rows (`visit_unchanging`).
-/

set_option autoImplicit false

namespace Relational

variable {α γ κ : Type*}

/-! ## Clients -/

section Clients

variable (fetch : Nat → γ → List α × Option γ)

/-- The responses to the first `n` requests of a client, from the `i`-th request of all on. -/
def visit : Nat → Nat → γ → List (List α × Option γ)
  | 0, _, _ => []
  | n + 1, i, cursor => fetch i cursor ::
      match (fetch i cursor).2 with
      | none => []
      | some next => visit n (i + 1) next

/-- The client has seen the last page. -/
def Ends (responses : List (List α × Option γ)) : Prop :=
  ∃ response ∈ responses, response.2 = none

/-- The rows the client has received. -/
def received (responses : List (List α × Option γ)) : List α := responses.flatMap (·.1)

variable {fetch} {n i : Nat} {cursor next : γ}

theorem visit_last (last : (fetch i cursor).2 = none) :
    visit fetch (n + 1) i cursor = [fetch i cursor] := by
  simp [visit, last]

theorem visit_next (more : (fetch i cursor).2 = some next) :
    visit fetch (n + 1) i cursor = fetch i cursor :: visit fetch n (i + 1) next := by
  simp [visit, more]

/-- Every response answers some request. -/
theorem exists_of_mem_visit {response : List α × Option γ}
    (member : response ∈ visit fetch n i cursor) :
    ∃ j cursor', response = fetch j cursor' := by
  induction n generalizing i cursor with
  | zero => cases member
  | succ n ih =>
      unfold visit at member
      rcases List.mem_cons.mp member with rfl | later
      · exact ⟨i, cursor, rfl⟩
      · split at later
        · cases later
        · exact ih later

theorem ends_cons {response : List α × Option γ} {responses : List (List α × Option γ)}
    (more : response.2 = some next) : Ends (response :: responses) ↔ Ends responses := by
  simp [Ends, more]

theorem ends_singleton {response : List α × Option γ} (last : response.2 = none) :
    Ends [response] :=
  ⟨response, List.mem_singleton_self response, last⟩

theorem ends_of_last (last : (fetch i cursor).2 = none) : Ends (visit fetch 1 i cursor) := by
  rw [visit_last last]
  exact ends_singleton last

theorem ends_of_next (more : (fetch i cursor).2 = some next)
    (ends : Ends (visit fetch n (i + 1) next)) : Ends (visit fetch (n + 1) i cursor) := by
  rw [visit_next more, ends_cons more]
  exact ends

@[simp] theorem received_nil : received ([] : List (List α × Option γ)) = [] := rfl

@[simp] theorem received_cons (response : List α × Option γ)
    (responses : List (List α × Option γ)) :
    received (response :: responses) = response.1 ++ received responses := rfl

/-- Two clients with different cursors receive the same rows if their cursors stand for the same
place in the listing. -/
theorem visit_map {δ : Type*} {fetch' : Nat → δ → List α × Option δ} (encode : δ → γ)
    (same : ∀ i cursor, fetch i (encode cursor) =
      ((fetch' i cursor).1, (fetch' i cursor).2.map encode)) (n i : Nat) (cursor : δ) :
    visit fetch n i (encode cursor) =
      (visit fetch' n i cursor).map fun response => (response.1, response.2.map encode) := by
  induction n generalizing i cursor with
  | zero => rfl
  | succ n ih =>
      cases more : (fetch' i cursor).2 with
      | none =>
          have last : (fetch i (encode cursor)).2 = none := by simp [same, more]
          rw [visit_last last, visit_last more, List.map_singleton, same]
      | some next =>
          have more' : (fetch i (encode cursor)).2 = some (encode next) := by simp [same, more]
          rw [visit_next more', visit_next more, List.map_cons, ih, same]

section Map

variable {δ : Type*} (encode : δ → γ) (responses : List (List α × Option δ))

theorem ends_map :
    Ends (responses.map fun response => (response.1, response.2.map encode)) ↔
      Ends responses := by
  simp [Ends]

theorem received_map :
    received (responses.map fun response => (response.1, response.2.map encode)) =
      received responses := by
  simp [received, List.flatMap_map]

end Map

end Clients

/-! ## Keyset pages -/

section Keyset

variable [LinearOrder κ]

/-- The key comes after the cursor, if there is one. -/
def Past (cursor : Option κ) (k : κ) : Prop := ∀ last ∈ cursor, last < k

instance (cursor : Option κ) (k : κ) : Decidable (Past cursor k) :=
  match cursor with
  | none => isTrue fun _ member => by cases member
  | some last => decidable_of_iff (last < k) (by simp [Past])

variable (key : α → κ)

/-- The rows with a key after the cursor, in the order of the key. -/
def keysetRows (matching : α → Bool) (cursor : Option κ) (table : List α) : List α :=
  (table.filter fun row => matching row && decide (Past cursor (key row))).insertionSort
    (key · ≤ key ·)

/-- The first rows, with the key of the last of them if there are more. -/
def keysetFetch (limit : Nat) (rows : List α) : List α × Option (Option κ) :=
  if limit < rows.length then (rows.take limit, some ((rows.take limit).getLast?.map key))
  else (rows, none)

/-- The responses to keyset requests on a changing table. -/
def keysetRequests (limit : Nat) (tables : Nat → List α) (matching : Nat → α → Bool) (i : Nat)
    (cursor : Option κ) : List α × Option (Option κ) :=
  keysetFetch key limit (keysetRows key (matching i) cursor (tables i))

variable {key}

theorem mem_keysetRows {matching : α → Bool} {cursor : Option κ} {table : List α} {row : α} :
    row ∈ keysetRows key matching cursor table ↔
      row ∈ table ∧ matching row = true ∧ Past cursor (key row) := by
  simp [keysetRows]

theorem Past.trans {cursor : Option κ} {first second : κ} (past : Past cursor first)
    (order : first ≤ second) : Past cursor second :=
  fun last member => (past last member).trans_le order

/-- With unique keys the rows of a request come in strictly increasing order. -/
theorem keysetRows_sorted (matching : α → Bool) (cursor : Option κ) {table : List α}
    (unique : (table.map key).Nodup) :
    (keysetRows key matching cursor table).Pairwise (key · < key ·) := by
  have sorted : (keysetRows key matching cursor table).Pairwise (key · ≤ key ·) :=
    List.pairwise_insertionSort _ _
  have perm : (keysetRows key matching cursor table).Perm
      (table.filter fun row => matching row && decide (Past cursor (key row))) :=
    List.perm_insertionSort _ _
  have different : (keysetRows key matching cursor table).Pairwise (key · ≠ key ·) := by
    have keys : ((keysetRows key matching cursor table).map key).Nodup := by
      rw [(perm.map key).nodup_iff]
      exact unique.sublist (List.filter_sublist.map key)
    exact List.pairwise_map.mp keys
  exact sorted.imp₂ (fun _ _ order apart => lt_of_le_of_ne order apart) different

/-- What a response can be: all the rows that are left, or a full page that ends with the row
whose key is the cursor. -/
theorem keysetFetch_cases {limit : Nat} (positive : 0 < limit) {rows : List α}
    (sorted : rows.Pairwise (key · < key ·)) :
    keysetFetch key limit rows = (rows, none) ∨
      ∃ page rest last, rows = page ++ rest ∧ page.length = limit ∧ last ∈ page ∧
        keysetFetch key limit rows = (page, some (some (key last))) ∧
        (∀ row ∈ page, key row ≤ key last) ∧ ∀ row ∈ rest, key last < key row := by
  unfold keysetFetch
  split
  next more =>
    have full : (rows.take limit).length = limit := by
      rw [List.length_take]
      omega
    have nonempty : rows.take limit ≠ [] := by
      intro empty
      rw [empty, List.length_nil] at full
      omega
    have split : rows.take limit ++ rows.drop limit = rows := List.take_append_drop limit rows
    have last := List.getLast_mem nonempty
    rw [← split, List.pairwise_append] at sorted
    refine .inr ⟨rows.take limit, rows.drop limit, (rows.take limit).getLast nonempty, split.symm,
      full, last, ?_, ?_, ?_⟩
    · rw [List.getLast?_eq_some_getLast nonempty, Option.map_some]
    · intro row member
      have front := List.dropLast_append_getLast nonempty
      have order := sorted.1
      rw [← front] at member order
      rw [List.pairwise_append] at order
      rcases List.mem_append.mp member with early | here
      · exact (order.2.2 row early _ (List.mem_singleton_self _)).le
      · exact (congrArg key (List.mem_singleton.mp here)).le
    · intro row later
      exact sorted.2.2 _ last row later
  · exact .inl rfl

/-! ## What a client receives -/

variable {limit : Nat} {tables : Nat → List α} (matching : Nat → α → Bool)

/-- What a client may get from one request: the rest of the rows, or a full page and the key
from which to go on. -/
theorem keysetRequests_cases (positive : 0 < limit) (unique : ∀ i, ((tables i).map key).Nodup)
    (i : Nat) (cursor : Option κ) :
    keysetRequests key limit tables matching i cursor =
        (keysetRows key (matching i) cursor (tables i), none) ∨
      ∃ page rest last, keysetRows key (matching i) cursor (tables i) = page ++ rest ∧
        page.length = limit ∧ last ∈ page ∧
        keysetRequests key limit tables matching i cursor = (page, some (some (key last))) ∧
        (∀ row ∈ page, key row ≤ key last) ∧ ∀ row ∈ rest, key last < key row :=
  keysetFetch_cases positive (keysetRows_sorted (matching i) cursor (unique i))

variable {matching}

/-- A page is within the limit. -/
theorem length_le_of_mem_visit {n i : Nat} {cursor : Option κ}
    {response : List α × Option (Option κ)}
    (member : response ∈ visit (keysetRequests key limit tables matching) n i cursor) :
    response.1.length ≤ limit := by
  induction n generalizing i cursor with
  | zero => cases member
  | succ n ih =>
      have short : (keysetRequests key limit tables matching i cursor).1.length ≤ limit := by
        unfold keysetRequests keysetFetch
        split
        · exact List.length_take_le _ _
        next few => exact not_lt.mp few
      unfold visit at member
      rcases List.mem_cons.mp member with rfl | later
      · exact short
      · split at later
        · cases later
        · exact ih later

/-- If no new keys appear, fewer keys lie after a row than lay after a cursor before it. -/
theorem countP_past_lt {table table' : List α} (unique : (table'.map key).Nodup)
    (kept : ∀ row ∈ table', ∃ old ∈ table, key old = key row) {cursor : Option κ} {last : α}
    (member : last ∈ table) (past : Past cursor (key last)) :
    (table'.countP fun row => Past (some (key last)) (key row)) <
      table.countP fun row => Past cursor (key row) := by
  have fresh : (key last ::
      (table'.filter fun row => Past (some (key last)) (key row)).map key).Nodup := by
    refine List.nodup_cons.mpr ⟨?_, unique.sublist (List.filter_sublist.map key)⟩
    intro listed
    obtain ⟨row, selected, same⟩ := List.mem_map.mp listed
    have later := of_decide_eq_true (List.mem_filter.mp selected).2 (key last) rfl
    exact absurd same later.ne'
  have listed : (key last :: (table'.filter fun row => Past (some (key last)) (key row)).map key) ⊆
      (table.filter fun row => Past cursor (key row)).map key := by
    intro k here
    rcases List.mem_cons.mp here with rfl | later
    · exact List.mem_map_of_mem (List.mem_filter.mpr ⟨member, decide_eq_true past⟩)
    · obtain ⟨row, selected, rfl⟩ := List.mem_map.mp later
      obtain ⟨present, after⟩ := List.mem_filter.mp selected
      obtain ⟨old, before, same⟩ := kept row present
      have ahead := past.trans (of_decide_eq_true after (key last) rfl).le
      rw [← same] at ahead ⊢
      exact List.mem_map_of_mem (List.mem_filter.mpr ⟨before, decide_eq_true ahead⟩)
  have fewer := (List.subperm_of_subset fresh listed).length_le
  rw [List.length_cons, List.length_map, List.length_map] at fewer
  rw [List.countP_eq_length_filter, List.countP_eq_length_filter]
  exact fewer

section Traversal

variable (positive : 0 < limit) (unique : ∀ i, ((tables i).map key).Nodup)
include positive unique

/-- The rows that a client receives come after its cursor, and were in the table when they were
fetched. -/
theorem mem_received {n i : Nat} {cursor : Option κ} {row : α}
    (member : row ∈ received (visit (keysetRequests key limit tables matching) n i cursor)) :
    Past cursor (key row) ∧ ∃ j, i ≤ j ∧ row ∈ tables j ∧ matching j row = true := by
  induction n generalizing i cursor with
  | zero => cases member
  | succ n ih =>
      have here : ∀ row ∈ keysetRows key (matching i) cursor (tables i),
          Past cursor (key row) ∧ ∃ j, i ≤ j ∧ row ∈ tables j ∧ matching j row = true := by
        intro row selected
        obtain ⟨present, fits, past⟩ := mem_keysetRows.mp selected
        exact ⟨past, i, le_refl i, present, fits⟩
      rcases keysetRequests_cases matching positive unique i cursor with
        last | ⟨page, rest, last, rows, _, onPage, more, _, _⟩
      · rw [visit_last (by rw [last]), received_cons, last, received_nil, List.append_nil] at member
        exact here row member
      · rw [visit_next (by rw [more]), received_cons, more] at member
        rcases List.mem_append.mp member with first | later
        · exact here row (rows ▸ List.mem_append_left rest first)
        · obtain ⟨past, j, after, present⟩ := ih later
          have start := here last (rows ▸ List.mem_append_left rest onPage)
          exact ⟨start.1.trans (past _ rfl).le, j, by omega, present⟩

/-- The keys that a client receives increase. -/
theorem visit_sorted (n i : Nat) (cursor : Option κ) :
    (received (visit (keysetRequests key limit tables matching) n i cursor)).Pairwise
      (key · < key ·) := by
  induction n generalizing i cursor with
  | zero => exact List.Pairwise.nil
  | succ n ih =>
      have sorted := keysetRows_sorted (matching i) cursor (unique i)
      rcases keysetRequests_cases matching positive unique i cursor with
        last | ⟨page, rest, last, rows, _, _, more, greatest, _⟩
      · rw [visit_last (by rw [last]), received_cons, last, received_nil, List.append_nil]
        exact sorted
      · rw [visit_next (by rw [more]), received_cons, more, List.pairwise_append]
        rw [rows, List.pairwise_append] at sorted
        refine ⟨sorted.1, ih (i + 1) _, ?_⟩
        intro first early second late
        exact (greatest first early).trans_lt ((mem_received positive unique late).1 _ rfl)

/-- A client that has come to an end has received every key after its cursor that was there for
each request. -/
theorem visit_complete {n i : Nat} {cursor : Option κ} {k : κ}
    (ends : Ends (visit (keysetRequests key limit tables matching) n i cursor))
    (past : Past cursor k)
    (present : ∀ j, i ≤ j →
      j < i + (visit (keysetRequests key limit tables matching) n i cursor).length →
        ∃ row ∈ tables j, matching j row = true ∧ key row = k) :
    ∃ row ∈ received (visit (keysetRequests key limit tables matching) n i cursor),
      key row = k := by
  induction n generalizing i cursor with
  | zero =>
      obtain ⟨_, absent, _⟩ := ends
      cases absent
  | succ n ih =>
      rcases keysetRequests_cases matching positive unique i cursor with
        last | ⟨page, rest, last, rows, _, _, more, _, later⟩
      · rw [visit_last (by rw [last]), received_cons, last, received_nil, List.append_nil]
        rw [visit_last (by rw [last]), List.length_singleton] at present
        obtain ⟨row, member, fits, rfl⟩ := present i (le_refl i) (by omega)
        exact ⟨row, mem_keysetRows.mpr ⟨member, fits, past⟩, rfl⟩
      · rw [visit_next (by rw [more]), received_cons, more]
        rw [visit_next (by rw [more]), ends_cons (by rw [more])] at ends
        rw [visit_next (by rw [more]), List.length_cons] at present
        obtain ⟨row, member, fits, rfl⟩ := present i (le_refl i) (by omega)
        have selected : row ∈ page ++ rest := by
          rw [← rows]
          exact mem_keysetRows.mpr ⟨member, fits, past⟩
        rcases List.mem_append.mp selected with first | left
        · exact ⟨row, List.mem_append_left _ first, rfl⟩
        · -- the row is left over, and waits after the cursor of the next request
          have ahead : Past (some (key last)) (key row) := by
            rintro _ ⟨⟩
            exact later row left
          obtain ⟨found, delivered, same⟩ := ih ends ahead fun j after before =>
            present j (by omega) (by omega)
          exact ⟨found, List.mem_append_right _ delivered, same⟩

/-- On a table that does not change, a client that has come to an end has received the sorted rows
after its cursor. -/
theorem visit_unchanging {n i : Nat} {cursor : Option κ}
    (ends : Ends (visit (keysetRequests key limit tables matching) n i cursor))
    {table : List α} {fits : α → Bool} (same : ∀ j, tables j = table)
    (same' : ∀ j, matching j = fits) :
    received (visit (keysetRequests key limit tables matching) n i cursor) =
      keysetRows key fits cursor table := by
  have keys : (table.map key).Nodup := same 0 ▸ unique 0
  have sorted : (received (visit (keysetRequests key limit tables matching) n i cursor)).Pairwise
      (key · < key ·) := visit_sorted positive unique n i cursor
  have sorted' := keysetRows_sorted fits cursor keys
  have perm : (received (visit (keysetRequests key limit tables matching) n i cursor)).Perm
      (keysetRows key fits cursor table) := by
    rw [List.perm_ext_iff_of_nodup (sorted.imp fun order equal => by simp [equal] at order)
      (sorted'.imp fun order equal => by simp [equal] at order)]
    intro row
    rw [mem_keysetRows]
    constructor
    · intro member
      obtain ⟨past, j, _, present, holds⟩ := mem_received positive unique member
      exact ⟨same j ▸ present, same' j ▸ holds, past⟩
    · rintro ⟨member, holds, past⟩
      obtain ⟨other, delivered, equal⟩ := visit_complete positive unique ends past
        fun j _ _ => ⟨row, (same j).symm ▸ member, (same' j).symm ▸ holds, rfl⟩
      obtain ⟨_, j, _, present, _⟩ := mem_received positive unique delivered
      rw [same j] at present
      rwa [← List.inj_on_of_nodup_map keys present member equal]
  exact perm.eq_of_pairwise (fun _ _ _ _ before after => absurd before (lt_asymm after)) sorted
    sorted'

/-- A client comes to an end if no new keys appear. -/
theorem visit_ends_of_settled (bound i : Nat) (cursor : Option κ)
    (settled : ∀ j, i ≤ j → ∀ row ∈ tables (j + 1), ∃ old ∈ tables j, key old = key row)
    (few : ((tables i).countP fun row => Past cursor (key row)) < bound) :
    ∃ n, Ends (visit (keysetRequests key limit tables matching) n i cursor) := by
  induction bound generalizing i cursor with
  | zero => exact absurd few (Nat.not_lt_zero _)
  | succ bound ih =>
      rcases keysetRequests_cases matching positive unique i cursor with
        last | ⟨page, rest, last, rows, _, onPage, more, _, _⟩
      · exact ⟨1, ends_of_last (by rw [last])⟩
      · -- a full page leaves fewer keys ahead
        obtain ⟨member, _, past⟩ := mem_keysetRows.mp (rows ▸ List.mem_append_left rest onPage)
        have fewer := countP_past_lt (unique (i + 1)) (settled i (le_refl i)) member past
        obtain ⟨n, ends⟩ := ih (i + 1) (some (key last)) (fun j after => settled j (by omega))
          (by omega)
        exact ⟨n + 1, ends_of_next (by rw [more]) ends⟩

/-- A client comes to an end once no new keys appear. -/
theorem visit_ends (m i : Nat) (cursor : Option κ)
    (settled : ∀ j, i + m ≤ j → ∀ row ∈ tables (j + 1), ∃ old ∈ tables j, key old = key row) :
    ∃ n, Ends (visit (keysetRequests key limit tables matching) n i cursor) := by
  induction m generalizing i cursor with
  | zero => exact visit_ends_of_settled positive unique _ i cursor settled (Nat.lt_succ_self _)
  | succ m ih =>
      rcases keysetRequests_cases matching positive unique i cursor with
        last | ⟨_, _, last, _, _, _, more, _, _⟩
      · exact ⟨1, ends_of_last (by rw [last])⟩
      · obtain ⟨n, ends⟩ := ih (i + 1) (some (key last)) fun j after => settled j (by omega)
        exact ⟨n + 1, ends_of_next (by rw [more]) ends⟩

end Traversal

end Keyset

end Relational
