import JobScheduler.Relational.Table

/-!
# Row versions under READ COMMITTED

A table has the newest committed version of each row, and beside it the drafts of the open
transactions. A draft is a row that a transaction has locked, with the version the row gets
when the transaction commits; it may be a deletion. A row has at most one draft, since a
lock is held to the end of its transaction.

A statement works on a list of keys that its snapshot selected. For each key it takes the
newest version: a row that another transaction has locked is skipped or waited for, and the
condition is checked again on the version that is found. A commit publishes the drafts of
its transaction and a rollback drops them.
-/

set_option autoImplicit false

namespace ReadCommitted

open Relational

variable {κ α : Type}

/-- A row locked by a transaction, with the version it will have after the commit. -/
structure Draft (κ α : Type) where
  tx : Nat
  key : κ
  version : Option α

/-- The newest committed versions and the drafts of the open transactions. -/
structure Versions (κ α : Type) where
  rows : List α
  drafts : List (Draft κ α)

/-- How a statement takes its rows: its condition, and whether it skips locked rows. -/
structure Statement (α : Type) where
  selects : α → Bool
  skipLocked : Bool

/-- What a statement makes of one key. -/
inductive Handled (α : Type) where
  /-- Another transaction has the row: the statement waits. -/
  | waits
  /-- The row is skipped, gone, or does not satisfy the condition any more. -/
  | passed
  /-- The statement takes this version of the row. -/
  | takes (row : α)

namespace Versions

variable [DecidableEq κ] (key : α → κ) (table : Versions κ α)

/-- Another transaction holds the lock on the row. -/
def LockedByOther (tx : Nat) (k : κ) : Prop :=
  ∃ draft ∈ table.drafts, draft.key = k ∧ draft.tx ≠ tx

instance (tx : Nat) (k : κ) : Decidable (table.LockedByOther tx k) :=
  inferInstanceAs (Decidable (∃ draft ∈ table.drafts, draft.key = k ∧ draft.tx ≠ tx))

/-- The transaction's own draft of a row. -/
def draftOf (tx : Nat) (k : κ) : Option (Draft κ α) :=
  table.drafts.find? fun draft => draft.tx = tx ∧ draft.key = k

/-- The newest version of a row that the transaction can work on: its own, or the committed
one. -/
def newest (tx : Nat) (k : κ) : Option α :=
  match table.draftOf tx k with
  | some draft => draft.version
  | none => table.rows.find? (key · = k)

/-- Lock a row and draft its next version. -/
def write (tx : Nat) (k : κ) (version : Option α) : Versions κ α :=
  { table with
    drafts := ⟨tx, k, version⟩ ::
      table.drafts.filter fun draft => ¬ (draft.tx = tx ∧ draft.key = k) }

/-- The committed rows with the drafts of a transaction put in their place: what the
transaction sees, and what everybody sees after its commit. -/
def seenBy (tx : Nat) : List α :=
  (table.rows.filterMap fun row =>
    match table.draftOf tx (key row) with
    | some draft => draft.version
    | none => some row) ++
  (table.drafts.filter fun draft =>
    draft.tx = tx ∧ ∀ row ∈ table.rows, key row ≠ draft.key).filterMap (·.version)

/-- The drafts of the other transactions. -/
def release (tx : Nat) : List (Draft κ α) :=
  table.drafts.filter (·.tx ≠ tx)

/-- How many rows a transaction has locked. -/
def held (tx : Nat) : Nat := table.drafts.countP (·.tx = tx)

/-- Commit: the drafts become the newest versions and the locks are given up. -/
def publish (tx : Nat) : Versions κ α := ⟨table.seenBy key tx, table.release tx⟩

/-- Roll back: the drafts are dropped. -/
def discard (tx : Nat) : Versions κ α := { table with drafts := table.release tx }

/-- What the statement makes of a key. -/
def handle (statement : Statement α) (tx : Nat) (k : κ) : Handled α :=
  if table.LockedByOther tx k then
    if statement.skipLocked then .passed else .waits
  else
    match table.newest key tx k with
    | none => .passed
    | some row => if statement.selects row then .takes row else .passed

/-! ## Locks -/

/-- Committed rows have distinct keys, a row has at most one draft, and a draft keeps the
key of its row. -/
structure Sound : Prop where
  keys : (table.rows.map key).Nodup
  locks : (table.drafts.map (·.key)).Nodup
  versions : ∀ draft ∈ table.drafts, ∀ row, draft.version = some row → key row = draft.key

variable {key table} {tx other : Nat} {k : κ} {row : α}

omit [DecidableEq κ] in
/-- A row has one draft. -/
theorem Sound.draft_unique (sound : table.Sound key) {first second : Draft κ α}
    (firstMember : first ∈ table.drafts) (secondMember : second ∈ table.drafts)
    (same : first.key = second.key) : first = second :=
  eq_of_key_eq sound.locks firstMember secondMember same

theorem mem_of_draftOf {draft : Draft κ α} (found : table.draftOf tx k = some draft) :
    draft ∈ table.drafts ∧ draft.tx = tx ∧ draft.key = k := by
  have own := List.find?_some found
  rw [decide_eq_true_eq] at own
  exact ⟨List.mem_of_find?_eq_some found, own⟩

theorem Sound.draftOf_eq (sound : table.Sound key) {draft : Draft κ α}
    (member : draft ∈ table.drafts) : table.draftOf draft.tx draft.key = some draft := by
  cases found : table.draftOf draft.tx draft.key with
  | none =>
      have missing := List.find?_eq_none.mp found draft member
      simp at missing
  | some draft' =>
      obtain ⟨member', _, same⟩ := mem_of_draftOf found
      rw [sound.draft_unique member' member same]

theorem draftOf_eq_none (free : ∀ draft ∈ table.drafts, draft.tx = tx → draft.key ≠ k) :
    table.draftOf tx k = none := by
  refine List.find?_eq_none.mpr ?_
  intro draft member own
  rw [decide_eq_true_eq] at own
  exact free draft member own.1 own.2

/-- The newest version of a row without a draft is the committed one. -/
theorem committed_of_newest (free : ∀ draft ∈ table.drafts, draft.tx = tx → draft.key ≠ k)
    (found : table.newest key tx k = some row) : row ∈ table.rows ∧ key row = k := by
  rw [newest, draftOf_eq_none free] at found
  have same := List.find?_some found
  rw [decide_eq_true_eq] at same
  exact ⟨List.mem_of_find?_eq_some found, same⟩

/-- The newest version of a row is committed or drafted. -/
theorem mem_of_newest (found : table.newest key tx k = some row) :
    row ∈ table.rows ∨ ∃ draft ∈ table.drafts, draft.version = some row := by
  unfold newest at found
  split at found
  next draft own => exact .inr ⟨draft, (mem_of_draftOf own).1, found⟩
  · exact .inl (List.mem_of_find?_eq_some found)

/-- The newest version of a row has its key. -/
theorem Sound.key_of_newest (sound : table.Sound key)
    (found : table.newest key tx k = some row) : key row = k := by
  unfold newest at found
  split at found
  next draft own =>
    obtain ⟨member, _, same⟩ := mem_of_draftOf own
    rw [sound.versions draft member row found, same]
  · have same := List.find?_some found
    rw [decide_eq_true_eq] at same
    exact same

/-! ## What a transaction sees -/

/-- **The rows a transaction sees**: the committed rows it has not locked, and its drafts. -/
theorem Sound.mem_seenBy (sound : table.Sound key) :
    row ∈ table.seenBy key tx ↔
      (row ∈ table.rows ∧ ∀ draft ∈ table.drafts, draft.tx = tx → draft.key ≠ key row) ∨
      ∃ draft ∈ table.drafts, draft.tx = tx ∧ draft.version = some row := by
  unfold seenBy
  rw [List.mem_append, List.mem_filterMap, List.mem_filterMap]
  constructor
  · rintro (⟨old, member, kept⟩ | ⟨draft, inserted, version⟩)
    · split at kept
      next draft found =>
        obtain ⟨draftMember, own, _⟩ := mem_of_draftOf found
        exact .inr ⟨draft, draftMember, own, kept⟩
      next missing =>
        cases kept
        refine .inl ⟨member, ?_⟩
        intro draft draftMember own same
        have absent := List.find?_eq_none.mp missing draft draftMember
        simp [own, same] at absent
    · rw [List.mem_filter, decide_eq_true_eq] at inserted
      exact .inr ⟨draft, inserted.1, inserted.2.1, version⟩
  · rintro (⟨member, free⟩ | ⟨draft, member, own, version⟩)
    · refine .inl ⟨row, member, ?_⟩
      rw [draftOf_eq_none free]
    · by_cases present : ∃ old ∈ table.rows, key old = draft.key
      · obtain ⟨old, oldMember, same⟩ := present
        refine .inl ⟨old, oldMember, ?_⟩
        rw [same, ← own, sound.draftOf_eq member]
        exact version
      · refine .inr ⟨draft, ?_, version⟩
        rw [List.mem_filter, decide_eq_true_eq]
        refine ⟨member, own, ?_⟩
        intro old oldMember same
        exact present ⟨old, oldMember, same⟩

/-- The keys of the rows a transaction sees are distinct. -/
theorem Sound.nodup_seenBy (sound : table.Sound key) (tx : Nat) :
    ((table.seenBy key tx).map key).Nodup := by
  unfold seenBy
  rw [List.map_append, List.nodup_append]
  refine ⟨?_, ?_, ?_⟩
  · refine nodup_map_filterMap sound.keys ?_
    intro old member value kept
    split at kept
    next draft found =>
      obtain ⟨draftMember, _, same⟩ := mem_of_draftOf found
      rw [sound.versions draft draftMember value kept, same]
    · cases kept
      rfl
  · refine nodup_map_filterMap (nodup_map_filter sound.locks _) ?_
    intro draft member value version
    exact sound.versions draft (List.mem_of_mem_filter member) value version
  · -- an inserted row has a key that no committed row has
    intro first firstMember second secondMember same
    obtain ⟨row, kept, rfl⟩ := List.mem_map.mp firstMember
    obtain ⟨new, inserted, rfl⟩ := List.mem_map.mp secondMember
    obtain ⟨old, oldMember, result⟩ := List.mem_filterMap.mp kept
    obtain ⟨draft, draftMember, version⟩ := List.mem_filterMap.mp inserted
    rw [List.mem_filter, decide_eq_true_eq] at draftMember
    apply draftMember.2.2 old oldMember
    rw [← sound.versions draft draftMember.1 new version, ← same]
    split at result
    next other found =>
      obtain ⟨otherMember, _, otherKey⟩ := mem_of_draftOf found
      rw [sound.versions other otherMember row result, otherKey]
    · cases result
      rfl

/-! ## The operations keep the table sound -/

theorem Sound.publish (sound : table.Sound key) (tx : Nat) : (table.publish key tx).Sound key where
  keys := sound.nodup_seenBy tx
  locks := nodup_map_filter sound.locks _
  versions draft member := sound.versions draft (List.mem_of_mem_filter member)

omit [DecidableEq κ] in
theorem Sound.discard (sound : table.Sound key) (tx : Nat) : (table.discard tx).Sound key where
  keys := sound.keys
  locks := nodup_map_filter sound.locks _
  versions draft member := sound.versions draft (List.mem_of_mem_filter member)

theorem Sound.write (sound : table.Sound key) (free : ¬ table.LockedByOther tx k)
    {version : Option α} (keeps : ∀ row, version = some row → key row = k) :
    (table.write tx k version).Sound key where
  keys := sound.keys
  locks := by
    simp only [Versions.write, List.map_cons, List.nodup_cons]
    refine ⟨?_, nodup_map_filter sound.locks _⟩
    intro listed
    obtain ⟨draft, member, same⟩ := List.mem_map.mp listed
    rw [List.mem_filter, decide_eq_true_eq] at member
    apply free
    refine ⟨draft, member.1, same, ?_⟩
    intro own
    exact member.2 ⟨own, same⟩
  versions draft member row versionEq := by
    rcases List.mem_cons.mp member with rfl | old
    · exact keeps row versionEq
    · exact sound.versions draft (List.mem_of_mem_filter old) row versionEq

/-! ## Drafts after an operation -/

/-- A transaction's drafts survive the writes of others. -/
theorem mem_drafts_write {version : Option α} {draft : Draft κ α} (member : draft ∈ table.drafts)
    (different : draft.tx ≠ tx) : draft ∈ (table.write tx k version).drafts := by
  refine List.mem_cons_of_mem _ (List.mem_filter.mpr ⟨member, ?_⟩)
  simp [different]

omit [DecidableEq κ] in
theorem mem_drafts_release {draft : Draft κ α} (member : draft ∈ table.drafts)
    (different : draft.tx ≠ tx) : draft ∈ table.release tx :=
  List.mem_filter.mpr ⟨member, by simpa using different⟩

theorem cases_drafts_write {version : Option α} {draft : Draft κ α}
    (member : draft ∈ (table.write tx k version).drafts) :
    draft = ⟨tx, k, version⟩ ∨
      draft ∈ table.drafts ∧ ¬ (draft.tx = tx ∧ draft.key = k) := by
  rcases List.mem_cons.mp member with rfl | old
  · exact .inl rfl
  · rw [List.mem_filter, decide_eq_true_eq] at old
    exact .inr old

omit [DecidableEq κ] in
theorem of_mem_release {draft : Draft κ α} (member : draft ∈ table.release tx) :
    draft ∈ table.drafts ∧ draft.tx ≠ tx := by
  rw [release, List.mem_filter, decide_eq_true_eq] at member
  exact member

theorem held_write_le {version : Option α} :
    (table.write tx k version).held tx ≤ table.held tx + 1 := by
  unfold held write
  rw [List.countP_cons_of_pos (by simp)]
  exact Nat.succ_le_succ List.filter_sublist.countP_le

theorem held_write_of_ne (different : other ≠ tx) {version : Option α} :
    (table.write tx k version).held other = table.held other := by
  unfold held write
  rw [List.countP_cons_of_neg (by simpa using Ne.symm different), List.countP_filter]
  refine List.countP_congr fun draft _ => ?_
  simp only [Bool.and_eq_true, decide_eq_true_eq]
  refine and_iff_left_of_imp ?_
  rintro own ⟨rfl, _⟩
  exact different own.symm

omit [DecidableEq κ] in
theorem countP_release_of_ne (different : other ≠ tx) :
    (table.release tx).countP (·.tx = other) = table.held other := by
  unfold held release
  rw [List.countP_filter]
  refine List.countP_congr fun draft _ => ?_
  simp only [Bool.and_eq_true, decide_eq_true_eq]
  refine and_iff_left_of_imp ?_
  rintro own rfl
  exact different own.symm

omit [DecidableEq κ] in
/-- Rows with a property have another one as well, or not. -/
theorem countP_le_countP_add (rows : List α) (holds : α → Bool) (also : α → Prop)
    [DecidablePred also] : rows.countP holds ≤
      rows.countP (fun row => holds row ∧ ¬ also row) + rows.countP fun row => also row := by
  induction rows with
  | nil => exact Nat.le_refl 0
  | cons row rest ih =>
      simp only [List.countP_cons]
      by_cases here : also row
      · simp only [here, decide_true, if_true]
        split <;> omega
      · by_cases given : holds row = true
        · simp only [given, here, not_false_eq_true, and_self, decide_true, decide_false,
            Bool.false_eq_true, if_true, if_false]
          omega
        · simp only [given, here, false_and, decide_false, Bool.false_eq_true, if_false]
          exact ih

/-- A commit adds at most the rows its transaction has locked to those with a property. -/
theorem Sound.countP_publish_le (sound : table.Sound key) (tx : Nat) (holds : α → Bool) :
    (table.publish key tx).rows.countP holds ≤ table.rows.countP holds + table.held tx := by
  have seen : ((table.seenBy key tx).map key).Nodup := sound.nodup_seenBy tx
  let drafted := (table.drafts.filter (·.tx = tx)).map (·.key)
  have written : (table.seenBy key tx).countP (fun row => key row ∈ drafted) ≤ table.held tx := by
    refine (countP_key_mem_le seen drafted).trans (Nat.le_of_eq ?_)
    rw [List.length_map, held, List.countP_eq_length_filter]
  have kept : (table.seenBy key tx).countP (fun row => holds row ∧ key row ∉ drafted) ≤
      table.rows.countP fun row => holds row ∧ key row ∉ drafted := by
    refine countP_le_of_key seen _ fun row member satisfies => ?_
    refine ⟨row, ?_, satisfies, rfl⟩
    rcases sound.mem_seenBy.mp member with ⟨old, _⟩ | ⟨draft, own, same, version⟩
    · exact old
    · -- a drafted row has a drafted key
      rw [decide_eq_true_eq] at satisfies
      refine absurd (List.mem_map.mpr ⟨draft, ?_, ?_⟩) satisfies.2
      · exact List.mem_filter.mpr ⟨own, decide_eq_true same⟩
      · exact (sound.versions draft own row version).symm
  have among : (table.rows.countP fun row => holds row ∧ key row ∉ drafted) ≤
      table.rows.countP holds := by
    refine List.countP_mono_left fun row _ satisfies => ?_
    rw [decide_eq_true_eq] at satisfies
    exact satisfies.1
  have split := countP_le_countP_add (table.seenBy key tx) holds fun row => key row ∈ drafted
  exact split.trans (Nat.add_le_add (kept.trans among) written)

/-! ## Committed rows after a commit -/

/-- A row locked by another transaction is not touched by a commit. -/
theorem Sound.mem_publish_of_locked (sound : table.Sound key) {draft : Draft κ α}
    (member : draft ∈ table.drafts) (different : draft.tx ≠ tx) (same : key row = draft.key) :
    row ∈ (table.publish key tx).rows ↔ row ∈ table.rows := by
  have foreign : ∀ other ∈ table.drafts, other.tx = tx → other.key ≠ key row := by
    intro other otherMember own clash
    have eq := sound.draft_unique otherMember member (clash.trans same)
    subst eq
    exact different own
  constructor
  · intro published
    rcases sound.mem_seenBy.mp published with ⟨old, _⟩ | ⟨other, otherMember, own, version⟩
    · exact old
    · exact absurd (sound.versions other otherMember row version).symm
        (foreign other otherMember own)
  · intro old
    exact sound.mem_seenBy.mpr (.inl ⟨old, foreign⟩)

/-- A commit keeps the rows its transaction has not locked. -/
theorem Sound.mem_publish_of_free (sound : table.Sound key)
    (free : ∀ draft ∈ table.drafts, draft.tx = tx → draft.key ≠ key row)
    (member : row ∈ table.rows) : row ∈ (table.publish key tx).rows :=
  sound.mem_seenBy.mpr (.inl ⟨member, free⟩)

/-- The version a transaction drafted is the committed one after its commit. -/
theorem Sound.mem_publish_of_draft (sound : table.Sound key) {draft : Draft κ α}
    (member : draft ∈ table.drafts) (own : draft.tx = tx) (version : draft.version = some row) :
    row ∈ (table.publish key tx).rows :=
  sound.mem_seenBy.mpr (.inr ⟨draft, member, own, version⟩)

/-! ## Handling a key -/

theorem handle_takes {statement : Statement α}
    (handled : table.handle key statement tx k = .takes row) :
    ¬ table.LockedByOther tx k ∧ table.newest key tx k = some row ∧
      statement.selects row = true := by
  unfold handle at handled
  split at handled
  · split at handled
    · cases handled
    · cases handled
  next free =>
    split at handled
    · cases handled
    next found newestRow =>
      split at handled
      next selected =>
        cases handled
        exact ⟨free, newestRow, selected⟩
      · cases handled

end Versions

end ReadCommitted
