import JobScheduler.Store.Job
import JobScheduler.Transition.Run

/-!
# Concurrent claimers of one queue

`ClaimJobs` taken apart into the statements of its transaction, under READ COMMITTED. Each
statement reads what was committed when it started. The budget `SELECT … FOR UPDATE` locks
the queue's row; when another transaction holds the lock it waits, and since the row it
waits for is not modified, it resumes with the snapshot it already has. The claim `UPDATE`
takes a snapshot of its own and skips rows that other transactions have locked. Its rows
become visible, and the lock on the queue is given up, at the commit.

So the count in the budget may be older than the lock: a claimer that waited while another
committed admits jobs over the limit (`over_admission`). When no budget is resumed over a
newer count, the limit is kept (`admits_within_limit`).
-/

set_option autoImplicit false

namespace JobScheduler

open Relational Transition

/-- The arguments of a `ClaimJobs` call, and `NOW()` of its transaction. -/
structure ClaimCall where
  workerId : UUID
  leaseSeconds : Int
  now : Timestamptz

/-- Where a `ClaimJobs` transaction is. -/
inductive ClaimPoint where
  /-- Before the budget `SELECT`. -/
  | begun
  /-- The budget `SELECT` waits for the lock, with the snapshot it started with. -/
  | waiting (snapshot : Database)
  /-- The budget is known and the queue's row is locked. -/
  | locked (budget : Int)
  /-- The claim `UPDATE` has locked and rewritten these rows. -/
  | updated (targets : List UUID)
  /-- Committed or rolled back. -/
  | ended

/-- From the budget to the end the transaction holds the lock on the queue's row. -/
def ClaimPoint.holdsLock : ClaimPoint → Bool
  | .locked _ | .updated _ => true
  | _ => false

/-- The job rows the transaction has locked. -/
def ClaimPoint.lockedRows : ClaimPoint → List UUID
  | .updated targets => targets
  | _ => []

structure ClaimTx where
  call : ClaimCall
  point : ClaimPoint

/-- The committed tables, the transaction that holds the lock on the queue's row, and the
transactions in the order they began. -/
structure Claimers where
  db : Database
  holder : Option Nat
  txs : List ClaimTx

inductive ClaimStatement where
  | begin (call : ClaimCall)
  /-- The budget `SELECT` starts. -/
  | select (tx : Nat)
  /-- A waiting budget `SELECT` gets the lock. -/
  | resume (tx : Nat)
  /-- The claim `UPDATE`, with ties in its order ranked by `tie`. -/
  | update (tx : Nat) (tie : UUID → Nat)
  | commit (tx : Nat)
  | rollback (tx : Nat)

namespace Claimers

/-- Replace a transaction. -/
def put (s : Claimers) (tx : Nat) (state : ClaimTx) : Claimers :=
  { s with txs := s.txs.set tx state }

/-- The committed tables without the job rows that `FOR UPDATE SKIP LOCKED` skips. -/
def unlocked (s : Claimers) : Database :=
  { s.db with
    jobs := s.db.jobs.filter fun job => job.id ∉ s.txs.flatMap (·.point.lockedRows) }

/-- The rows of a claim become visible. -/
def publish (s : Claimers) (call : ClaimCall) (targets : List UUID) : Database :=
  { s.db with
    jobs := Relational.update (·.id ∈ targets)
      (Job.claim call.now call.workerId call.leaseSeconds) s.db.jobs }

/-- One statement of one transaction. A budget `SELECT` that finds the row of the queue free takes
its snapshot and the lock in one step; in `Sessions` these are two, with room for others between
them (`claims_within_limit`). -/
def step (queue : Queue) (s : Claimers) : ClaimStatement → Option Claimers
  | .begin call => some { s with txs := s.txs ++ [⟨call, .begun⟩] }
  | .select tx =>
      match s.txs[tx]?, s.holder with
      | some ⟨call, .begun⟩, none =>
          some { s.put tx ⟨call, .locked (s.db.claimBudget queue)⟩ with holder := some tx }
      | some ⟨call, .begun⟩, some _ => some (s.put tx ⟨call, .waiting s.db⟩)
      | _, _ => none
  | .resume tx =>
      match s.txs[tx]?, s.holder with
      | some ⟨call, .waiting snapshot⟩, none =>
          some { s.put tx ⟨call, .locked (snapshot.claimBudget queue)⟩ with holder := some tx }
      | _, _ => none
  | .update tx tie =>
      match s.txs[tx]? with
      | some ⟨call, .locked budget⟩ =>
          if budget ≤ 0 then none
          else some (s.put tx
            ⟨call, .updated (s.unlocked.claimTargets call.now tie queue.id budget)⟩)
      | _ => none
  | .commit tx =>
      match s.txs[tx]? with
      | some ⟨call, .locked budget⟩ =>
          -- without a budget the transaction commits empty
          if budget ≤ 0 then some { s.put tx ⟨call, .ended⟩ with holder := none } else none
      | some ⟨call, .updated targets⟩ =>
          some { s.put tx ⟨call, .ended⟩ with holder := none, db := s.publish call targets }
      | _ => none
  | .rollback tx =>
      match s.txs[tx]? with
      | some ⟨call, point⟩ =>
          some { s.put tx ⟨call, .ended⟩ with
            holder := if point.holdsLock then none else s.holder }
      | none => none

end Claimers

/-- The claimers of a queue with the given limit, on a jobs table within the limit. -/
def claimers (queue : Queue) (limit : Int) : System Claimers ClaimStatement where
  initial s := queue.concurrencyLimit = some limit ∧ (s.db.jobs.map (·.id)).Nodup ∧
    (s.db.activeCount queue.id : Int) ≤ limit ∧ s.holder = none ∧ s.txs = []
  step := Claimers.step queue

/-- At most `limit` jobs of the queue are claimed or running. -/
def WithinLimit (queue : Queue) (limit : Int) (s : Claimers) : Prop :=
  (s.db.activeCount queue.id : Int) ≤ limit

/-- A budget `SELECT` that waited resumes with a count that is still right. -/
def ResumesCurrent (queue : Queue) (s : Claimers) : ClaimStatement → Prop
  | .resume tx => ∀ call snapshot, s.txs[tx]? = some ⟨call, .waiting snapshot⟩ →
      snapshot.activeCount queue.id = s.db.activeCount queue.id
  | _ => True

/-! ## One transaction alone -/

/-- The statements of a `ClaimJobs` call that nobody interrupts. -/
def aloneStatements (call : ClaimCall) (tie : UUID → Nat) (budget : Int) : List ClaimStatement :=
  if budget ≤ 0 then [.begin call, .select 0, .commit 0]
  else [.begin call, .select 0, .update 0 tie, .commit 0]

/-- **The statements make up the atomic method.** Executed alone they have the effect of
`claimJobs`. -/
theorem claimJobs_alone {db db' : Database} {queue : Queue} {call : ClaimCall}
    {tie emit : UUID → Nat} {jobs : List Job}
    (found : db.queues.find? (·.id = queue.id) = some queue)
    (claims : db.claimJobs call.now tie emit call.workerId queue.id call.leaseSeconds =
      .ok (db', jobs)) :
    ∃ trace s, execute (Claimers.step queue)
      (aloneStatements call tie (db.claimBudget queue)) [] ⟨db, none, []⟩ = some (trace, s) ∧
      s.db = db' := by
  unfold Database.claimJobs at claims
  rw [found] at claims
  dsimp only at claims
  unfold aloneStatements
  split at claims
  next spent =>
    cases claims
    rw [if_pos spent]
    simp [execute, Claimers.step, Claimers.put, spent]
  next left =>
    split at claims
    · cases claims
    · cases claims
      rw [if_neg left]
      simp [execute, Claimers.step, Claimers.put, Claimers.unlocked, Claimers.publish,
        ClaimPoint.lockedRows, left]

/-! ## What a statement can do -/

namespace Claimers

/-- The outcomes of a statement. -/
inductive Moves (queue : Queue) (s : Claimers) : ClaimStatement → Claimers → Prop where
  | begin (call : ClaimCall) :
      Moves queue s (.begin call) { s with txs := s.txs ++ [⟨call, .begun⟩] }
  | locked (tx : Nat) (call : ClaimCall) (found : s.txs[tx]? = some ⟨call, .begun⟩)
      (free : s.holder = none) :
      Moves queue s (.select tx)
        { s.put tx ⟨call, .locked (s.db.claimBudget queue)⟩ with holder := some tx }
  | waits (tx : Nat) (call : ClaimCall) (found : s.txs[tx]? = some ⟨call, .begun⟩) :
      Moves queue s (.select tx) (s.put tx ⟨call, .waiting s.db⟩)
  | resumed (tx : Nat) (call : ClaimCall) (snapshot : Database)
      (found : s.txs[tx]? = some ⟨call, .waiting snapshot⟩) (free : s.holder = none) :
      Moves queue s (.resume tx)
        { s.put tx ⟨call, .locked (snapshot.claimBudget queue)⟩ with holder := some tx }
  | updated (tx : Nat) (tie : UUID → Nat) (call : ClaimCall) (budget : Int)
      (found : s.txs[tx]? = some ⟨call, .locked budget⟩) (left : 0 < budget) :
      Moves queue s (.update tx tie)
        (s.put tx ⟨call, .updated (s.unlocked.claimTargets call.now tie queue.id budget)⟩)
  | committedEmpty (tx : Nat) (call : ClaimCall) (budget : Int)
      (found : s.txs[tx]? = some ⟨call, .locked budget⟩) :
      Moves queue s (.commit tx) { s.put tx ⟨call, .ended⟩ with holder := none }
  | committed (tx : Nat) (call : ClaimCall) (targets : List UUID)
      (found : s.txs[tx]? = some ⟨call, .updated targets⟩) :
      Moves queue s (.commit tx)
        { s.put tx ⟨call, .ended⟩ with holder := none, db := s.publish call targets }
  | rolledBack (tx : Nat) (call : ClaimCall) (point : ClaimPoint)
      (found : s.txs[tx]? = some ⟨call, point⟩) :
      Moves queue s (.rollback tx)
        { s.put tx ⟨call, .ended⟩ with holder := if point.holdsLock then none else s.holder }

variable {queue : Queue} {s s' : Claimers} {statement : ClaimStatement}

theorem step_moves (taken : s.step queue statement = some s') : Moves queue s statement s' := by
  cases statement with
  | begin call =>
      cases taken
      exact .begin call
  | select tx =>
      simp only [step] at taken
      split at taken
      next call found free =>
        cases taken
        exact .locked tx call found free
      next call _ found _ =>
        cases taken
        exact .waits tx call found
      · cases taken
  | resume tx =>
      simp only [step] at taken
      split at taken
      next call snapshot found free =>
        cases taken
        exact .resumed tx call snapshot found free
      · cases taken
  | update tx tie =>
      simp only [step] at taken
      split at taken
      next call budget found =>
        split at taken
        · cases taken
        next left =>
          cases taken
          exact .updated tx tie call budget found (by omega)
      · cases taken
  | commit tx =>
      simp only [step] at taken
      split at taken
      next call budget found =>
        split at taken
        · cases taken
          exact .committedEmpty tx call budget found
        · cases taken
      next call targets found =>
        cases taken
        exact .committed tx call targets found
      · cases taken
  | rollback tx =>
      simp only [step] at taken
      split at taken
      next call point found =>
        cases taken
        exact .rolledBack tx call point found
      · cases taken

/-- The transactions after one of them is replaced. -/
theorem cases_put {tx index : Nat} {state found : ClaimTx}
    (after : (s.put tx state).txs[index]? = some found) :
    index = tx ∧ found = state ∨ index ≠ tx ∧ s.txs[index]? = some found := by
  simp only [put] at after
  by_cases same : index = tx
  · subst same
    rw [List.getElem?_set_self'] at after
    obtain ⟨_, _, rfl⟩ := Option.map_eq_some_iff.mp after
    exact .inl ⟨rfl, rfl⟩
  · rw [List.getElem?_set_ne (Ne.symm same)] at after
    exact .inr ⟨same, after⟩

/-- The transactions after a new one begins. -/
theorem cases_begin {index : Nat} {new found : ClaimTx}
    (after : (s.txs ++ [new])[index]? = some found) :
    s.txs[index]? = some found ∨ found = new := by
  rw [List.getElem?_append] at after
  split at after
  · exact .inl after
  · exact .inr (List.mem_singleton.mp (List.mem_of_getElem? after))

/-! ## The limit -/

/-- What a transaction has reserved is still free. -/
def Reserved (queue : Queue) (limit : Int) (db : Database) : ClaimPoint → Prop
  | .locked budget => db.activeCount queue.id + budget ≤ limit
  | .updated targets => (db.activeCount queue.id + targets.length : Int) ≤ limit
  | _ => True

/-- The invariant: one transaction at a time holds the lock, and what it has reserved is
still free. -/
structure Admitting (queue : Queue) (limit : Int) (s : Claimers) : Prop where
  limited : queue.concurrencyLimit = some limit
  ids : (s.db.jobs.map (·.id)).Nodup
  within : WithinLimit queue limit s
  exclusive : ∀ (index : Nat) (tx : ClaimTx), s.txs[index]? = some tx →
    tx.point.holdsLock = true → s.holder = some index
  reserved : ∀ (index : Nat) (tx : ClaimTx), s.txs[index]? = some tx →
    Reserved queue limit s.db tx.point

variable {limit : Int}

/-- A budget computed from the right count is what is free. -/
theorem claimBudget_reserved (inv : Admitting queue limit s) {snapshot : Database}
    (current : snapshot.activeCount queue.id = s.db.activeCount queue.id) :
    Reserved queue limit s.db (.locked (snapshot.claimBudget queue)) := by
  have within := inv.within
  simp only [WithinLimit] at within
  simp only [Reserved, Database.claimBudget, inv.limited, Option.getD_some, current]
  omega

/-- What a claim publishes adds at most its targets to the count. -/
theorem activeCount_publish_le (ids : (s.db.jobs.map (·.id)).Nodup) (call : ClaimCall)
    (targets : List UUID) :
    (s.publish call targets).activeCount queue.id ≤
      s.db.activeCount queue.id + targets.length := by
  calc (s.publish call targets).activeCount queue.id
      ≤ s.db.activeCount queue.id + s.db.jobs.countP fun job => job.id ∈ targets :=
        countP_update_le _
    _ ≤ s.db.activeCount queue.id + targets.length :=
        Nat.add_le_add_left (countP_key_mem_le ids targets) _

theorem reserved_of_unlocked {db : Database} {point : ClaimPoint}
    (unlocked : point.holdsLock = false) : Reserved queue limit db point := by
  cases point with
  | locked | updated => cases unlocked
  | _ => trivial

/-- Nobody else holds the lock when it is free or held by the given transaction. -/
theorem Admitting.others (inv : Admitting queue limit s) {tx index : Nat} {found : ClaimTx}
    (holder : s.holder = none ∨ s.holder = some tx) (other : index ≠ tx)
    (listed : s.txs[index]? = some found) : found.point.holdsLock = false := by
  cases held : found.point.holdsLock with
  | false => rfl
  | true =>
      have owner := inv.exclusive index found listed held
      rcases holder with free | mine
      · rw [free] at owner
        cases owner
      · rw [mine] at owner
        cases owner
        exact absurd rfl other

/-- A transaction moves to a new point, the tables staying as they are. -/
theorem Admitting.put (inv : Admitting queue limit s) {tx : Nat} {state : ClaimTx}
    {holder : Option Nat} (reserved : Reserved queue limit s.db state.point)
    (holds : state.point.holdsLock = true → holder = some tx)
    (others : ∀ (index : Nat) (found : ClaimTx), index ≠ tx → s.txs[index]? = some found →
      found.point.holdsLock = true → holder = some index) :
    Admitting queue limit { s.put tx state with holder := holder } where
  limited := inv.limited
  ids := inv.ids
  within := inv.within
  exclusive index found listed held := by
    rcases cases_put listed with ⟨rfl, rfl⟩ | ⟨other, before⟩
    · exact holds held
    · exact others index found other before held
  reserved index found listed := by
    rcases cases_put listed with ⟨rfl, rfl⟩ | ⟨_, before⟩
    · exact reserved
    · exact inv.reserved index found before

/-- The lock is taken, with the budget reserved. -/
theorem Admitting.lock (inv : Admitting queue limit s) {tx : Nat} {call : ClaimCall}
    {budget : Int} (free : s.holder = none)
    (reserved : Reserved queue limit s.db (.locked budget)) :
    Admitting queue limit { s.put tx ⟨call, .locked budget⟩ with holder := some tx } := by
  refine inv.put reserved (fun _ => rfl) ?_
  intro index found other listed held
  rw [inv.others (.inl free) other listed] at held
  cases held

/-- A transaction ends without an effect on the tables. -/
theorem Admitting.release (inv : Admitting queue limit s) {tx : Nat} {call : ClaimCall}
    {holder : Option Nat}
    (others : ∀ (index : Nat) (found : ClaimTx), index ≠ tx → s.txs[index]? = some found →
      found.point.holdsLock = true → holder = some index) :
    Admitting queue limit { s.put tx ⟨call, .ended⟩ with holder := holder } :=
  inv.put trivial (fun held => by cases held) others

/-- **One transaction at a time admits jobs**, if no budget is resumed over a newer
count. -/
theorem admitting_step (moves : Moves queue s statement s')
    (current : ResumesCurrent queue s statement) (inv : Admitting queue limit s) :
    Admitting queue limit s' := by
  cases moves with
  | begin call =>
      refine ⟨inv.limited, inv.ids, inv.within, ?_, ?_⟩
      · intro index found listed held
        rcases cases_begin listed with before | rfl
        · exact inv.exclusive index found before held
        · cases held
      · intro index found listed
        rcases cases_begin listed with before | rfl
        · exact inv.reserved index found before
        · trivial
  | locked tx call found free => exact inv.lock free (claimBudget_reserved inv rfl)
  | waits tx call found =>
      refine inv.put trivial (fun held => by cases held) ?_
      intro index other _ listed held
      exact inv.exclusive index other listed held
  | resumed tx call snapshot found free =>
      exact inv.lock free (claimBudget_reserved inv (current call snapshot found))
  | updated tx tie call budget found left =>
      have reserved := inv.reserved tx _ found
      have holder := inv.exclusive tx _ found rfl
      refine inv.put ?_ (fun _ => holder) ?_
      · have few := s.unlocked.length_claimTargets_le call.now tie queue.id budget
        simp only [Reserved] at reserved ⊢
        omega
      · intro index other _ listed held
        exact inv.exclusive index other listed held
  | committedEmpty tx call budget found =>
      refine inv.release ?_
      intro index other different listed held
      rw [inv.others (.inr (inv.exclusive tx _ found rfl)) different listed] at held
      cases held
  | committed tx call targets found =>
      have holder := inv.exclusive tx _ found rfl
      have reserved := inv.reserved tx _ found
      have unlocked : ∀ (index : Nat) (other : ClaimTx),
          (s.put tx ⟨call, .ended⟩).txs[index]? = some other → other.point.holdsLock = false := by
        intro index other listed
        rcases cases_put listed with ⟨_, rfl⟩ | ⟨different, before⟩
        · rfl
        · exact inv.others (.inr holder) different before
      refine ⟨inv.limited, nodup_map_update (fun _ => rfl) inv.ids, ?_, ?_, ?_⟩
      · have added : (s.publish call targets).activeCount queue.id ≤ _ :=
          activeCount_publish_le inv.ids call targets
        simp only [Reserved] at reserved
        change ((s.publish call targets).activeCount queue.id : Int) ≤ limit
        omega
      · intro index other listed held
        rw [unlocked index other listed] at held
        cases held
      · intro index other listed
        exact reserved_of_unlocked (unlocked index other listed)
  | rolledBack tx call point found =>
      refine inv.release ?_
      intro index other different listed held
      cases mine : point.holdsLock with
      | true =>
          rw [inv.others (.inr (inv.exclusive tx _ found mine)) different listed] at held
          cases held
      | false => exact inv.exclusive index other listed held

end Claimers

/-- **No over-admission.** If every budget `SELECT` that waited resumes with a count that is
still right, then after every statement at most `limit` jobs are claimed or running. -/
theorem admits_within_limit (queue : Queue) (limit : Int)
    (trace : List (Claimers × ClaimStatement)) (s : Claimers)
    (run : Run (claimers queue limit) trace s) (current : Meets (ResumesCurrent queue) trace) :
    Throughout (WithinLimit queue limit) trace s := by
  have all : Throughout (Claimers.Admitting queue limit) trace s := by
    refine run.throughout current ?_ ?_
    · rintro s ⟨limited, ids, within, free, none⟩
      refine ⟨limited, ids, within, ?_, ?_⟩
      · intro index tx listed
        rw [none] at listed
        cases listed
      · intro index tx listed
        rw [none] at listed
        cases listed
    · intro s statement s' taken current inv
      exact Claimers.admitting_step (Claimers.step_moves taken) current inv
  exact ⟨fun entry member => (all.1 entry member).within, all.2.within⟩

/-! ## A queue with one slot and two due jobs -/

def oneSlot : Queue where
  id := 1
  projectId := 0
  name := "queue"
  slug := "queue"
  retryPolicyId := none
  priorityDefault := 0
  concurrencyLimit := some 1
  paused := false
  createdAt := 0
  updatedAt := 0

def dueJob (id : UUID) : Job :=
  Job.inserted 0 id ⟨1, 0, .null, none, some 0, .queued, 3, none, none⟩

def backlog : Claimers :=
  ⟨{ Database.migrated [] with queues := [oneSlot], jobs := [dueJob 2, dueJob 3] }, none, []⟩

/-- The snapshot of a waiting budget `SELECT`. -/
def ClaimPoint.snapshot? : ClaimPoint → Option Database
  | .waiting snapshot => some snapshot
  | _ => none

/-- The second claimer waits for the first, which rolls back. -/
def rolledBackFirst : List ClaimStatement :=
  [.begin ⟨4, 30, 0⟩, .begin ⟨5, 30, 0⟩, .select 0, .select 1, .update 0 fun _ => 0, .rollback 0,
    .resume 1, .update 1 fun _ => 0, .commit 1]

theorem admits_within_limit_rolledBackFirst :
    ∃ trace s, Run (claimers oneSlot 1) trace s ∧ s.db.activeCount 1 = 1 ∧
      Throughout (WithinLimit oneSlot 1) trace s := by
  obtain ⟨trace, s, run, admitted, idle⟩ :=
    exists_run_of_execute (claimers oneSlot 1) rolledBackFirst backlog
      (fun trace s => s.db.activeCount 1 = 1 ∧ ∀ entry ∈ trace, entry.1.db.activeCount 1 = 0 ∧
        ∀ tx ∈ entry.1.txs, ∀ snapshot ∈ tx.point.snapshot?, snapshot.activeCount 1 = 0)
      ⟨rfl, by decide, by decide, rfl, rfl⟩ (by decide)
  refine ⟨trace, s, run, admitted, admits_within_limit _ _ trace s run ?_⟩
  intro entry member
  unfold ResumesCurrent
  split
  · intro call snapshot found
    have counts := idle entry member
    have before := counts.2 _ (List.mem_of_getElem? found) snapshot rfl
    exact before.trans counts.1.symm
  · trivial

/-- The second claimer takes its snapshot and waits; the first commits its claim. -/
def staleBudget : List ClaimStatement :=
  [.begin ⟨4, 30, 0⟩, .begin ⟨5, 30, 0⟩, .select 0, .select 1, .update 0 fun _ => 0, .commit 0,
    .resume 1, .update 1 fun _ => 0, .commit 1]

/-- Two jobs are claimed from a queue with a limit of one. -/
theorem over_admission :
    ¬ ∀ (queue : Queue) (limit : Int) (trace : List (Claimers × ClaimStatement)) (s : Claimers),
      Run (claimers queue limit) trace s → WithinLimit queue limit s := by
  intro always
  obtain ⟨trace, s, run, exceeded⟩ :=
    exists_run_of_execute (claimers oneSlot 1) staleBudget backlog
      (fun _ s => ¬ (s.db.activeCount oneSlot.id : Int) ≤ 1)
      ⟨rfl, by decide, by decide, rfl, rfl⟩ (by decide)
  exact exceeded (always oneSlot 1 trace s run)

end JobScheduler
