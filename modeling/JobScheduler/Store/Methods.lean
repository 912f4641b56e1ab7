import JobScheduler.Store.Disjoint

/-!
# The store calls as methods

The store calls are modelled at two levels: as the transactions of `Sessions`, statement by
statement and row by row, and as the methods of `Database`, each in one step. Here the methods
are put in terms of the rows their `UPDATE` takes: these rows are rewritten by its `SET` list and
returned, and beside them only dead letters are written.
-/

set_option autoImplicit false

namespace JobScheduler

open Relational

namespace StoreCall

/-! ## The methods -/

/-- The rows the `UPDATE` of a call without a budget rewrites, as it leaves them. -/
def rewritten (call : StoreCall) (now : Timestamptz) (db : Database) : List Job :=
  (db.jobs.filter (call.takes now).selects).map (call.sets now)

/-- The call as one step, with the rows it rewrites. What the server leaves open is ranked by
`rank`. -/
def perform (now : Timestamptz) (rank : UUID → Nat) (db : Database) (call : StoreCall) :
    Except StoreError (Database × List Job) :=
  let plainly (db' : Database) := .ok (db', call.rewritten now db)
  match call with
  | .claimJobs workerId queueId leaseSeconds =>
      db.claimJobs now rank rank workerId queueId leaseSeconds
  | .releaseJobs workerId => plainly (db.releaseJobs now workerId)
  | .requeueOrphanedJobs => plainly (db.requeueOrphanedJobs now).1
  | .requeueForRetry jobId nextRunAt attempts =>
      plainly (db.requeueForRetry now jobId nextRunAt attempts)
  | .retryDLQJob id orgId => (db.retryDLQJob now id orgId).map fun result =>
      (result.1, [result.2])
  | .setJobRunning jobId => plainly (db.setJobRunning now jobId)
  | .completeJob jobId => plainly (db.completeJob now jobId)
  | .failJob jobId errMsg attempts => plainly (db.failJob now jobId errMsg attempts)
  | .moveToDLQ jobId reason attempts _ => (db.moveToDLQ now jobId reason attempts).map fun db' =>
      (db', call.rewritten now db)
  | .heartbeat workerId leaseSeconds => plainly (db.heartbeat now workerId leaseSeconds)

/-- A `ClaimJobs` is made by a registered worker: `jobs.worker_id` references `workers`. -/
def Registered (db : Database) : StoreCall → Prop
  | .claimJobs workerId _ _ => ∃ w ∈ db.workers, w.id = workerId
  | _ => True

instance (db : Database) : DecidablePred (Registered db) := fun call => by
  cases call <;> unfold Registered <;> infer_instance

/-! ## The rows an `UPDATE` takes -/

/-- The selected rows in the order the `UPDATE` takes them. -/
def order (call : StoreCall) (now : Timestamptz) (rank : UUID → Nat) (rows : List Job) :
    List Job :=
  let selected := rows.filter (call.takes now).selects
  match call with
  | .claimJobs .. => selected.insertionSort (Job.ClaimOrder rank)
  | _ => arrange (fun job => rank job.id) selected

/-- How many rows it has room for. -/
def budget (db : Database) : StoreCall → Option Nat
  | .claimJobs _ queueId _ =>
      (db.queues.find? (·.id = queueId)).map fun queue => (db.claimBudget queue).toNat
  | _ => none

/-- The rows it takes, if it has the tables for itself. -/
def chosen (call : StoreCall) (now : Timestamptz) (rank : UUID → Nat) (db : Database) :
    List Job :=
  match call.budget db with
  | none => call.order now rank db.jobs
  | some room => (call.order now rank db.jobs).take room

variable {call : StoreCall} {now : Timestamptz} {rank : UUID → Nat} {rows : List Job}
  {db db' : Database}

theorem scan_eq_order : call.scan now rank rows = (call.order now rank rows).map (·.id) := by
  cases call <;> rfl

theorem order_perm : (call.order now rank rows).Perm (rows.filter (call.takes now).selects) := by
  cases call with
  | claimJobs => exact List.perm_insertionSort _ _
  | _ => exact arrange_perm _ _

theorem mem_order {job : Job} :
    job ∈ call.order now rank rows ↔ job ∈ rows ∧ (call.takes now).selects job = true := by
  rw [order_perm.mem_iff, List.mem_filter]

variable (call now rank) in
/-- No row is taken twice. -/
theorem nodup_order (unique : (rows.map (·.id)).Nodup) :
    ((call.order now rank rows).map (·.id)).Nodup := by
  rw [(order_perm.map _).nodup_iff]
  exact nodup_map_filter unique _

/-- The rows it takes are among the selected ones. -/
theorem chosen_sublist : (call.chosen now rank db).Sublist (call.order now rank db.jobs) := by
  unfold chosen
  split
  · exact List.Sublist.refl _
  · exact List.take_sublist _ _

variable (call now rank) in
/-- Without a budget the `UPDATE` rewrites what its condition selects. -/
theorem update_order (unique : (rows.map (·.id)).Nodup) (rewrite : Job → Job) :
    update (fun job => job.id ∈ (call.order now rank rows).map (·.id)) rewrite rows =
      update (fun job => (call.takes now).selects job = true) rewrite rows := by
  refine List.map_congr_left fun job member => ?_
  have listed : job.id ∈ (call.order now rank rows).map (·.id) ↔
      (call.takes now).selects job = true := by
    constructor
    · intro taken
      obtain ⟨other, otherMember, same⟩ := List.mem_map.mp taken
      obtain ⟨inside, selected⟩ := mem_order.mp otherMember
      rw [← eq_of_key_eq unique inside member same]
      exact selected
    · intro selected
      exact List.mem_map_of_mem (mem_order.mpr ⟨member, selected⟩)
  simp only [listed]

/-! ## What the methods write -/

/-- The dead letters after the call. -/
def letters (now : Timestamptz) (db : Database) : StoreCall → List DeadLetterEntry
  | .retryDLQJob id _ => db.deadLetterQueue.filter (·.jobId ≠ id)
  | .moveToDLQ jobId reason attempts _ => db.deadLetterQueue ++
      (db.jobs.filter (·.id = jobId)).map (Job.deadLetterEntry now reason attempts)
  | _ => db.deadLetterQueue

/-- What the statements before the `UPDATE` check. -/
def Admitted (db : Database) : StoreCall → Prop
  | .claimJobs _ queueId _ =>
      ∃ queue, db.queues.find? (·.id = queueId) = some queue ∧ 0 < db.claimBudget queue
  | .retryDLQJob id orgId => ∃ job ∈ db.jobs, db.Retriable id orgId job
  | _ => True

/-- What the `INSERT` of `MoveToDLQ` checks. -/
def Unfiled (db : Database) : StoreCall → Prop
  | .moveToDLQ jobId _ _ _ =>
      ¬ (db.jobs.filter (·.id = jobId) ≠ [] ∧ ∃ entry ∈ db.deadLetterQueue, entry.jobId = jobId)
  | _ => True

/-- The database after a call that rewrote these rows. -/
structure Writes (call : StoreCall) (now : Timestamptz) (taken : List Job) (db db' : Database) :
    Prop where
  jobs : db'.jobs = update (fun job => job.id ∈ taken.map (·.id)) (call.sets now) db.jobs
  letters : db'.deadLetterQueue = call.letters now db
  queues : db'.queues = db.queues
  projects : db'.projects = db.projects
  workers : db'.workers = db.workers

/-- The rows with the keys of some of the rows are these. -/
theorem filter_taken_perm {taken : List Job} (unique : (rows.map (·.id)).Nodup)
    (distinct : (taken.map (·.id)).Nodup) (inside : ∀ job ∈ taken, job ∈ rows) :
    (rows.filter fun job => job.id ∈ taken.map (·.id)).Perm taken := by
  rw [List.perm_ext_iff_of_nodup ((List.Nodup.of_map _ unique).filter _)
    (List.Nodup.of_map _ distinct)]
  intro job
  rw [List.mem_filter, decide_eq_true_eq]
  constructor
  · rintro ⟨member, listed⟩
    obtain ⟨other, otherMember, same⟩ := List.mem_map.mp listed
    rw [← eq_of_key_eq unique (inside other otherMember) member same]
    exact otherMember
  · intro member
    exact ⟨inside job member, List.mem_map_of_mem member⟩

/-- `ClaimJobs` with a budget. -/
theorem perform_claimJobs {workerId queueId : UUID} {leaseSeconds : Int} {call : StoreCall}
    (same : call = .claimJobs workerId queueId leaseSeconds)
    (unique : (db.jobs.map (·.id)).Nodup) (admitted : call.Admitted db)
    (registered : call.Registered db) :
    ∃ db' answer, call.perform now rank db = .ok (db', answer) ∧
      ((call.chosen now rank db).map (call.sets now)).Perm answer ∧
      call.Writes now (call.chosen now rank db) db db' := by
  subst same
  obtain ⟨queue, found, positive⟩ := admitted
  have targets : db.claimTargets now rank queueId (db.claimBudget queue) =
      ((StoreCall.claimJobs workerId queueId leaseSeconds).chosen now rank db).map (·.id) := by
    simp only [chosen, budget, found, Option.map_some]
    rfl
  simp only [perform, Database.claimJobs, found]
  rw [if_neg (Int.not_le.mpr positive), if_neg (fun both => both.2 registered), targets]
  refine ⟨_, _, rfl, ?_, ⟨rfl, rfl, rfl, rfl, rfl⟩⟩
  refine List.Perm.trans ?_ (arrange_perm _ _).symm
  refine List.Perm.map _ (filter_taken_perm unique ?_ ?_).symm
  · exact (nodup_order _ _ _ unique).sublist (chosen_sublist.map _)
  · intro job member
    exact (mem_order.mp (chosen_sublist.subset member)).1

/-- The methods that rewrite what the condition of their `UPDATE` selects. -/
theorem perform_rewrites (unbudgeted : call.budget db = none)
    (unique : (db.jobs.map (·.id)).Nodup)
    (writes : ∃ db', call.perform now rank db = .ok (db', call.rewritten now db) ∧
      db'.jobs = update (fun job => (call.takes now).selects job = true) (call.sets now) db.jobs ∧
      db'.deadLetterQueue = call.letters now db ∧ db'.queues = db.queues ∧
      db'.projects = db.projects ∧ db'.workers = db.workers) :
    ∃ db' answer, call.perform now rank db = .ok (db', answer) ∧
      ((call.chosen now rank db).map (call.sets now)).Perm answer ∧
      call.Writes now (call.chosen now rank db) db db' := by
  have all : call.chosen now rank db = call.order now rank db.jobs := by
    rw [chosen, unbudgeted]
  obtain ⟨db', performs, jobs, letters, queues, projects, workers⟩ := writes
  rw [all]
  refine ⟨db', _, performs, order_perm.map _, ⟨?_, letters, queues, projects, workers⟩⟩
  rw [jobs, update_order _ _ _ unique]

/-- `RetryDLQJob` rewrites the one row it has found. -/
theorem rewritten_retryDLQJob {id orgId : UUID} {job : Job} (unique : (db.jobs.map (·.id)).Nodup)
    (found : db.jobs.find? (db.Retriable id orgId) = some job) :
    (StoreCall.retryDLQJob id orgId).rewritten now db = [job.retryDLQ now] := by
  have retriable := List.find?_some found
  rw [decide_eq_true_eq] at retriable
  obtain ⟨rfl, -, -⟩ := retriable
  have alone : db.jobs.filter (fun other => other.id = job.id) = [job] :=
    filter_key_eq_singleton unique (List.mem_of_find?_eq_some found)
  simp only [rewritten, takes, alone]
  rfl

variable (call now rank) in
/-- **What a method does, in terms of the rows its `UPDATE` takes.** -/
theorem perform_spec (unique : (db.jobs.map (·.id)).Nodup) (admitted : call.Admitted db)
    (unfiled : call.Unfiled db) (registered : call.Registered db) :
    ∃ db' answer, call.perform now rank db = .ok (db', answer) ∧
      ((call.chosen now rank db).map (call.sets now)).Perm answer ∧
      call.Writes now (call.chosen now rank db) db db' := by
  have decided : ∀ (selects : Job → Prop) [DecidablePred selects] (rewrite : Job → Job),
      update selects rewrite db.jobs =
        update (fun job => decide (selects job) = true) rewrite db.jobs := by
    intro selects _ rewrite
    refine List.map_congr_left fun job _ => ?_
    simp only [decide_eq_true_eq]
  cases call with
  | claimJobs => exact perform_claimJobs rfl unique admitted registered
  | retryDLQJob id orgId =>
      refine perform_rewrites rfl unique ?_
      obtain ⟨job, member, retriable⟩ := admitted
      cases found : db.jobs.find? (db.Retriable id orgId) with
      | none => exact absurd (decide_eq_true retriable) (List.find?_eq_none.mp found job member)
      | some first =>
          rw [rewritten_retryDLQJob unique found]
          simp only [perform, Database.retryDLQJob, found]
          exact ⟨_, rfl, decided _ _, rfl, rfl, rfl, rfl⟩
  | moveToDLQ jobId reason attempts letterId =>
      refine perform_rewrites rfl unique ?_
      simp only [perform, Database.moveToDLQ]
      rw [if_neg unfiled]
      exact ⟨_, rfl, decided _ _, rfl, rfl, rfl, rfl⟩
  | _ =>
      refine perform_rewrites rfl unique ?_
      exact ⟨_, rfl, decided _ _, rfl, rfl, rfl, rfl⟩

end StoreCall

end JobScheduler
