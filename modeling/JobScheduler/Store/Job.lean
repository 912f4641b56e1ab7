import JobScheduler.Store.Tenancy

/-!
# The job repository

`JobRepository.Create`, `ClaimJobs` and `RetryDLQJob` (`internal/store/job.go`), each as
one atomic step: the transaction of `ClaimJobs` and of `RetryDLQJob` commits as a whole.

Two orders are left to the server. Rows that tie in `ORDER BY priority DESC,
next_run_at ASC` are ranked by `tie`, and `UPDATE … RETURNING` emits its rows ranked by
`emit`.

The `SET` list of each statement is a function on rows. None of them touches the columns
fixed at creation, which `Job.fixed` collects.
-/

set_option autoImplicit false

namespace JobScheduler

open Relational

/-- The columns of a job that no statement changes after the insertion. -/
structure FixedColumns where
  id : UUID
  queueId : UUID
  payload : Json
  idempotencyKey : Option String
  maxAttempts : Int
  retryPolicyId : Option UUID

namespace Job

def fixed (job : Job) : FixedColumns :=
  ⟨job.id, job.queueId, job.payload, job.idempotencyKey, job.maxAttempts, job.retryPolicyId⟩

variable {first second : Job}

theorem id_eq_of_fixed (same : first.fixed = second.fixed) : first.id = second.id :=
  congrArg FixedColumns.id same

theorem queueId_eq_of_fixed (same : first.fixed = second.fixed) :
    first.queueId = second.queueId :=
  congrArg FixedColumns.queueId same

theorem idempotencyKey_eq_of_fixed (same : first.fixed = second.fixed) :
    first.idempotencyKey = second.idempotencyKey :=
  congrArg FixedColumns.idempotencyKey same

theorem maxAttempts_eq_of_fixed (same : first.fixed = second.fixed) :
    first.maxAttempts = second.maxAttempts :=
  congrArg FixedColumns.maxAttempts same

/-! ## The rows the statements write -/

/-- The row `Create` inserts. The columns it does not name take their defaults; in
particular `retry_policy_id` is left `NULL`. -/
def inserted (now : Timestamptz) (id : UUID) (input : CreateJobInput) : Job where
  id := id
  queueId := input.queueId
  status := input.status
  priority := input.priority
  payload := input.payload
  idempotencyKey := input.idempotencyKey
  nextRunAt := input.nextRunAt.map Time.toTimestamptz
  attempts := 0
  maxAttempts := input.maxAttempts
  retryPolicyId := none
  workerId := none
  claimedAt := none
  leaseExpiresAt := none
  completedAt := none
  failedAt := none
  errorMessage := none
  cronExpr := input.cronExpr
  batchId := input.batchId
  createdAt := now
  updatedAt := now

/-- The `SET` list of `claimQ`. -/
def claim (now : Timestamptz) (workerId : UUID) (leaseSeconds : Int) (job : Job) : Job :=
  { job with
    status := .claimed
    workerId := some workerId
    claimedAt := some now
    leaseExpiresAt := some (now + intervalSeconds leaseSeconds)
    updatedAt := now }

/-- The `SET` list of `RetryDLQJob`. -/
def retryDLQ (now : Timestamptz) (job : Job) : Job :=
  { job with
    status := .queued
    attempts := 0
    nextRunAt := some now
    failedAt := none
    errorMessage := none
    workerId := none
    claimedAt := none
    leaseExpiresAt := none
    updatedAt := now }

/-! ## What the claim query selects -/

/-- The rows the inner `SELECT` of `claimQ` matches. -/
def Claimable (queueId : UUID) (now : Timestamptz) (job : Job) : Prop :=
  job.queueId = queueId ∧ job.status = .queued ∧ ∃ due ∈ job.nextRunAt, due ≤ now

instance (queueId : UUID) (now : Timestamptz) : DecidablePred (Claimable queueId now) :=
  fun job => inferInstanceAs (Decidable (_ ∧ _ ∧ ∃ due ∈ job.nextRunAt, due ≤ now))

/-- `ORDER BY priority DESC, next_run_at ASC`, ties ranked by `tie`. -/
def ClaimOrder (tie : UUID → Nat) (first second : Job) : Prop :=
  second.priority < first.priority ∨ first.priority = second.priority ∧
    (first.nextRunAt.getD 0 < second.nextRunAt.getD 0 ∨
      first.nextRunAt.getD 0 = second.nextRunAt.getD 0 ∧ tie first.id ≤ tie second.id)

instance (tie : UUID → Nat) : DecidableRel (ClaimOrder tie) :=
  fun _ _ => inferInstanceAs (Decidable (_ ∨ _ ∧ (_ ∨ _ ∧ _)))

end Job

namespace Database

variable (db : Database)

/-- The jobs of a queue that count against its limit. -/
def activeCount (queueId : UUID) : Nat :=
  db.jobs.countP fun job => job.queueId = queueId ∧ job.status.Active

/-- `GREATEST(COALESCE(q.concurrency_limit, 2147483647) - COUNT(*), 0)`. -/
def claimBudget (queue : Queue) : Int :=
  max (queue.concurrencyLimit.getD 2147483647 - db.activeCount queue.id) 0

/-- The identifiers the inner `SELECT` of `claimQ` returns. -/
def claimTargets (now : Timestamptz) (tie : UUID → Nat) (queueId : UUID) (budget : Int) :
    List UUID :=
  (((db.jobs.filter (Job.Claimable queueId now)).insertionSort (Job.ClaimOrder tie)).take
    budget.toNat).map (·.id)

/-- `JobRepository.ClaimJobs`. -/
def claimJobs (now : Timestamptz) (tie emit : UUID → Nat) (workerId queueId : UUID)
    (leaseSeconds : Int) : Except StoreError (Database × List Job) :=
  match db.queues.find? (·.id = queueId) with
  | none => .error .notFound
  | some queue =>
      let budget := db.claimBudget queue
      if budget ≤ 0 then .ok (db, [])
      else
        let targets := db.claimTargets now tie queueId budget
        if targets ≠ [] ∧ ¬ ∃ w ∈ db.workers, w.id = workerId then
          .error .foreignKeyViolation
        else .ok
          ({ db with
              jobs := update (·.id ∈ targets) (Job.claim now workerId leaseSeconds) db.jobs },
            arrange (fun job => emit job.id)
              ((db.jobs.filter (·.id ∈ targets)).map (Job.claim now workerId leaseSeconds)))

/-- `JobRepository.Create`. On a conflict of `(queue_id, idempotency_key)` nothing is
inserted and the existing row is returned. -/
def createJob (now : Timestamptz) (id : UUID) (input : CreateJobInput) :
    Except StoreError (Database × CreateJobResult) :=
  if ¬ (InInt4 input.priority ∧ InInt4 input.maxAttempts) then .error .numericOutOfRange
  else
    match db.jobs.find? fun job => job.queueId = input.queueId ∧
        job.idempotencyKey.isSome ∧ job.idempotencyKey = input.idempotencyKey with
    | some existing => .ok (db, ⟨existing, false⟩)
    | none =>
        if ¬ ∃ q ∈ db.queues, q.id = input.queueId then .error .foreignKeyViolation
        else
          let job := Job.inserted now id input
          .ok ({ db with jobs := db.jobs ++ [job] }, ⟨job, true⟩)

/-- `WithTx` around one `Create` per input: an error rolls all of them back. -/
def createJobBatch (now : Timestamptz) :
    List (UUID × CreateJobInput) → Database → Except StoreError (Database × List Job)
  | [], db => .ok (db, [])
  | (id, input) :: rest, db =>
      match db.createJob now id input with
      | .error e => .error e
      | .ok (db', result) =>
          match createJobBatch now rest db' with
          | .error e => .error e
          | .ok (db'', jobs) => .ok (db'', result.job :: jobs)

/-- The rows `RetryDLQJob` may act on: dead-lettered and of the caller's organization. -/
def Retriable (id orgId : UUID) (job : Job) : Prop :=
  job.id = id ∧ job.status = .deadLetter ∧
    ∃ q ∈ db.queues, q.id = job.queueId ∧ db.QueueInOrg orgId q

instance (id orgId : UUID) : DecidablePred (db.Retriable id orgId) :=
  fun _ => inferInstanceAs (Decidable (_ ∧ _ ∧ ∃ q ∈ db.queues, _ ∧ db.QueueInOrg orgId q))

/-- `JobRepository.RetryDLQJob`. -/
def retryDLQJob (now : Timestamptz) (id orgId : UUID) : Except StoreError (Database × Job) :=
  match db.jobs.find? (db.Retriable id orgId) with
  | none => .error .notFound
  | some job => .ok
      ({ db with
          deadLetterQueue := db.deadLetterQueue.filter (·.jobId ≠ id)
          jobs := update (·.id = id) (Job.retryDLQ now) db.jobs },
        job.retryDLQ now)

/-! ## What the three methods do -/

theorem mem_claimTargets {now : Timestamptz} {tie : UUID → Nat} {queueId id : UUID}
    {budget : Int} (member : id ∈ db.claimTargets now tie queueId budget) :
    ∃ job ∈ db.jobs, job.id = id ∧ job.Claimable queueId now := by
  obtain ⟨job, taken, rfl⟩ := List.mem_map.mp member
  have sorted := List.mem_of_mem_take taken
  rw [List.mem_insertionSort, List.mem_filter, decide_eq_true_eq] at sorted
  exact ⟨job, sorted.1, rfl, sorted.2⟩

theorem length_claimTargets_le (now : Timestamptz) (tie : UUID → Nat) (queueId : UUID)
    (budget : Int) : (db.claimTargets now tie queueId budget).length ≤ budget.toNat := by
  rw [claimTargets, List.length_map, List.length_take]
  exact min_le_left _ _

/-- A successful `ClaimJobs` rewrites the target rows, all of them claimable, and returns
exactly the rewritten rows. -/
theorem claimJobs_spec {now : Timestamptz} {tie emit : UUID → Nat} {workerId queueId : UUID}
    {leaseSeconds : Int} {db' : Database} {jobs : List Job}
    (claims : db.claimJobs now tie emit workerId queueId leaseSeconds = .ok (db', jobs)) :
    ∃ targets : List UUID,
      (∀ id ∈ targets, ∃ job ∈ db.jobs, job.id = id ∧ job.Claimable queueId now) ∧
      db' = { db with
        jobs := update (·.id ∈ targets) (Job.claim now workerId leaseSeconds) db.jobs } ∧
      jobs.Perm ((db.jobs.filter (·.id ∈ targets)).map (Job.claim now workerId leaseSeconds)) := by
  unfold claimJobs at claims
  split at claims
  · cases claims
  next queue _ =>
    dsimp only at claims
    split at claims
    · -- the budget is used up: the transaction commits without claiming
      cases claims
      refine ⟨[], by simp, ?_, by simp⟩
      rw [update_eq_self (by simp)]
    · split at claims
      · cases claims
      · cases claims
        exact ⟨_, fun id member => db.mem_claimTargets member, rfl, arrange_perm _ _⟩

/-- A successful `Create` inserts the row or returns an existing one. -/
theorem createJob_spec {now : Timestamptz} {id : UUID} {input : CreateJobInput}
    {db' : Database} {result : CreateJobResult}
    (creates : db.createJob now id input = .ok (db', result)) :
    db' = db ∨
      db' = { db with jobs := db.jobs ++ [Job.inserted now id input] } ∧
      (∃ q ∈ db.queues, q.id = input.queueId) ∧
      ∀ job ∈ db.jobs, job.queueId = input.queueId → job.idempotencyKey.isSome →
        job.idempotencyKey ≠ input.idempotencyKey := by
  unfold createJob at creates
  split at creates
  · cases creates
  · split at creates
    · cases creates
      exact .inl rfl
    next absent =>
      split at creates
      · cases creates
      next queueExists =>
        cases creates
        refine .inr ⟨rfl, not_not.mp queueExists, ?_⟩
        intro job member sameQueue keyed sameKey
        have free := List.find?_eq_none.mp absent job member
        exact free (decide_eq_true ⟨sameQueue, keyed, sameKey⟩)

/-- The job a `Create` reports as created is the inserted row. -/
theorem createJob_created {now : Timestamptz} {id : UUID} {input : CreateJobInput}
    {db' : Database} {result : CreateJobResult}
    (creates : db.createJob now id input = .ok (db', result)) (created : result.created = true) :
    result.job = Job.inserted now id input := by
  unfold createJob at creates
  split at creates
  · cases creates
  · split at creates
    · cases creates
      cases created
    · split at creates
      · cases creates
      · cases creates
        rfl

/-- A successful `RetryDLQJob` acts on a dead-lettered row. -/
theorem retryDLQJob_spec {now : Timestamptz} {id orgId : UUID} {db' : Database} {job : Job}
    (retries : db.retryDLQJob now id orgId = .ok (db', job)) :
    (∃ old ∈ db.jobs, old.id = id ∧ old.status = .deadLetter) ∧
      db' = { db with
        deadLetterQueue := db.deadLetterQueue.filter (·.jobId ≠ id)
        jobs := update (·.id = id) (Job.retryDLQ now) db.jobs } := by
  unfold retryDLQJob at retries
  split at retries
  · cases retries
  next old found =>
    cases retries
    have retriable := List.find?_some found
    rw [decide_eq_true_eq] at retriable
    exact ⟨⟨old, List.mem_of_find?_eq_some found, retriable.1, retriable.2.1⟩, rfl⟩

end Database

end JobScheduler
