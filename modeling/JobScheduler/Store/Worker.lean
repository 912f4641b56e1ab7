import JobScheduler.Store.Job

/-!
# The worker store

The methods of `WorkerStore` (`internal/store/worker_store.go`). Each job transition is
one `UPDATE` addressed by job id only: there is no condition on the worker or on the
current status.
-/

set_option autoImplicit false

namespace JobScheduler

open Relational

namespace Job

/-! ## The rows the statements write -/

/-- The `SET` list of `SetJobRunning`. -/
def setRunning (now : Timestamptz) (job : Job) : Job :=
  { job with status := .running, updatedAt := now }

/-- The `SET` list of `CompleteJob`. -/
def complete (now : Timestamptz) (job : Job) : Job :=
  { job with status := .completed, completedAt := some now, updatedAt := now }

/-- The `SET` list of `FailJob`. -/
def fail (now : Timestamptz) (errMsg : String) (newAttempts : Int) (job : Job) : Job :=
  { job with
    status := .failed
    failedAt := some now
    errorMessage := some errMsg
    attempts := newAttempts
    updatedAt := now }

/-- The `SET` list of `RequeueForRetry`. -/
def requeueForRetry (now : Timestamptz) (nextRunAt : Time) (attempts : Int) (job : Job) : Job :=
  { job with
    status := .queued
    nextRunAt := some nextRunAt.toTimestamptz
    attempts := attempts
    workerId := none
    claimedAt := none
    leaseExpiresAt := none
    failedAt := none
    errorMessage := none
    updatedAt := now }

/-- The `SET` list of the `UPDATE` of `MoveToDLQ`. -/
def deadLetter (now : Timestamptz) (reason : String) (attempts : Int) (job : Job) : Job :=
  { job with
    status := .deadLetter
    attempts := attempts
    failedAt := some now
    errorMessage := some reason
    updatedAt := now }

/-- The row of the `INSERT` of `MoveToDLQ`. -/
def deadLetterEntry (now : Timestamptz) (reason : String) (attempts : Int) (job : Job) :
    DeadLetterEntry where
  jobId := job.id
  originalQueueId := job.queueId
  payload := job.payload
  failedAt := now
  reason := some reason
  attemptsMade := attempts
  createdAt := now

/-- The `SET` list of `ReleaseJobs`. -/
def release (now : Timestamptz) (job : Job) : Job :=
  { job with
    status := .queued
    workerId := none
    claimedAt := none
    leaseExpiresAt := none
    updatedAt := now }

/-- The `SET` list of the lease renewal of `Heartbeat`. -/
def renewLease (now : Timestamptz) (leaseSeconds : Int) (job : Job) : Job :=
  { job with
    leaseExpiresAt := some (now + intervalSeconds leaseSeconds)
    updatedAt := now }

/-- The rows `Heartbeat` renews. -/
def RenewedBy (workerId : UUID) (job : Job) : Prop :=
  job.workerId = some workerId ∧ job.status.Active

instance (workerId : UUID) : DecidablePred (RenewedBy workerId) :=
  fun _ => inferInstanceAs (Decidable (_ ∧ _))

/-- The rows `ReleaseJobs` requeues. -/
def ReleasedBy (workerId : UUID) (job : Job) : Prop :=
  job.workerId = some workerId ∧ job.status = .claimed

instance (workerId : UUID) : DecidablePred (ReleasedBy workerId) :=
  fun _ => inferInstanceAs (Decidable (_ ∧ _))

end Job

namespace Database

variable (db : Database)

/-! ## Workers -/

/-- `RegisterWorker`: the worker and its first heartbeat. -/
def registerWorker (now : Timestamptz) (id : UUID) (name : String) : Database :=
  { db with
    workers := db.workers ++ [⟨id, name, .active, now, now⟩]
    workerHeartbeats := db.workerHeartbeats ++ [⟨id, now, now⟩] }

/-- `DeregisterWorker`. -/
def deregisterWorker (now : Timestamptz) (workerId : UUID) : Database :=
  { db with
    workers := update (·.id = workerId)
      (fun w => { w with status := .offline, updatedAt := now }) db.workers }

/-- `Heartbeat`: touch the heartbeat row and renew the leases of the worker's active
jobs. -/
def heartbeat (now : Timestamptz) (workerId : UUID) (leaseSeconds : Int) : Database :=
  { db with
    workerHeartbeats := update (·.workerId = workerId)
      (fun beat => { beat with lastSeenAt := now, updatedAt := now }) db.workerHeartbeats
    jobs := update (Job.RenewedBy workerId) (Job.renewLease now leaseSeconds) db.jobs }

/-- `ListActiveQueues`, in the order the server emits the rows. -/
def listActiveQueues (emit : UUID → Nat) : List Queue :=
  arrange (fun queue => emit queue.id) (db.queues.filter fun queue => ¬ queue.paused)

/-! ## Job transitions -/

/-- `SetJobRunning`. -/
def setJobRunning (now : Timestamptz) (jobId : UUID) : Database :=
  { db with jobs := update (·.id = jobId) (Job.setRunning now) db.jobs }

/-- `CompleteJob`. -/
def completeJob (now : Timestamptz) (jobId : UUID) : Database :=
  { db with jobs := update (·.id = jobId) (Job.complete now) db.jobs }

/-- `FailJob`. -/
def failJob (now : Timestamptz) (jobId : UUID) (errMsg : String) (newAttempts : Int) :
    Database :=
  { db with jobs := update (·.id = jobId) (Job.fail now errMsg newAttempts) db.jobs }

/-- `RequeueForRetry`. -/
def requeueForRetry (now : Timestamptz) (jobId : UUID) (nextRunAt : Time) (attempts : Int) :
    Database :=
  { db with jobs := update (·.id = jobId) (Job.requeueForRetry now nextRunAt attempts) db.jobs }

/-- `MoveToDLQ`. A second entry for the same job breaks the unique constraint on
`dead_letter_queue.job_id` and rolls the whole transaction back. -/
def moveToDLQ (now : Timestamptz) (jobId : UUID) (reason : String) (attempts : Int) :
    Except StoreError Database :=
  let moved := db.jobs.filter (·.id = jobId)
  if moved ≠ [] ∧ ∃ entry ∈ db.deadLetterQueue, entry.jobId = jobId then
    .error .uniqueViolation
  else .ok { db with
    jobs := update (·.id = jobId) (Job.deadLetter now reason attempts) db.jobs
    deadLetterQueue := db.deadLetterQueue ++
      moved.map (Job.deadLetterEntry now reason attempts) }

/-- `ReleaseJobs`. -/
def releaseJobs (now : Timestamptz) (workerId : UUID) : Database :=
  { db with jobs := update (Job.ReleasedBy workerId) (Job.release now) db.jobs }

/-! ## Lookups and history -/

/-- `GetRetryPolicy`. -/
def getRetryPolicy (policyId : UUID) : Except StoreError RetryPolicy :=
  match db.retryPolicies.find? (·.id = policyId) with
  | some policy => .ok policy
  | none => .error .notFound

/-- `IsIdempotencyKeyCompleted`: any completed job with the key, in any queue. -/
def isIdempotencyKeyCompleted (key : String) : Bool :=
  db.jobs.any fun job => job.idempotencyKey = some key ∧ job.status = .completed

/-- `RecordExecution`. -/
def recordExecution (execution : JobExecution) : Except StoreError Database :=
  if ¬ ∀ duration ∈ execution.durationMs, InInt4 duration then .error .numericOutOfRange
  else if ¬ (∃ job ∈ db.jobs, job.id = execution.jobId) ∨
      ¬ ∃ w ∈ db.workers, w.id = execution.workerId then
    .error .foreignKeyViolation
  else .ok { db with jobExecutions := db.jobExecutions ++ [execution] }

/-- `AppendJobLog`. -/
def appendJobLog (entry : JobLogEntry) : Except StoreError Database :=
  if ¬ ∃ job ∈ db.jobs, job.id = entry.jobId then .error .foreignKeyViolation
  else .ok { db with jobLogs := db.jobLogs ++ [entry] }

/-! ## What the fallible methods do -/

theorem isIdempotencyKeyCompleted_iff {key : String} :
    db.isIdempotencyKeyCompleted key = true ↔
      ∃ job ∈ db.jobs, job.idempotencyKey = some key ∧ job.status = .completed := by
  simp [isIdempotencyKeyCompleted]

theorem moveToDLQ_spec {now : Timestamptz} {jobId : UUID} {reason : String} {attempts : Int}
    {db' : Database} (moves : db.moveToDLQ now jobId reason attempts = .ok db') :
    db' = { db with
      jobs := update (·.id = jobId) (Job.deadLetter now reason attempts) db.jobs
      deadLetterQueue := db.deadLetterQueue ++
        (db.jobs.filter (·.id = jobId)).map (Job.deadLetterEntry now reason attempts) } ∧
    ((∃ job ∈ db.jobs, job.id = jobId) → ∀ entry ∈ db.deadLetterQueue, entry.jobId ≠ jobId) := by
  unfold moveToDLQ at moves
  dsimp only at moves
  split at moves
  · cases moves
  next free =>
    cases moves
    refine ⟨rfl, ?_⟩
    rintro ⟨job, member, same⟩ entry entryMember clash
    refine free ⟨?_, entry, entryMember, clash⟩
    exact List.ne_nil_of_mem (List.mem_filter.mpr ⟨member, decide_eq_true same⟩)

/-- The only way `MoveToDLQ` fails on its own is an entry left over for the job. -/
theorem moveToDLQ_error {now : Timestamptz} {jobId : UUID} {reason : String} {attempts : Int}
    {error : StoreError} (fails : db.moveToDLQ now jobId reason attempts = .error error) :
    ∃ entry ∈ db.deadLetterQueue, entry.jobId = jobId := by
  unfold moveToDLQ at fails
  dsimp only at fails
  split at fails
  next clash => exact clash.2
  · cases fails

theorem recordExecution_spec {execution : JobExecution} {db' : Database}
    (records : db.recordExecution execution = .ok db') :
    db' = { db with jobExecutions := db.jobExecutions ++ [execution] } := by
  unfold recordExecution at records
  split at records
  · cases records
  · split at records
    · cases records
    · cases records
      rfl

theorem appendJobLog_spec {entry : JobLogEntry} {db' : Database}
    (appends : db.appendJobLog entry = .ok db') :
    db' = { db with jobLogs := db.jobLogs ++ [entry] } := by
  unfold appendJobLog at appends
  split at appends
  · cases appends
  · cases appends
    rfl

end Database

end JobScheduler
