import Mathlib.Data.Int.Basic

/-!
# Domain types and the database schema

The types of `internal/domain/models.go` and the tables of `migrations/`. The two
coincide for jobs, queues, projects and organizations, so one structure serves as the
row and as the value the Go code holds in memory.

Instants appear in two resolutions. A Go `time.Time` counts nanoseconds (`Time`), a
PostgreSQL `timestamptz` counts microseconds (`Timestamptz`), and the driver drops the
sub-microsecond part when a `time.Time` is sent to the server.

The tables `users` and `scheduled_jobs` are not modelled here: no function of this
development reads or writes them.
-/

set_option autoImplicit false

namespace JobScheduler

/-- A `uuid.UUID`. -/
abbrev UUID := Nat

/-- A Go `time.Time`, in nanoseconds since the epoch. -/
abbrev Time := Int

/-- A PostgreSQL `timestamptz`, in microseconds since the epoch. -/
abbrev Timestamptz := Int

/-- What the driver sends for a `time.Time`: the sub-microsecond part is dropped. -/
def Time.toTimestamptz (t : Time) : Timestamptz := t / 1000

/-- The Go reading of a database instant. -/
def Timestamptz.toTime (t : Timestamptz) : Time := t * 1000

/-- `$n * interval '1 second'`. -/
def intervalSeconds (n : Int) : Timestamptz := n * 1000000

/-! ## JSON -/

/-- A JSON value. A number is `mantissa * 10 ^ exponent`. -/
inductive Json where
  | null
  | bool (value : Bool)
  | number (mantissa exponent : Int)
  | string (value : String)
  | array (items : List Json)
  | object (fields : List (String × Json))

/-! ## Enumerations -/

/-- The enum `job_status`. -/
inductive JobStatus where
  | queued
  | scheduled
  | claimed
  | running
  | completed
  | failed
  | deadLetter
deriving DecidableEq, Repr

/-- The enum `retry_strategy`. -/
inductive RetryStrategy where
  | fixed
  | linear
  | exponential
deriving DecidableEq, Repr

/-- The enum `worker_status`. -/
inductive WorkerStatus where
  | active
  | draining
  | offline
deriving DecidableEq, Repr

/-- `status IN ('claimed', 'running')`: the statuses that occupy a concurrency slot
and carry a lease. -/
def JobStatus.Active (status : JobStatus) : Prop :=
  status = .claimed ∨ status = .running

instance : DecidablePred JobStatus.Active :=
  fun status => inferInstanceAs (Decidable (status = .claimed ∨ status = .running))

theorem JobStatus.Active.ne {status other : JobStatus} (active : status.Active)
    (idle : ¬ other.Active) : status ≠ other := by
  rintro rfl
  exact idle active

/-! ## Rows -/

/-- A row of `organizations`. -/
structure Organization where
  id : UUID
  name : String
  slug : String
  createdAt : Timestamptz
  updatedAt : Timestamptz

/-- A row of `projects`. -/
structure Project where
  id : UUID
  orgId : UUID
  name : String
  slug : String
  description : Option String
  createdAt : Timestamptz
  updatedAt : Timestamptz

/-- A row of `queues`. -/
structure Queue where
  id : UUID
  projectId : UUID
  name : String
  slug : String
  retryPolicyId : Option UUID
  priorityDefault : Int
  concurrencyLimit : Option Int
  paused : Bool
  createdAt : Timestamptz
  updatedAt : Timestamptz

/-- A row of `jobs`. -/
structure Job where
  id : UUID
  queueId : UUID
  status : JobStatus
  priority : Int
  payload : Json
  idempotencyKey : Option String
  nextRunAt : Option Timestamptz
  attempts : Int
  maxAttempts : Int
  retryPolicyId : Option UUID
  workerId : Option UUID
  claimedAt : Option Timestamptz
  leaseExpiresAt : Option Timestamptz
  completedAt : Option Timestamptz
  failedAt : Option Timestamptz
  errorMessage : Option String
  cronExpr : Option String
  batchId : Option UUID
  createdAt : Timestamptz
  updatedAt : Timestamptz

/-- A row of `retry_policies`; the intervals are `time.Duration`s, in nanoseconds. -/
structure RetryPolicy where
  id : UUID
  name : String
  strategy : RetryStrategy
  baseInterval : Int
  maxInterval : Int
  maxAttempts : Int

/-- A row of `dead_letter_queue`. -/
structure DeadLetterEntry where
  jobId : UUID
  originalQueueId : UUID
  payload : Json
  failedAt : Timestamptz
  reason : Option String
  attemptsMade : Int
  createdAt : Timestamptz

/-- A row of `workers`. -/
structure Worker where
  id : UUID
  name : String
  status : WorkerStatus
  createdAt : Timestamptz
  updatedAt : Timestamptz

/-- A row of `worker_heartbeats`. -/
structure WorkerHeartbeat where
  workerId : UUID
  lastSeenAt : Timestamptz
  updatedAt : Timestamptz

/-- The outcome column of `job_executions`. -/
inductive ExecutionStatus where
  | completed
  | failed
deriving DecidableEq, Repr

/-- A row of `job_executions`. -/
structure JobExecution where
  jobId : UUID
  workerId : UUID
  attempt : Int
  status : ExecutionStatus
  startedAt : Timestamptz
  finishedAt : Option Timestamptz
  error : Option String
  durationMs : Option Int

/-- The level column of `job_logs`. -/
inductive LogLevel where
  | info
  | error
deriving DecidableEq, Repr

/-- A row of `job_logs`. -/
structure JobLogEntry where
  jobId : UUID
  level : LogLevel
  message : String

/-- The input of `JobRepository.Create`. -/
structure CreateJobInput where
  queueId : UUID
  priority : Int
  payload : Json
  idempotencyKey : Option String
  nextRunAt : Option Time
  status : JobStatus
  maxAttempts : Int
  cronExpr : Option String
  batchId : Option UUID

/-- The result of `JobRepository.Create`; `created` is false on an idempotency hit. -/
structure CreateJobResult where
  job : Job
  created : Bool

/-! ## The database -/

/-- The errors a store method returns: the domain sentinels it maps to, and the
PostgreSQL errors it passes on. -/
inductive StoreError where
  | notFound
  | conflict
  | foreignKeyViolation
  | uniqueViolation
  | numericOutOfRange
deriving DecidableEq, Repr

/-- The tables. -/
structure Database where
  organizations : List Organization
  projects : List Project
  retryPolicies : List RetryPolicy
  queues : List Queue
  workers : List Worker
  workerHeartbeats : List WorkerHeartbeat
  jobs : List Job
  jobExecutions : List JobExecution
  jobLogs : List JobLogEntry
  deadLetterQueue : List DeadLetterEntry

/-- The database after the migrations, with the given retry policies: no Go code
inserts any. -/
def Database.migrated (policies : List RetryPolicy) : Database where
  organizations := []
  projects := []
  retryPolicies := policies
  queues := []
  workers := []
  workerHeartbeats := []
  jobs := []
  jobExecutions := []
  jobLogs := []
  deadLetterQueue := []

end JobScheduler
