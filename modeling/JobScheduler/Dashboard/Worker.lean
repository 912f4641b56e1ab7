import JobScheduler.Dashboard.Router
import JobScheduler.Store.Reaper

/-!
# The worker of the dashboard

`runWorkerTick` of `dashboard/src/server/worker.ts`, as a program counter over the statements it
sends. Every statement is a transaction of its own. A counter names what the tick does next,
with the local variables that are live there; `TickPc.step` is what happens when it is done.

A tick has no error boundary but the one around the handler: a statement that the server
rejects, or a payload that `JSON.parse` rejects, ends it. The driver returns a `jsonb` column as
the parsed value.

The orders the server chooses and the identifiers it draws come with each step. The text of
`String(payload.message || "simulated failure")`, or of the error this throws, is a parameter.
-/

set_option autoImplicit false

namespace JobScheduler

open Relational

/-! ## The rows the statements write -/

namespace Job

/-- The `SET` list of `reaper`, which leaves `next_run_at`. -/
def reap (now : Timestamptz) (job : Job) : Job :=
  { job with
    status := .queued
    workerId := none
    claimedAt := none
    leaseExpiresAt := none
    updatedAt := now }

/-- The first write of `executeJob`. -/
def startAttempt (now : Timestamptz) (attempt : Int) (job : Job) : Job :=
  { job with status := .running, attempts := attempt, updatedAt := now }

/-- The write after the handler succeeded, which leaves `claimed_at`. -/
def finish (now : Timestamptz) (job : Job) : Job :=
  { job with
    status := .completed
    completedAt := some now
    workerId := none
    leaseExpiresAt := none
    errorMessage := none
    updatedAt := now }

/-- The write after the last attempt failed. -/
def bury (now : Timestamptz) (errMsg : String) (job : Job) : Job :=
  { job with
    status := .deadLetter
    failedAt := some now
    errorMessage := some errMsg
    workerId := none
    leaseExpiresAt := none
    updatedAt := now }

/-- The write after another attempt failed. -/
def postpone (now : Timestamptz) (errMsg : String) (job : Job) : Job :=
  { job with
    status := .queued
    failedAt := some now
    errorMessage := some errMsg
    workerId := none
    claimedAt := none
    leaseExpiresAt := none
    nextRunAt := some (now + intervalSeconds 5)
    updatedAt := now }

/-- The rows that the claim of a tick matches. -/
def Due (queueId : UUID) (now : Timestamptz) (job : Job) : Prop :=
  job.queueId = queueId ∧ job.status = .queued ∧ ∀ due ∈ job.nextRunAt, due ≤ now

instance (queueId : UUID) (now : Timestamptz) : DecidablePred (Due queueId now) :=
  fun job => inferInstanceAs (Decidable (_ ∧ _ ∧ ∀ due ∈ job.nextRunAt, due ≤ now))

/-- `first < second` in an order with `NULLS FIRST`. -/
def NullsFirst : Option Timestamptz → Option Timestamptz → Prop
  | none, some _ => True
  | some first, some second => first < second
  | _, none => False

instance : DecidableRel NullsFirst
  | none, some _ => isTrue trivial
  | some first, some second => inferInstanceAs (Decidable (first < second))
  | none, none => isFalse fun before => before
  | some _, none => isFalse fun before => before

/-- `ORDER BY priority DESC, next_run_at ASC NULLS FIRST`, ties ranked by `tie`. -/
def DueOrder (tie : UUID → Nat) (first second : Job) : Prop :=
  second.priority < first.priority ∨ first.priority = second.priority ∧
    (NullsFirst first.nextRunAt second.nextRunAt ∨
      first.nextRunAt = second.nextRunAt ∧ tie first.id ≤ tie second.id)

instance (tie : UUID → Nat) : DecidableRel (DueOrder tie) :=
  fun _ _ => inferInstanceAs (Decidable (_ ∨ _ ∧ (_ ∨ _ ∧ _)))

end Job

namespace Dashboard

/-- `WORKER_NAME`. -/
def workerName : String := "vercel-worker-1"

/-- `LEASE_SECONDS`. -/
def leaseSeconds : Int := 30

/-! ## The handler -/

/-- A member of a JavaScript object. -/
def property (key : String) (fields : List (String × Json)) : Option Json :=
  (fields.reverse.find? fun field => field.1 = key).map (·.2)

mutual

/-- `Number(value)` throws: an object whose own `toString` is no function, or an array with such
an object in it. -/
def unconvertible : Json → Bool
  | .object fields => fields.any fun field => field.1 = "toString"
  | .array items => anyUnconvertible items
  | _ => false

def anyUnconvertible : List Json → Bool
  | [] => false
  | item :: rest => unconvertible item || anyUnconvertible rest

end

/-- The handler, for a payload that is parsed: the error message, or `none` on success. Types
other than these two succeed. -/
def handlerError (message : Json → String) : Json → Option String
  | .null => some "Cannot read properties of null (reading 'type')"
  | .object fields =>
      match property "type" fields with
      | some (.string "sleep") =>
          if (property "duration_ms" fields).any unconvertible then
            some "Cannot convert object to primitive value"
          else none
      | some (.string "always_fail") => some (message (.object fields))
      | _ => none
  | _ => none

/-- `typeof job.payload === "string" ? JSON.parse(job.payload) : job.payload`. -/
def parsePayload (parseJson : String → Except String Json) : Json → Except String Json
  | .string text => parseJson text
  | payload => .ok payload

/-! ## Statements -/

/-- What the server decides in a statement: the order of a result, how rows tie, the order in
which an update returns its rows, and the identifier of an inserted row. -/
structure Choice where
  rank : UUID → Nat
  tie : UUID → Nat
  emit : UUID → Nat
  fresh : UUID

section Statements

variable (now : Timestamptz) (site : Site)

/-- `reaper`. -/
def reaper : Site :=
  { site with jobs := update (Job.Orphaned now) (Job.reap now) site.jobs }

/-- `SELECT id FROM workers WHERE name = … LIMIT 1`. -/
def findWorker (rank : UUID → Nat) : Option UUID :=
  ((arrange (rank ·.id) (site.workers.filter (·.name = workerName))).head?).map (·.id)

/-- The upsert into `worker_heartbeats`. -/
def beat (workerId : UUID) : Site :=
  { site with
    workerHeartbeats :=
      if ∃ b ∈ site.workerHeartbeats, b.workerId = workerId then
        update (·.workerId = workerId) (fun b => { b with lastSeenAt := now, updatedAt := now })
          site.workerHeartbeats
      else site.workerHeartbeats ++ [⟨workerId, now, now⟩] }

/-- `UPDATE workers SET status = 'active'`. -/
def activate (workerId : UUID) : Site :=
  { site with
    workers := update (·.id = workerId) (fun w => { w with status := .active, updatedAt := now })
      site.workers }

/-- `INSERT INTO workers`. -/
def insertWorker (fresh : UUID) : Site :=
  { site with workers := site.workers ++ [⟨fresh, workerName, .active, now, now⟩] }

/-- `INSERT INTO worker_heartbeats`. -/
def insertBeat (workerId : UUID) : Except StoreError Site :=
  if ∃ b ∈ site.workerHeartbeats, b.workerId = workerId then .error .uniqueViolation
  else .ok { site with workerHeartbeats := site.workerHeartbeats ++ [⟨workerId, now, now⟩] }

/-- `SELECT id FROM queues WHERE paused = FALSE`. -/
def activeQueues (rank : UUID → Nat) : List UUID :=
  (arrange (rank ·.id) (site.queues.filter (·.paused = false))).map (·.id)

/-- `GREATEST(COALESCE(concurrency_limit, 5) - COUNT(*)::int, 0)`, zero without a row. The cast
and the subtraction are those of `INT`. -/
def readBudget (queueId : UUID) : Except StoreError Int :=
  match site.queues.find? (·.id = queueId) with
  | none => .ok 0
  | some queue =>
      let active : Int := site.core.activeCount queueId
      let left := queue.concurrencyLimit.getD 5 - active
      if ¬ (InInt4 active ∧ InInt4 left) then .error .numericOutOfRange
      else .ok (max left 0)

/-- The identifiers the inner `SELECT` of the claim returns. -/
def dueTargets (tie : UUID → Nat) (queueId : UUID) (budget : Int) : List UUID :=
  (((site.jobs.filter (Job.Due queueId now)).insertionSort (Job.DueOrder tie)).take
    budget.toNat).map (·.id)

/-- The claim, with the rows it returns. -/
def claimDue (choice : Choice) (workerId queueId : UUID) (budget : Int) :
    Except StoreError (Site × List Job) :=
  let targets := dueTargets now site choice.tie queueId budget
  if targets ≠ [] ∧ ¬ ∃ w ∈ site.workers, w.id = workerId then .error .foreignKeyViolation
  else .ok
    ({ site with jobs := update (·.id ∈ targets) (Job.claim now workerId leaseSeconds) site.jobs },
      arrange (choice.emit ·.id)
        ((site.jobs.filter (·.id ∈ targets)).map (Job.claim now workerId leaseSeconds)))

/-- An update of one job. -/
def rewriteJob (jobId : UUID) (rewrite : Job → Job) : Site :=
  { site with jobs := update (·.id = jobId) rewrite site.jobs }

/-- `REFERENCES jobs(id)`. -/
def withJob (jobId : UUID) (inserted : Site) : Except StoreError Site :=
  if ¬ ∃ j ∈ site.jobs, j.id = jobId then .error .foreignKeyViolation else .ok inserted

/-- `INSERT INTO job_executions`. -/
def insertExecution (fresh jobId workerId : UUID) (attempt : Int) : Except StoreError Site :=
  withJob site jobId { site with
    executions := site.executions ++
      [⟨fresh, jobId, some workerId, attempt, "running", now, none, none, none, now, now⟩] }

/-- `UPDATE job_executions`, with the error of a failure. -/
def finishExecution (executionId : UUID) (status : String) (duration : Int)
    (error : Option String) : Site :=
  { site with
    executions := update (·.id = executionId)
      (fun e => { e with
        status := status
        finishedAt := some now
        durationMs := some duration
        error := error.orElse fun _ => e.error
        updatedAt := now })
      site.executions }

/-- `INSERT INTO job_logs`. -/
def insertLog (fresh jobId : UUID) (level message : String) : Except StoreError Site :=
  withJob site jobId { site with logs := site.logs ++ [⟨fresh, jobId, level, message, none, now⟩] }

/-- `INSERT INTO dead_letter_queue … ON CONFLICT (job_id) DO NOTHING`. -/
def insertLetter (fresh : UUID) (job : Job) (payload : Json) (reason : String) (attempt : Int) :
    Except StoreError Site :=
  if ∃ l ∈ site.letters, l.entry.jobId = job.id then .ok site
  else if ¬ ∃ q ∈ site.queues, q.id = job.queueId then .error .foreignKeyViolation
  else withJob site job.id { site with
    letters := site.letters ++
      [⟨fresh, ⟨job.id, job.queueId, payload, now, some reason, attempt, now⟩⟩] }

end Statements

/-! ## `executeJob` -/

/-- What happens to jobs, beyond what the tables show afterwards. -/
inductive Event where
  /-- The handler starts on the payload. -/
  | executed (jobId : UUID)
  /-- The row is written by the `UPDATE` of a retry, or inserted. -/
  | reset (jobId : UUID)
  /-- The claim of a tick returns the rows. -/
  | claimed (jobIds : List UUID)
deriving DecidableEq

/-- The next statement of an execution, or the handler. -/
inductive ExecPc where
  /-- `JSON.parse`, and the update to `running`. -/
  | setRunning
  | insertExecution (payload : Json)
  | logStarted (payload : Json) (executionId : UUID)
  /-- The `try` block, about to be entered. -/
  | start (payload : Json) (executionId : UUID)
  /-- In the `try` block. -/
  | handling (payload : Json) (executionId : UUID) (since : Timestamptz)
  | complete (executionId : UUID) (duration : Int)
  | recordCompleted (executionId : UUID) (duration : Int)
  | logCompleted
  | deadLetter (errMsg : String) (payload : Json) (executionId : UUID) (duration : Int)
  | insertLetter (errMsg : String) (payload : Json) (executionId : UUID) (duration : Int)
  | requeue (errMsg : String) (executionId : UUID) (duration : Int)
  | recordFailed (errMsg : String) (executionId : UUID) (duration : Int)
  | logFailed (errMsg : String)

/-- The parameters of a tick. -/
structure TickEnv where
  parseJson : String → Except String Json
  describe : StoreError → String
  message : Json → String

/-- `attempt`, from the row that the claim returned. -/
def attemptOf (job : Job) : Int := job.attempts + 1

/-- Where an execution goes when the handler is done. -/
def afterHandler (job : Job) (payload : Json) (executionId : UUID) (duration : Int) :
    Option String → ExecPc
  | none => .complete executionId duration
  | some errMsg =>
      if job.maxAttempts ≤ attemptOf job then .deadLetter errMsg payload executionId duration
      else .requeue errMsg executionId duration

section

variable (env : TickEnv) (choice : Choice) (now : Timestamptz)

/-- Go on after a statement, or throw. -/
def proceed {α β : Type} (result : Except StoreError α) (next : α → β) : Except String β :=
  match result with
  | .error e => .error (env.describe e)
  | .ok value => .ok (next value)

/-- One step of `executeJob`: the tables, the next counter (`none` when it returns) and the
event. An error is thrown out of the tick. -/
def ExecPc.step (workerId : UUID) (job : Job) (site : Site) :
    ExecPc → Except String (Site × Option ExecPc × Option Event)
  | .setRunning =>
      match parsePayload env.parseJson job.payload with
      | .error message => .error message
      | .ok payload => .ok
          (rewriteJob site job.id (Job.startAttempt now (attemptOf job)),
            some (.insertExecution payload), none)
  | .insertExecution payload =>
      proceed env (Dashboard.insertExecution now site choice.fresh job.id workerId (attemptOf job))
        fun site' => (site', some (.logStarted payload choice.fresh), none)
  | .logStarted payload executionId =>
      proceed env (insertLog now site choice.fresh job.id "info" "Job started")
        fun site' => (site', some (.start payload executionId), none)
  | .start payload executionId =>
      .ok (site, some (.handling payload executionId now), some (.executed job.id))
  | .handling payload executionId since =>
      .ok (site, some (afterHandler job payload executionId (now / 1000 - since / 1000)
        (handlerError env.message payload)), none)
  | .complete executionId duration =>
      .ok (rewriteJob site job.id (Job.finish now),
        some (.recordCompleted executionId duration), none)
  | .recordCompleted executionId duration =>
      .ok (finishExecution now site executionId "completed" duration none, some .logCompleted, none)
  | .logCompleted =>
      proceed env (insertLog now site choice.fresh job.id "info" "Job completed")
        fun site' => (site', none, none)
  | .deadLetter errMsg payload executionId duration =>
      .ok (rewriteJob site job.id (Job.bury now errMsg),
        some (.insertLetter errMsg payload executionId duration), none)
  | .insertLetter errMsg payload executionId duration =>
      proceed env (Dashboard.insertLetter now site choice.fresh job payload errMsg (attemptOf job))
        fun site' => (site', some (.recordFailed errMsg executionId duration), none)
  | .requeue errMsg executionId duration =>
      .ok (rewriteJob site job.id (Job.postpone now errMsg),
        some (.recordFailed errMsg executionId duration), none)
  | .recordFailed errMsg executionId duration =>
      .ok (finishExecution now site executionId "failed" duration (some errMsg),
        some (.logFailed errMsg), none)
  | .logFailed errMsg =>
      proceed env (insertLog now site choice.fresh job.id "error" errMsg)
        fun site' => (site', none, none)

/-! ## `runWorkerTick` -/

/-- The next statement of a tick. The queues and jobs that the loops have yet to come to are
listed behind the ones they are at. -/
inductive TickPc where
  | reap
  | findWorker
  | beat (workerId : UUID)
  | activate (workerId : UUID)
  | insertWorker
  | insertBeat (workerId : UUID)
  | listQueues (workerId : UUID)
  | budget (workerId queueId : UUID) (queues : List UUID)
  | claim (workerId queueId : UUID) (budget : Int) (queues : List UUID)
  | execute (workerId : UUID) (job : Job) (pc : ExecPc) (jobs : List Job) (queues : List UUID)
  | returned
  | threw (message : String)
  /-- The process was killed, or the connection lost. -/
  | killed

/-- The head of the two loops. -/
def TickPc.resume (workerId : UUID) (jobs : List Job) (queues : List UUID) : TickPc :=
  match jobs, queues with
  | job :: jobs, queues => .execute workerId job .setRunning jobs queues
  | [], queueId :: queues => .budget workerId queueId queues
  | [], [] => .returned

/-- The tick still has something to do. -/
def TickPc.running : TickPc → Bool
  | .returned | .threw _ | .killed => false
  | _ => true

/-- One step of a tick: the tables, the next counter, whether an execution is done, and the
event. There is none when the tick is over. -/
def TickPc.step (site : Site) :
    TickPc → Option (Except String (Site × TickPc × Bool × Option Event))
  | .reap => some (.ok (reaper now site, .findWorker, false, none))
  | .findWorker => some (.ok (site,
      match Dashboard.findWorker site choice.rank with
      | some workerId => .beat workerId
      | none => .insertWorker, false, none))
  | .beat workerId => some (.ok (Dashboard.beat now site workerId, .activate workerId, false, none))
  | .activate workerId => some (.ok
      (Dashboard.activate now site workerId, .listQueues workerId, false, none))
  | .insertWorker => some (.ok
      (Dashboard.insertWorker now site choice.fresh, .insertBeat choice.fresh, false, none))
  | .insertBeat workerId => some (proceed env (Dashboard.insertBeat now site workerId) fun site' =>
      (site', .listQueues workerId, false, none))
  | .listQueues workerId => some (.ok
      (site, .resume workerId [] (activeQueues site choice.rank), false, none))
  | .budget workerId queueId queues => some (proceed env (readBudget site queueId) fun left =>
      (site, if left ≤ 0 then .resume workerId [] queues
        else .claim workerId queueId left queues, false, none))
  | .claim workerId queueId left queues =>
      some (proceed env (claimDue now site choice workerId queueId left) fun claimed =>
        (claimed.1, .resume workerId claimed.2 queues, false,
          some (.claimed (claimed.2.map (·.id)))))
  | .execute workerId job pc jobs queues =>
      some ((pc.step env choice now workerId job site).map fun done =>
        match done.2.1 with
        | some pc' => (done.1, .execute workerId job pc' jobs queues, false, done.2.2)
        | none => (done.1, .resume workerId jobs queues, true, done.2.2))
  | .returned | .threw _ | .killed => none

end

end Dashboard

end JobScheduler
