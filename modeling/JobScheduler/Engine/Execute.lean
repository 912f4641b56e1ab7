import JobScheduler.Store.Reaper
import JobScheduler.Retry.Backoff

/-!
# Executing a claimed job

`executeJob` and `handleFailure` (`internal/worker/engine.go`) as a program counter over
the store calls and the handler call they make. A counter names the call made next, with
the local variables that are live there; `advance` is what happens when that call
returns.

A store call either succeeds or fails without effect. The code logs most errors and goes
on; only a failed `SetJobRunning` ends the execution early. The handler is free to return
anything at any time.
-/

set_option autoImplicit false

namespace JobScheduler

open Relational

/-! ## Resolving the handler -/

/-- Go matches an object key with a struct field up to the case of the letters. -/
def keyFoldsTo (key field : String) : Bool :=
  key.toList.map Char.toLower = field.toList

/-- The value left in the `type` field by decoding the members of an object in order.
A string overwrites the field, `null` leaves it, and any other value is a type error. -/
def decodeType : List (String × Json) → Option String → Option String
  | [], decoded => decoded
  | (key, value) :: rest, decoded =>
      if keyFoldsTo key "type" then
        match value with
        | .string text => decodeType rest (decoded.map fun _ => text)
        | .null => decodeType rest decoded
        | _ => decodeType rest none
      else decodeType rest decoded

/-- `extractType`. -/
def extractType : Json → String
  | .object fields =>
      match decodeType fields (some "") with
      | some text => if text = "" then "unknown" else text
      | none => "unknown"
  | _ => "unknown"

/-! ## The program counter -/

/-- The next call of a claimed job's execution. -/
inductive Pc where
  /-- Returned by `ClaimJobs`, waiting in `dispatch` for a pool slot. -/
  | pending
  /-- `IsIdempotencyKeyCompleted`. -/
  | gate (key : String)
  /-- `CompleteJob` after an idempotency hit. -/
  | completeIdempotent
  /-- `SetJobRunning`. -/
  | setRunning
  /-- `AppendJobLog`, before the handler. -/
  | logStarted (jobType : String)
  /-- `handler.Handle`, about to be called. -/
  | startHandler
  /-- `handler.Handle`, called at `start`. -/
  | handling (start : Time)
  /-- `CompleteJob` after the handler returned nil. -/
  | complete (start finish : Time)
  /-- `AppendJobLog` of the success. -/
  | logCompleted (start finish : Time)
  /-- `RecordExecution` of the success. -/
  | recordCompleted (start finish : Time)
  /-- `RecordExecution` of the failure. -/
  | recordFailed (errMsg : String) (start finish : Time)
  /-- `AppendJobLog` of the failure. -/
  | logFailed (errMsg : String)
  /-- `MoveToDLQ`. -/
  | moveToDLQ (errMsg : String)
  /-- `GetRetryPolicy`. -/
  | getRetryPolicy (errMsg : String) (policyId : UUID)
  /-- `FailJob`. -/
  | failJob (errMsg : String) (nextRunAt : Time)
  /-- `RequeueForRetry`. -/
  | requeueForRetry (nextRunAt : Time)
  /-- `executeJob` has returned. -/
  | returned

/-- The execution of a job starts at the idempotency gate if it has a key. -/
def Pc.entry (job : Job) : Pc :=
  match job.idempotencyKey with
  | some key => .gate key
  | none => .setRunning

/-- Whether `executeJob` may still write to the jobs table: the job is held from the
claim until its last such write is behind. -/
def Pc.holds : Pc → Bool
  | .logCompleted .. | .recordCompleted .. | .returned => false
  | _ => true

/-- A clock that shows a whole microsecond. -/
def wholeMicrosecond : Fin 1000 := 0

/-- What the environment decides when the pending call of an execution returns: whether a
store call succeeds and how the random source comes out if a backoff is computed next,
that the handler is called, or what it returns (`none` for nil). The engine reads its clock
around the handler, to the nanosecond. -/
inductive Response where
  | call (succeeds : Bool) (draw : Int)
  | starts (nanos : Fin 1000 := wholeMicrosecond)
  | returns (error : Option String) (nanos : Fin 1000 := wholeMicrosecond)

/-- What happens to a job without leaving a trace in the database. -/
inductive Event where
  | handlerStarted (jobId : UUID) (time : Timestamptz)
  | handlerReturnedNil (jobId workerId : UUID)
  | dlqRetried (jobId : UUID)
deriving DecidableEq

/-- The effect of a store call that may fail, on its own or as the environment decides. -/
def tried (succeeds : Bool) (db : Database) (result : Except StoreError Database) : Database :=
  match succeeds, result with
  | true, .ok db' => db'
  | _, _ => db

/-- `int(finish.Sub(start).Milliseconds())`. -/
def elapsedMs (start finish : Time) : Int := (finish - start).tdiv 1000000

/-- `time.Now()` so many nanoseconds into a microsecond of the server's clock. -/
def timeNow (now : Timestamptz) (nanos : Fin 1000) : Time := now.toTime + nanos.val

/-- A later `time.Now()`: the clock is monotonic. -/
def timeAfter (start : Time) (now : Timestamptz) (nanos : Fin 1000) : Time :=
  max start (timeNow now nanos)

/-- The row of `RecordExecution`. -/
def executionRow (workerId : UUID) (job : Job) (status : ExecutionStatus) (start finish : Time)
    (error : Option String) : JobExecution :=
  ⟨job.id, workerId, job.attempts + 1, status, start.toTimestamptz, some finish.toTimestamptz,
    error, some (elapsedMs start finish)⟩

/-- Where `handleFailure` goes once the retry policy is settled: the backoff is computed
and `FailJob` comes next. There is no next state when the random source cannot come out as
`draw`. -/
def scheduleRetry (now : Timestamptz) (job : Job) (errMsg strategy : String)
    (base maxDelay draw : Int) : Option Pc :=
  (nextRunAt now.toTime strategy base maxDelay (job.attempts + 1)
    (strategy = "exponential") draw).map (Pc.failJob errMsg)

/-- The default backoff: exponential from five seconds up to an hour. -/
def scheduleDefaultRetry (now : Timestamptz) (job : Job) (errMsg : String) (draw : Int) :
    Option Pc :=
  scheduleRetry now job errMsg "exponential" 5000000000 3600000000000 draw

/-- The branch of `handleFailure` after the failure is logged. -/
def afterFailure (now : Timestamptz) (job : Job) (errMsg : String) (draw : Int) : Option Pc :=
  if job.maxAttempts ≤ job.attempts + 1 then some (.moveToDLQ errMsg)
  else
    match job.retryPolicyId with
    | some policyId => some (.getRetryPolicy errMsg policyId)
    | none => scheduleDefaultRetry now job errMsg draw

/-- Go on with the return of a store call. -/
def Response.onCall {α : Type} (response : Response) (next : Bool → Int → Option α) : Option α :=
  match response with
  | .call succeeds draw => next succeeds draw
  | _ => none

/-- Go on with the call of the handler. -/
def Response.onStart {α : Type} (response : Response) (next : Fin 1000 → α) : Option α :=
  match response with
  | .starts nanos => some (next nanos)
  | _ => none

/-- Go on with the return of the handler. -/
def Response.onReturn {α : Type} (response : Response) (next : Option String → Fin 1000 → α) :
    Option α :=
  match response with
  | .returns error nanos => some (next error nanos)
  | _ => none

/-- The counter after a successful `SetJobRunning`: the handler is resolved by the type of
the payload. -/
def resolveHandler (handlers : List String) (now : Timestamptz) (job : Job) : Pc :=
  let jobType := extractType job.payload
  if jobType ∈ handlers then .logStarted jobType
  else .recordFailed ("unknown handler type: " ++ jobType) now.toTime now.toTime

/-- The counter after `GetRetryPolicy`: an error falls back to the default backoff. -/
def afterPolicy (now : Timestamptz) (job : Job) (errMsg : String) (draw : Int)
    (policy : Except StoreError RetryPolicy) : Option Pc :=
  match policy with
  | .ok policy =>
      scheduleRetry now job errMsg policy.strategy.text policy.baseInterval policy.maxInterval
        draw
  | .error _ => scheduleDefaultRetry now job errMsg draw

/-- One step of `executeJob` by a worker with the given handlers: the database, the next
counter and the event after the pending call returns. `none` when the response does not
fit the pending call. -/
def advance (handlers : List String) (workerId : UUID) (now : Timestamptz) (job : Job)
    (db : Database) (pc : Pc) (response : Response) : Option (Database × Pc × Option Event) :=
  match pc with
  | .pending => none
  | .gate key => response.onCall fun succeeds _ =>
      -- on an error `done` keeps its zero value and the job is executed
      if succeeds ∧ db.isIdempotencyKeyCompleted key then some (db, .completeIdempotent, none)
      else some (db, .setRunning, none)
  | .completeIdempotent => response.onCall fun succeeds _ =>
      some (tried succeeds db (.ok (db.completeJob now job.id)), .returned, none)
  | .setRunning => response.onCall fun succeeds _ =>
      some (tried succeeds db (.ok (db.setJobRunning now job.id)),
        if succeeds then resolveHandler handlers now job else .returned, none)
  | .logStarted jobType => response.onCall fun succeeds _ =>
      some (tried succeeds db
        (db.appendJobLog ⟨job.id, .info, "execution started, type=" ++ jobType⟩),
        .startHandler, none)
  | .startHandler => response.onStart fun nanos =>
      (db, .handling (timeNow now nanos), some (.handlerStarted job.id now))
  | .handling start => response.onReturn fun error nanos =>
      match error with
      | none =>
          (db, .complete start (timeAfter start now nanos),
            some (.handlerReturnedNil job.id workerId))
      | some errMsg => (db, .recordFailed errMsg start (timeAfter start now nanos), none)
  | .complete start finish => response.onCall fun succeeds _ =>
      some (tried succeeds db (.ok (db.completeJob now job.id)), .logCompleted start finish, none)
  | .logCompleted start finish => response.onCall fun succeeds _ =>
      some (tried succeeds db (db.appendJobLog ⟨job.id, .info, "completed successfully"⟩),
        .recordCompleted start finish, none)
  | .recordCompleted start finish => response.onCall fun succeeds _ =>
      some (tried succeeds db
        (db.recordExecution (executionRow workerId job .completed start finish none)),
        .returned, none)
  | .recordFailed errMsg start finish => response.onCall fun succeeds _ =>
      some (tried succeeds db
        (db.recordExecution (executionRow workerId job .failed start finish (some errMsg))),
        .logFailed errMsg, none)
  | .logFailed errMsg => response.onCall fun succeeds draw =>
      (afterFailure now job errMsg draw).map fun next =>
        (tried succeeds db (db.appendJobLog ⟨job.id, .error, errMsg⟩), next, none)
  | .moveToDLQ errMsg => response.onCall fun succeeds _ =>
      some (tried succeeds db (db.moveToDLQ now job.id errMsg (job.attempts + 1)),
        .returned, none)
  | .getRetryPolicy errMsg policyId => response.onCall fun succeeds draw =>
      (afterPolicy now job errMsg draw
        (if succeeds then db.getRetryPolicy policyId else .error .notFound)).map
        fun next => (db, next, none)
  | .failJob errMsg nextRunAt => response.onCall fun succeeds _ =>
      some (tried succeeds db (.ok (db.failJob now job.id errMsg (job.attempts + 1))),
        .requeueForRetry nextRunAt, none)
  | .requeueForRetry nextRunAt => response.onCall fun succeeds _ =>
      some (tried succeeds db (.ok (db.requeueForRetry now job.id nextRunAt (job.attempts + 1))),
        .returned, none)
  | .returned => none

/-! ## Reading a step backwards -/

namespace Response

variable {α : Type} {response : Response}

theorem onCall_eq_some {next : Bool → Int → Option α} {result : α}
    (continues : response.onCall next = some result) :
    ∃ succeeds draw, response = .call succeeds draw ∧ next succeeds draw = some result := by
  cases response with
  | call succeeds draw => exact ⟨succeeds, draw, rfl, continues⟩
  | starts => cases continues
  | returns => cases continues

theorem onStart_eq_some {next : Fin 1000 → α} {result : α}
    (continues : response.onStart next = some result) :
    ∃ nanos, response = .starts nanos ∧ next nanos = result := by
  cases response with
  | starts nanos => exact ⟨nanos, rfl, Option.some.inj continues⟩
  | call => cases continues
  | returns => cases continues

theorem onReturn_eq_some {next : Option String → Fin 1000 → α} {result : α}
    (continues : response.onReturn next = some result) :
    ∃ error nanos, response = .returns error nanos ∧ next error nanos = result := by
  cases response with
  | returns error nanos => exact ⟨error, nanos, rfl, Option.some.inj continues⟩
  | call => cases continues
  | starts => cases continues

end Response

end JobScheduler
