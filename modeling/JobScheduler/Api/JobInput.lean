import JobScheduler.Retry.Backoff

/-!
# Building a job from a request

`buildJobInput` (`internal/api/job_handler.go`) validates one job request and fixes the
initial status and run time of the job. The cron library is a parameter.
-/

set_option autoImplicit false

namespace JobScheduler

/-- A `json.RawMessage`: its length in bytes and the value it parses to, if it is valid
JSON. -/
structure RawMessage where
  size : Nat
  value : Option Json

/-- `createJobRequest`. An absent payload is the empty message. -/
structure CreateJobRequest where
  payload : RawMessage
  priority : Option Int
  maxAttempts : Option Int
  idempotencyKey : Option String
  delaySeconds : Option Int
  runAt : Option Time
  cronExpr : Option String

/-- The cron parser: an error text, or the function `Next` of the schedule. -/
abbrev CronParser := String → Except String (Time → Time)

/-- `maxPayloadBytes`, 256 KB. -/
def maxPayloadBytes : Nat := 256 * 1024

/-- The validation errors of a request, by field. -/
def validateJobRequest (cron : CronParser) (now : Time) (req : CreateJobRequest) :
    List (String × String) :=
  let modes := req.delaySeconds.toList.length + req.runAt.toList.length +
    req.cronExpr.toList.length
  (if req.payload.size = 0 then [("payload", "required")]
    else if maxPayloadBytes < req.payload.size then [("payload", "exceeds 256KB size limit")]
    else if req.payload.value.isNone then [("payload", "must be valid JSON")]
    else []) ++
  (if 1 < modes then
    [("scheduling", "only one of delay_seconds, run_at, cron_expr allowed")] else []) ++
  (if ∃ n ∈ req.delaySeconds, n ≤ 0 then [("delay_seconds", "must be positive")] else []) ++
  (if ∃ t ∈ req.runAt, t < now then [("run_at", "must be in the future")] else []) ++
  (match req.cronExpr with
    | none => []
    | some expr =>
        match cron expr with
        | .error message => [("cron_expr", "invalid cron expression: " ++ message)]
        | .ok _ => []) ++
  (if ∃ n ∈ req.maxAttempts, n < 1 then [("max_attempts", "must be at least 1")] else [])

/-- The status and run time of a valid request: the switch over the scheduling modes. -/
def scheduleOf (cron : CronParser) (now : Time) (req : CreateJobRequest) : JobStatus × Time :=
  match req.cronExpr with
  | some expr =>
      match cron expr with
      | .ok next => (.scheduled, next now)
      | .error _ => (.scheduled, now)
  | none =>
      match req.runAt with
      | some t => (.scheduled, t)
      | none =>
          match req.delaySeconds with
          | some n => (.queued, now + wrap64 (n * 1000000000))
          | none => (.queued, now)

/-- `buildJobInput`. -/
def buildJobInput (cron : CronParser) (now : Time) (req : CreateJobRequest) (queue : Queue) :
    Except (List (String × String)) CreateJobInput :=
  match validateJobRequest cron now req, req.payload.value with
  | [], some payload =>
      let schedule := scheduleOf cron now req
      .ok {
        queueId := queue.id
        priority := req.priority.getD queue.priorityDefault
        payload := payload
        idempotencyKey := req.idempotencyKey
        nextRunAt := some schedule.2
        status := schedule.1
        maxAttempts := req.maxAttempts.getD 3
        cronExpr := req.cronExpr
        batchId := none }
  | errors, _ => .error errors

/-- The inputs of a batch, all with the batch's id. -/
def buildBatch (cron : CronParser) (now : Time) (queue : Queue) (batchId : UUID) :
    List (UUID × CreateJobRequest) → Option (List (UUID × CreateJobInput))
  | [] => some []
  | (id, req) :: rest =>
      match buildJobInput cron now req queue, buildBatch cron now queue batchId rest with
      | .ok input, some inputs => some ((id, { input with batchId := some batchId }) :: inputs)
      | _, _ => none

/-- What the API guarantees of every job it inserts. -/
structure CreateJobInput.FromApi (input : CreateJobInput) : Prop where
  waiting : input.status = .queued ∨ input.status = .scheduled
  attempts : 1 ≤ input.maxAttempts
  due : ∃ t, input.nextRunAt = some t

variable {cron : CronParser} {now : Time} {req : CreateJobRequest} {queue : Queue}
  {input : CreateJobInput}

theorem scheduleOf_waiting :
    (scheduleOf cron now req).1 = .queued ∨ (scheduleOf cron now req).1 = .scheduled := by
  unfold scheduleOf
  split
  · split
    · exact .inr rfl
    · exact .inr rfl
  · split
    · exact .inr rfl
    · split
      · exact .inl rfl
      · exact .inl rfl

/-- A request without validation errors asks for at least one attempt. -/
theorem maxAttempts_of_valid (valid : validateJobRequest cron now req = []) :
    1 ≤ req.maxAttempts.getD 3 := by
  unfold validateJobRequest at valid
  have last := (List.append_eq_nil_iff.mp valid).2
  cases asked : req.maxAttempts with
  | none => decide
  | some n =>
      rw [asked] at last
      simp only [Option.getD_some]
      by_contra small
      have few : ∃ m ∈ some n, m < 1 := ⟨n, rfl, by omega⟩
      rw [if_pos few] at last
      cases last

theorem buildJobInput_fromApi (builds : buildJobInput cron now req queue = .ok input) :
    input.FromApi := by
  unfold buildJobInput at builds
  split at builds
  next valid _ =>
    cases builds
    exact ⟨scheduleOf_waiting, maxAttempts_of_valid valid, _, rfl⟩
  · cases builds

end JobScheduler
