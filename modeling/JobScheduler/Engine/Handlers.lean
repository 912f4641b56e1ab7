import JobScheduler.Engine.Writes

/-!
# The handlers of the Go worker

`SleepHandler` and `AlwaysFailHandler` (`internal/worker/handler.go`), as `cmd/worker` registers
them, and what `executeJob` leaves behind when nothing interrupts it.

Go decodes the members of an object into a struct by name up to case, so several members can
meet one field. `null` leaves the field, and a value of another type makes `Unmarshal` fail.
PostgreSQL prints a number of a `jsonb` value without an exponent, and keeps the zeros behind
its point.

An uninterrupted execution goes through its calls one by one. The outcome is a matter of the
payload and the attempts: the handler returns nil exactly for a sleep whose duration decodes.
-/

set_option autoImplicit false

namespace JobScheduler

open Relational

/-! ## Decoding a payload -/

/-- The handlers that `cmd/worker` registers. -/
def registeredHandlers : List String := ["http_call", "sleep", "always_fail"]

/-- The case folding of `encoding/json`, for the letters of the field names: the long `s` folds
with the others. -/
def foldChar (c : Char) : Char := if c = Char.ofNat 383 then 's' else c.toLower

/-- The member is decoded into the field `duration_ms`. -/
def namesDuration (key : String) : Bool := key.toList.map foldChar = "duration_ms".toList

/-- The value decodes into an `int`, or is skipped. -/
def decodesInt : Json → Bool
  | .null => true
  | .number mantissa exponent =>
      0 ≤ exponent ∧ -2 ^ 63 ≤ mantissa * 10 ^ exponent.toNat ∧
        mantissa * 10 ^ exponent.toNat < 2 ^ 63
  | _ => false

/-- The payload resolves to `SleepHandler`, and its duration decodes. -/
def sleeps : Json → Bool
  | .object fields => extractType (.object fields) = "sleep" &&
      fields.all fun field => !namesDuration field.1 || decodesInt field.2
  | _ => false

/-! ## Executions without interruption -/

/-- The calls succeed, and a handler returns nil exactly when it sleeps. Of an `http_call`
nothing is said. -/
def Response.Undisturbed (job : Job) : Response → Prop
  | .call succeeds _ => succeeds = true
  | .starts _ => True
  | .returns error _ =>
      extractType job.payload ≠ "http_call" → error.isNone = sleeps job.payload

/-- `executeJob` from a counter on, to its end. Each call has a time of its own. -/
inductive Executes (workerId : UUID) (job : Job) : Database → Pc → Database → Prop where
  | returned {db : Database} : Executes workerId job db .returned db
  | next {db db' last : Database} {pc pc' : Pc} {event : Option Event} {response : Response}
      (now : Timestamptz) (undisturbed : response.Undisturbed job)
      (advances : advance registeredHandlers workerId now job db pc response =
        some (db', pc', event))
      (rest : Executes workerId job db' pc' last) : Executes workerId job db pc last

/-- Where an execution leaves its job. -/
def outcome (job : Job) (succeeds : Bool) : JobStatus :=
  if succeeds then .completed
  else if job.maxAttempts ≤ job.attempts + 1 then .deadLetter else .queued

/-- The job has a dead letter. -/
def Database.HasLetter (db : Database) (jobId : UUID) : Prop :=
  ∃ entry ∈ db.deadLetterQueue, entry.jobId = jobId

/-- The row of the job is there, and has this status. -/
def Database.RowIs (db : Database) (jobId : UUID) (status : JobStatus) : Prop :=
  (∃ row ∈ db.jobs, row.id = jobId) ∧ ∀ row ∈ db.jobs, row.id = jobId → row.status = status

/-- The row of the job is there, and a dead letter exactly when there was one at the start. -/
def Intact (job : Job) (letter : Prop) (db : Database) : Prop :=
  (∃ row ∈ db.jobs, row.id = job.id) ∧ (db.HasLetter job.id ↔ letter)

/-- What is known of an uninterrupted execution at a counter. -/
def Reaches (job : Job) (letter : Prop) (db : Database) : Pc → Prop
  | .setRunning | .logStarted _ | .startHandler | .handling _ => Intact job letter db
  | .complete .. => sleeps job.payload = true ∧ Intact job letter db
  | .logCompleted .. | .recordCompleted .. =>
      sleeps job.payload = true ∧ Intact job letter db ∧ db.RowIs job.id .completed
  | .recordFailed .. | .logFailed _ => sleeps job.payload = false ∧ Intact job letter db
  | .moveToDLQ _ =>
      sleeps job.payload = false ∧ job.maxAttempts ≤ job.attempts + 1 ∧ Intact job letter db
  | .getRetryPolicy .. | .failJob .. | .requeueForRetry _ =>
      sleeps job.payload = false ∧ job.attempts + 1 < job.maxAttempts ∧ Intact job letter db
  | .returned => db.RowIs job.id (outcome job (sleeps job.payload)) ∧
      (db.HasLetter job.id ↔ letter ∨ outcome job (sleeps job.payload) = .deadLetter)
  | .pending | .gate _ | .completeIdempotent => False

section Outcome

variable {workerId : UUID} {job : Job} {letter : Prop} {db db' : Database} {pc pc' : Pc}
  {now : Timestamptz} {response : Response} {event : Option Event}

theorem Effect.quiet (effect : Effect now job db pc response db')
    (reads : pc.rewrite now job = none) : db.SameUpToHistory db' := by
  cases effect with
  | spared same => exact same
  | written writes =>
      rw [reads] at writes
      cases writes

/-- A successful write of the row alone. -/
theorem Effect.rewritten {draw : Int} {rewrite : Job → Job}
    (effect : Effect now job db pc (.call true draw) db')
    (writes : pc.rewrite now job = some rewrite) (plain : ∀ errMsg, pc ≠ .moveToDLQ errMsg) :
    db'.jobs = update (·.id = job.id) rewrite db.jobs ∧
      db'.deadLetterQueue = db.deadLetterQueue := by
  cases effect with
  | spared _ missing =>
      obtain ⟨errMsg, same, _⟩ := missing draw rfl (by rw [writes]; exact Option.some_ne_none _)
      exact absurd same (plain errMsg)
  | written writes' =>
      rw [writes] at writes'
      cases writes'
      cases pc with
      | moveToDLQ errMsg => exact absurd rfl (plain errMsg)
      | _ => exact ⟨rfl, List.append_nil _⟩

theorem Database.exists_row_of_update {rewrite : Job → Job} {jobId : UUID}
    (written : db'.jobs = update (·.id = jobId) rewrite db.jobs)
    (there : ∃ row ∈ db.jobs, row.id = jobId) (keeps : ∀ row, (rewrite row).id = row.id) :
    ∃ row ∈ db'.jobs, row.id = jobId := by
  obtain ⟨row, member, same⟩ := there
  rw [written]
  exact ⟨rewrite row, mem_update_of_selects member same, (keeps row).trans same⟩

theorem Database.rowIs_of_update {rewrite : Job → Job} {status : JobStatus} {jobId : UUID}
    (written : db'.jobs = update (·.id = jobId) rewrite db.jobs)
    (there : ∃ row ∈ db.jobs, row.id = jobId) (keeps : ∀ row, (rewrite row).id = row.id)
    (sets : ∀ row, (rewrite row).status = status) : db'.RowIs jobId status := by
  refine ⟨exists_row_of_update written there keeps, fun row member same => ?_⟩
  rw [written] at member
  rcases cases_mem_update member with ⟨_, other⟩ | ⟨old, _, _, rfl⟩
  · exact absurd same other
  · exact sets old

theorem Database.SameUpToHistory.hasLetter (same : db.SameUpToHistory db') (jobId : UUID) :
    db'.HasLetter jobId ↔ db.HasLetter jobId := by
  rw [HasLetter, same.deadLetterQueue, HasLetter]

theorem Database.SameUpToHistory.rowIs (same : db.SameUpToHistory db') {jobId : UUID}
    {status : JobStatus} (row : db.RowIs jobId status) : db'.RowIs jobId status := by
  rw [RowIs, same.jobs]
  exact row

theorem Intact.history (intact : Intact job letter db) (same : db.SameUpToHistory db') :
    Intact job letter db' := by
  refine ⟨?_, (same.hasLetter job.id).trans intact.2⟩
  rw [same.jobs]
  exact intact.1

theorem Intact.rewritten {rewrite : Job → Job} (intact : Intact job letter db)
    (written : db'.jobs = update (·.id = job.id) rewrite db.jobs ∧
      db'.deadLetterQueue = db.deadLetterQueue)
    (keeps : ∀ row, (rewrite row).id = row.id) : Intact job letter db' := by
  refine ⟨Database.exists_row_of_update written.1 intact.1 keeps, ?_⟩
  rw [Database.HasLetter, written.2]
  exact intact.2

/-- A payload that resolves to no registered handler is no sleep. -/
theorem sleeps_eq_false_of_unregistered (unknown : extractType job.payload ∉ registeredHandlers) :
    sleeps job.payload = false := by
  cases payload : job.payload with
  | object fields =>
      rw [payload] at unknown
      have other : extractType (.object fields) ≠ "sleep" := by
        intro same
        rw [same] at unknown
        exact unknown (by decide)
      simp only [sleeps, other, decide_false, Bool.false_and]
  | _ => rfl

/-- The outcomes of a failure, by what decides them. -/
theorem outcome_exhausted (used : job.maxAttempts ≤ job.attempts + 1) :
    outcome job false = .deadLetter := by
  rw [outcome, if_neg (by decide), if_pos used]

theorem outcome_left (left : job.attempts + 1 < job.maxAttempts) :
    outcome job false = .queued := by
  rw [outcome, if_neg (by decide), if_neg (by omega)]

/-- One step of an uninterrupted execution. `MoveToDLQ` does not trip over an old dead
letter. -/
theorem reaches_step (plain : extractType job.payload ≠ "http_call")
    (clean : sleeps job.payload = false → job.maxAttempts ≤ job.attempts + 1 → ¬ letter)
    (undisturbed : response.Undisturbed job)
    (advances : advance registeredHandlers workerId now job db pc response = some (db', pc', event))
    (reaches : Reaches job letter db pc) : Reaches job letter db' pc' := by
  have effect := advance_effect advances
  cases advance_next advances with
  | gateHit | gateMiss | completedIdempotent => exact reaches.elim
  | notRunning => cases undisturbed
  | resolved =>
      have written := effect.rewritten rfl (by simp)
      exact Intact.rewritten reaches written fun _ => rfl
  | unresolved =>
      have written := effect.rewritten rfl (by simp)
      refine ⟨sleeps_eq_false_of_unregistered ?_, Intact.rewritten reaches written fun _ => rfl⟩
      intro known
      simp [advance, Response.onCall, resolveHandler, known] at advances
  | loggedStart | started => exact Intact.history reaches (effect.quiet rfl)
  | succeeded => exact ⟨(undisturbed plain).symm, Intact.history reaches (effect.quiet rfl)⟩
  | failed => exact ⟨(undisturbed plain).symm, Intact.history reaches (effect.quiet rfl)⟩
  | completed =>
      cases undisturbed
      have written := effect.rewritten rfl (by simp)
      exact ⟨reaches.1, reaches.2.rewritten written fun _ => rfl,
        Database.rowIs_of_update written.1 reaches.2.1 (fun _ => rfl) fun _ => rfl⟩
  | loggedCompleted =>
      have same := effect.quiet rfl
      exact ⟨reaches.1, reaches.2.1.history same, same.rowIs reaches.2.2⟩
  | recordedCompleted =>
      have same := effect.quiet rfl
      have decided : outcome job (sleeps job.payload) = .completed := by
        rw [reaches.1]
        rfl
      refine ⟨decided ▸ same.rowIs reaches.2.2, ?_⟩
      rw [(reaches.2.1.history same).2, decided]
      simp
  | recordedFailed => exact ⟨reaches.1, reaches.2.history (effect.quiet rfl)⟩
  | exhausted used => exact ⟨reaches.1, used, reaches.2.history (effect.quiet rfl)⟩
  | consults left | backsOff left =>
      exact ⟨reaches.1, left, reaches.2.history (effect.quiet rfl)⟩
  | consulted => exact ⟨reaches.1, reaches.2.1, reaches.2.2.history (effect.quiet rfl)⟩
  | moved =>
      cases undisturbed
      obtain ⟨fails, used, there, letters⟩ := reaches
      have decided : outcome job (sleeps job.payload) = .deadLetter := by
        rw [fails]
        exact outcome_exhausted used
      have none : ¬ db.HasLetter job.id := fun old => clean fails used (letters.mp old)
      cases effect with
      | spared _ missing =>
          obtain ⟨_, _, old⟩ := missing _ rfl (by simp [Pc.rewrite])
          exact absurd old none
      | written writes free =>
          cases writes
          refine ⟨decided ▸ Database.rowIs_of_update rfl there (fun _ => rfl) fun _ => rfl, ?_⟩
          rw [decided]
          obtain ⟨row, member, same⟩ := there
          refine ⟨fun _ => .inr rfl, fun _ => ?_⟩
          refine ⟨_, List.mem_append_right _ (List.mem_map_of_mem
            (List.mem_filter.mpr ⟨member, decide_eq_true same⟩)), same⟩
  | marked =>
      cases undisturbed
      have written := effect.rewritten rfl (by simp)
      exact ⟨reaches.1, reaches.2.1, reaches.2.2.rewritten written fun _ => rfl⟩
  | requeued =>
      cases undisturbed
      obtain ⟨fails, left, intact⟩ := reaches
      have decided : outcome job (sleeps job.payload) = .queued := by
        rw [fails]
        exact outcome_left left
      have written := effect.rewritten rfl (by simp)
      refine ⟨decided ▸ Database.rowIs_of_update written.1 intact.1 (fun _ => rfl) fun _ => rfl, ?_⟩
      rw [(intact.rewritten written fun _ => rfl).2, decided]
      simp

/-- **The outcome of an uninterrupted execution.** -/
theorem Executes.outcome {last : Database} (executes : Executes workerId job db pc last)
    (plain : extractType job.payload ≠ "http_call")
    (clean : sleeps job.payload = false → job.maxAttempts ≤ job.attempts + 1 → ¬ letter)
    (reaches : Reaches job letter db pc) : Reaches job letter last .returned := by
  induction executes with
  | returned => exact reaches
  | next now undisturbed advances _ ih =>
      exact ih (reaches_step plain clean undisturbed advances reaches)

end Outcome

/-! ## Every execution can be completed -/

/-- The intervals of the policies are whole microseconds. -/
def Database.WholePolicies (db : Database) : Prop :=
  ∀ policy ∈ db.retryPolicies, 1000 ∣ policy.baseInterval ∧ 1000 ∣ policy.maxInterval

/-- The execution can be completed from here. -/
def Completes (workerId : UUID) (job : Job) (db : Database) (pc : Pc) : Prop :=
  ∃ last, Executes workerId job db pc last

section Completes

variable {workerId : UUID} {job : Job}

theorem Completes.of_advance {db db' : Database} {pc pc' : Pc} {event : Option Event}
    (now : Timestamptz) (response : Response)
    (advances : advance registeredHandlers workerId now job db pc response = some (db', pc', event))
    (undisturbed : response.Undisturbed job) (completes : Completes workerId job db' pc') :
    Completes workerId job db pc := by
  obtain ⟨last, executes⟩ := completes
  exact ⟨last, executes.next now undisturbed advances⟩

theorem completes_returned (db : Database) : Completes workerId job db .returned :=
  ⟨db, .returned⟩

/-- A counter that goes on with a call that cannot be refused. -/
theorem Completes.of_call {db : Database} {pc : Pc} {db' : Database} {pc' : Pc}
    (advances : advance registeredHandlers workerId 0 job db pc (.call true 0) =
      some (db', pc', none)) (completes : Completes workerId job db' pc') :
    Completes workerId job db pc :=
  .of_advance 0 (.call true 0) advances rfl completes

theorem completes_complete (db : Database) (start finish : Time) :
    Completes workerId job db (.complete start finish) :=
  .of_call rfl (.of_call rfl (.of_call rfl (completes_returned _)))

theorem completes_failJob (db : Database) (errMsg : String) (nextRunAt : Time) :
    Completes workerId job db (.failJob errMsg nextRunAt) :=
  .of_call rfl (.of_call rfl (completes_returned _))

theorem completes_moveToDLQ (db : Database) (errMsg : String) :
    Completes workerId job db (.moveToDLQ errMsg) :=
  .of_call rfl (completes_returned _)

/-- The backoff can be computed. -/
theorem exists_scheduleRetry (job : Job) (errMsg strategy : String) (base maxDelay : Int)
    (wholeBase : 1000 ∣ base) (wholeMax : 1000 ∣ maxDelay) :
    ∃ instant, scheduleRetry 0 job errMsg strategy base maxDelay 0 =
      some (.failJob errMsg instant) := by
  obtain ⟨instant, comes⟩ := exists_nextRunAt (Timestamptz.toTime 0) strategy wholeBase wholeMax
    (job.attempts + 1)
  exact ⟨instant, by rw [scheduleRetry, comes, Option.map_some]⟩

theorem completes_getRetryPolicy {db : Database} (whole : db.WholePolicies) (errMsg : String)
    (policyId : UUID) : Completes workerId job db (.getRetryPolicy errMsg policyId) := by
  have schedules : ∃ instant, afterPolicy 0 job errMsg 0 (db.getRetryPolicy policyId) =
      some (.failJob errMsg instant) := by
    cases found : db.getRetryPolicy policyId with
    | error e => exact exists_scheduleRetry job errMsg _ _ _ (by decide) (by decide)
    | ok policy =>
        have member : policy ∈ db.retryPolicies := by
          unfold Database.getRetryPolicy at found
          split at found
          next row listed =>
            cases found
            exact List.mem_of_find?_eq_some listed
          · cases found
        exact exists_scheduleRetry job errMsg _ _ _ (whole policy member).1 (whole policy member).2
  obtain ⟨instant, schedules⟩ := schedules
  refine .of_call ?_ (completes_failJob db errMsg instant)
  simp [advance, Response.onCall, schedules]

theorem Database.SameUpToHistory.wholePolicies {db db' : Database} (same : db.SameUpToHistory db')
    (whole : db.WholePolicies) : db'.WholePolicies := by
  rw [same]
  exact whole

theorem completes_logFailed {db : Database} (whole : db.WholePolicies) (errMsg : String) :
    Completes workerId job db (.logFailed errMsg) := by
  let logged := tried true db (db.appendJobLog ⟨job.id, .error, errMsg⟩)
  have whole' : logged.WholePolicies := (tried_appendJobLog true db _).wholePolicies whole
  by_cases used : job.maxAttempts ≤ job.attempts + 1
  · refine .of_call ?_ (completes_moveToDLQ logged errMsg)
    simp [advance, Response.onCall, afterFailure, used, logged]
  · cases policy : job.retryPolicyId with
    | some policyId =>
        refine .of_call ?_ (completes_getRetryPolicy whole' errMsg policyId)
        simp [advance, Response.onCall, afterFailure, used, policy, logged]
    | none =>
        obtain ⟨instant, schedules⟩ := exists_scheduleRetry job errMsg "exponential" 5000000000
          3600000000000 (by decide) (by decide)
        refine .of_call ?_ (completes_failJob logged errMsg instant)
        simp [advance, Response.onCall, afterFailure, used, policy, scheduleDefaultRetry,
          schedules, logged]

theorem completes_recordFailed {db : Database} (whole : db.WholePolicies) (errMsg : String)
    (start finish : Time) : Completes workerId job db (.recordFailed errMsg start finish) :=
  .of_call rfl (completes_logFailed ((tried_recordExecution true db _).wholePolicies whole) errMsg)

theorem completes_logStarted {db : Database} (whole : db.WholePolicies) (jobType : String) :
    Completes workerId job db (.logStarted jobType) := by
  have whole' := (tried_appendJobLog true db
    ⟨job.id, .info, "execution started, type=" ++ jobType⟩).wholePolicies whole
  refine .of_call rfl (.of_advance 0 .starts rfl trivial ?_)
  cases verdict : sleeps job.payload with
  | true => exact .of_advance 0 (.returns none) rfl (fun _ => verdict.symm) (completes_complete _ _ _)
  | false =>
      exact .of_advance 0 (.returns (some "")) rfl (fun _ => verdict.symm)
        (completes_recordFailed whole' _ _ _)

/-- An execution without an idempotency key can be completed. -/
theorem completes_setRunning {db : Database} (whole : db.WholePolicies) :
    Completes workerId job db .setRunning := by
  have whole' : (db.setJobRunning 0 job.id).WholePolicies := whole
  by_cases known : extractType job.payload ∈ registeredHandlers
  · refine .of_call ?_ (completes_logStarted whole' (extractType job.payload))
    simp [advance, Response.onCall, resolveHandler, known, tried]
  · refine .of_call ?_ (completes_recordFailed whole'
      ("unknown handler type: " ++ extractType job.payload) (Timestamptz.toTime 0)
      (Timestamptz.toTime 0))
    simp only [advance, Response.onCall, resolveHandler, known, tried, if_true, if_false]

end Completes

end JobScheduler
