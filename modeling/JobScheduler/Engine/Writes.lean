import JobScheduler.Engine.Execute

/-!
# What an execution writes

A call of `executeJob` writes at most the row of its own job and, in `MoveToDLQ`, the
dead letter of that job. `advance_effect` says so once for all program points, and the
facts about an execution's counter and its row are read off from it.
-/

set_option autoImplicit false

namespace JobScheduler

open Relational

/-- The rewriting of the job's row by the pending call, when it is a jobs-table write. -/
def Pc.rewrite (now : Timestamptz) (job : Job) : Pc → Option (Job → Job)
  | .completeIdempotent => some (Job.complete now)
  | .setRunning => some (Job.setRunning now)
  | .complete .. => some (Job.complete now)
  | .moveToDLQ errMsg => some (Job.deadLetter now errMsg (job.attempts + 1))
  | .failJob errMsg _ => some (Job.fail now errMsg (job.attempts + 1))
  | .requeueForRetry nextRunAt => some (Job.requeueForRetry now nextRunAt (job.attempts + 1))
  | _ => none

/-- The dead letters the pending call inserts. -/
def Pc.deadLetters (now : Timestamptz) (job : Job) (db : Database) :
    Pc → List DeadLetterEntry
  | .moveToDLQ errMsg =>
      (db.jobs.filter (·.id = job.id)).map (Job.deadLetterEntry now errMsg (job.attempts + 1))
  | _ => []

/-- A counter with a jobs-table write ahead still holds the job. -/
theorem Pc.holds_of_rewrite {now : Timestamptz} {job : Job} {pc : Pc} {rewrite : Job → Job}
    (writes : pc.rewrite now job = some rewrite) : pc.holds = true := by
  cases pc <;> first | rfl | cases writes

/-- The rewritings keep the columns fixed at creation. -/
theorem Pc.fixed_rewrite {now : Timestamptz} {job row : Job} {pc : Pc} {rewrite : Job → Job}
    (writes : pc.rewrite now job = some rewrite) : (rewrite row).fixed = row.fixed := by
  cases pc <;> cases writes <;> rfl

/-- Only `SetJobRunning` writes an active status. -/
theorem Pc.setRunning_of_rewrite {now : Timestamptz} {job row : Job} {pc : Pc}
    {rewrite : Job → Job} (writes : pc.rewrite now job = some rewrite)
    (active : (rewrite row).status.Active) : pc = .setRunning ∧ rewrite = Job.setRunning now := by
  cases pc with
  | setRunning =>
      cases writes
      exact ⟨rfl, rfl⟩
  | _ => cases writes <;> rcases active with status | status <;> cases status

/-- A dead letter is made from a row of the job. -/
theorem Pc.mem_deadLetters {now : Timestamptz} {job : Job} {db : Database} {pc : Pc}
    {entry : DeadLetterEntry} (member : entry ∈ pc.deadLetters now job db) :
    ∃ errMsg, ∃ row ∈ db.jobs, row.id = job.id ∧
      entry = row.deadLetterEntry now errMsg (job.attempts + 1) := by
  cases pc with
  | moveToDLQ errMsg =>
      obtain ⟨row, found, rfl⟩ := List.mem_map.mp member
      rw [List.mem_filter, decide_eq_true_eq] at found
      exact ⟨errMsg, row, found.1, found.2, rfl⟩
  | _ => cases member

theorem Pc.holds_entry (job : Job) : (Pc.entry job).holds = true := by
  unfold Pc.entry
  split <;> rfl

/-- A call that goes wrong, or whose effect is a no-op, leaves the database alone up to
the execution history. -/
def Database.SameUpToHistory (db db' : Database) : Prop :=
  db' = { db with jobExecutions := db'.jobExecutions, jobLogs := db'.jobLogs }

theorem Database.SameUpToHistory.refl (db : Database) : db.SameUpToHistory db := rfl

namespace Database.SameUpToHistory

variable {db db' : Database} (same : db.SameUpToHistory db')

include same

theorem jobs : db'.jobs = db.jobs := by rw [same]

theorem deadLetterQueue : db'.deadLetterQueue = db.deadLetterQueue := by rw [same]

theorem queues : db'.queues = db.queues := by rw [same]

end Database.SameUpToHistory

theorem tried_recordExecution (succeeds : Bool) (db : Database) (execution : JobExecution) :
    db.SameUpToHistory (tried succeeds db (db.recordExecution execution)) := by
  unfold tried
  split
  next db' records => rw [db.recordExecution_spec records]; rfl
  · exact .refl db

theorem tried_appendJobLog (succeeds : Bool) (db : Database) (entry : JobLogEntry) :
    db.SameUpToHistory (tried succeeds db (db.appendJobLog entry)) := by
  unfold tried
  split
  next db' appends => rw [db.appendJobLog_spec appends]; rfl
  · exact .refl db

section Effect

variable {handlers : List String} {workerId : UUID} {now : Timestamptz} {job : Job}
  {db db' : Database} {pc pc' : Pc} {response : Response} {event : Option Event}

/-- The two effects of a step of `executeJob`: none on jobs and dead letters, or a
successful write of the job's row. -/
inductive Effect (now : Timestamptz) (job : Job) (db : Database) (pc : Pc) :
    Response → Database → Prop where
  /-- A write that is due is only missing when `MoveToDLQ` trips over an old entry. -/
  | spared {response : Response} {db' : Database} (same : db.SameUpToHistory db')
      (missing : ∀ draw, response = .call true draw → pc.rewrite now job ≠ none →
        ∃ errMsg, pc = .moveToDLQ errMsg ∧ ∃ entry ∈ db.deadLetterQueue, entry.jobId = job.id) :
      Effect now job db pc response db'
  | written {draw : Int} {rewrite : Job → Job} (writes : pc.rewrite now job = some rewrite)
      (free : ∀ errMsg, pc = .moveToDLQ errMsg → (∃ row ∈ db.jobs, row.id = job.id) →
        ∀ entry ∈ db.deadLetterQueue, entry.jobId ≠ job.id) :
      Effect now job db pc (.call true draw)
        { db with
          jobs := update (·.id = job.id) rewrite db.jobs
          deadLetterQueue := db.deadLetterQueue ++ pc.deadLetters now job db }

/-- A step whose pending call is no jobs-table write has no effect on jobs. -/
theorem Effect.history (same : db.SameUpToHistory db') (reads : pc.rewrite now job = none) :
    Effect now job db pc response db' :=
  .spared same fun _ _ due => absurd reads due

/-- A failed store call has no effect. -/
theorem Effect.failed {draw : Int} : Effect now job db pc (.call false draw) db :=
  .spared (.refl db) fun _ same => by cases same

/-- An infallible jobs-table write has its effect when the call succeeds. -/
theorem Effect.tried {draw : Int} {succeeds : Bool} {rewrite : Job → Job}
    (writes : pc.rewrite now job = some rewrite) (plain : pc.deadLetters now job db = []) :
    Effect now job db pc (.call succeeds draw)
      (JobScheduler.tried succeeds db
        (.ok { db with jobs := update (·.id = job.id) rewrite db.jobs })) := by
  cases succeeds with
  | false => exact .failed
  | true =>
      have free : ∀ errMsg, pc = .moveToDLQ errMsg → (∃ row ∈ db.jobs, row.id = job.id) →
          ∀ entry ∈ db.deadLetterQueue, entry.jobId ≠ job.id := by
        rintro errMsg rfl ⟨row, member, same⟩
        simp only [Pc.deadLetters, List.map_eq_nil_iff, List.filter_eq_nil_iff] at plain
        exact absurd (decide_eq_true same) (plain row member)
      have effect : Effect now job db pc (.call true draw) _ := .written writes free
      rw [plain, List.append_nil] at effect
      exact effect

theorem Effect.moveToDLQ {draw : Int} {succeeds : Bool} {errMsg : String} :
    Effect now job db (.moveToDLQ errMsg) (.call succeeds draw)
      (JobScheduler.tried succeeds db (db.moveToDLQ now job.id errMsg (job.attempts + 1))) := by
  cases succeeds with
  | false => exact .failed
  | true =>
      cases moves : db.moveToDLQ now job.id errMsg (job.attempts + 1) with
      | error e =>
          exact .spared (.refl db) fun _ _ _ => ⟨errMsg, rfl, db.moveToDLQ_error moves⟩
      | ok db' =>
          obtain ⟨rfl, free⟩ := db.moveToDLQ_spec moves
          exact .written rfl fun _ _ => free

/-- **The effect of a step of `executeJob`.** -/
theorem advance_effect
    (advances : advance handlers workerId now job db pc response = some (db', pc', event)) :
    Effect now job db pc response db' := by
  cases pc with
  | pending => cases advances
  | gate key =>
      obtain ⟨succeeds, draw, rfl, continues⟩ := Response.onCall_eq_some advances
      split at continues
      · cases continues
        exact .history (.refl db) rfl
      · cases continues
        exact .history (.refl db) rfl
  | completeIdempotent =>
      obtain ⟨succeeds, draw, rfl, continues⟩ := Response.onCall_eq_some advances
      cases continues
      exact .tried rfl rfl
  | setRunning =>
      obtain ⟨succeeds, draw, rfl, continues⟩ := Response.onCall_eq_some advances
      cases continues
      exact .tried rfl rfl
  | logStarted jobType =>
      obtain ⟨succeeds, draw, rfl, continues⟩ := Response.onCall_eq_some advances
      cases continues
      exact .history (tried_appendJobLog _ _ _) rfl
  | startHandler =>
      obtain ⟨nanos, rfl, continues⟩ := Response.onStart_eq_some advances
      cases continues
      exact .history (.refl db) rfl
  | handling start =>
      obtain ⟨error, nanos, rfl, continues⟩ := Response.onReturn_eq_some advances
      cases error with
      | none =>
          cases continues
          exact .history (.refl db) rfl
      | some errMsg =>
          cases continues
          exact .history (.refl db) rfl
  | complete start finish =>
      obtain ⟨succeeds, draw, rfl, continues⟩ := Response.onCall_eq_some advances
      cases continues
      exact .tried rfl rfl
  | logCompleted start finish =>
      obtain ⟨succeeds, draw, rfl, continues⟩ := Response.onCall_eq_some advances
      cases continues
      exact .history (tried_appendJobLog _ _ _) rfl
  | recordCompleted start finish =>
      obtain ⟨succeeds, draw, rfl, continues⟩ := Response.onCall_eq_some advances
      cases continues
      exact .history (tried_recordExecution _ _ _) rfl
  | recordFailed errMsg start finish =>
      obtain ⟨succeeds, draw, rfl, continues⟩ := Response.onCall_eq_some advances
      cases continues
      exact .history (tried_recordExecution _ _ _) rfl
  | logFailed errMsg =>
      obtain ⟨succeeds, draw, rfl, continues⟩ := Response.onCall_eq_some advances
      obtain ⟨next, _, same⟩ := Option.map_eq_some_iff.mp continues
      cases same
      exact .history (tried_appendJobLog _ _ _) rfl
  | moveToDLQ errMsg =>
      obtain ⟨succeeds, draw, rfl, continues⟩ := Response.onCall_eq_some advances
      cases continues
      exact .moveToDLQ
  | getRetryPolicy errMsg policyId =>
      obtain ⟨succeeds, draw, rfl, continues⟩ := Response.onCall_eq_some advances
      obtain ⟨next, _, same⟩ := Option.map_eq_some_iff.mp continues
      cases same
      exact .history (.refl db) rfl
  | failJob errMsg nextRunAt =>
      obtain ⟨succeeds, draw, rfl, continues⟩ := Response.onCall_eq_some advances
      cases continues
      exact .tried rfl rfl
  | requeueForRetry nextRunAt =>
      obtain ⟨succeeds, draw, rfl, continues⟩ := Response.onCall_eq_some advances
      cases continues
      exact .tried rfl rfl
  | returned => cases advances

end Effect

/-! ## The next counter -/

section Next

variable (workerId : UUID) (now : Timestamptz) (job : Job) (db : Database)

/-- The transitions of the program counter, with what each of them depends on. -/
inductive Next : Pc → Response → Pc → Option Event → Prop where
  | gateHit {key : String} {draw : Int} (done : db.isIdempotencyKeyCompleted key = true) :
      Next (.gate key) (.call true draw) .completeIdempotent none
  | gateMiss {key : String} {succeeds : Bool} {draw : Int} :
      Next (.gate key) (.call succeeds draw) .setRunning none
  | completedIdempotent {succeeds : Bool} {draw : Int} :
      Next .completeIdempotent (.call succeeds draw) .returned none
  | resolved {jobType : String} {draw : Int} :
      Next .setRunning (.call true draw) (.logStarted jobType) none
  | unresolved {errMsg : String} {draw : Int} :
      Next .setRunning (.call true draw) (.recordFailed errMsg now.toTime now.toTime) none
  | notRunning {draw : Int} : Next .setRunning (.call false draw) .returned none
  | loggedStart {jobType : String} {succeeds : Bool} {draw : Int} :
      Next (.logStarted jobType) (.call succeeds draw) .startHandler none
  | started {nanos : Fin 1000} :
      Next .startHandler (.starts nanos) (.handling (timeNow now nanos))
        (some (.handlerStarted job.id now))
  | succeeded {start : Time} {nanos : Fin 1000} :
      Next (.handling start) (.returns none nanos) (.complete start (timeAfter start now nanos))
        (some (.handlerReturnedNil job.id workerId))
  | failed {start : Time} {errMsg : String} {nanos : Fin 1000} :
      Next (.handling start) (.returns (some errMsg) nanos)
        (.recordFailed errMsg start (timeAfter start now nanos)) none
  | completed {start finish : Time} {succeeds : Bool} {draw : Int} :
      Next (.complete start finish) (.call succeeds draw) (.logCompleted start finish) none
  | loggedCompleted {start finish : Time} {succeeds : Bool} {draw : Int} :
      Next (.logCompleted start finish) (.call succeeds draw) (.recordCompleted start finish) none
  | recordedCompleted {start finish : Time} {succeeds : Bool} {draw : Int} :
      Next (.recordCompleted start finish) (.call succeeds draw) .returned none
  | recordedFailed {errMsg : String} {start finish : Time} {succeeds : Bool} {draw : Int} :
      Next (.recordFailed errMsg start finish) (.call succeeds draw) (.logFailed errMsg) none
  | exhausted {errMsg : String} {succeeds : Bool} {draw : Int}
      (used : job.maxAttempts ≤ job.attempts + 1) :
      Next (.logFailed errMsg) (.call succeeds draw) (.moveToDLQ errMsg) none
  | consults {errMsg : String} {policyId : UUID} {succeeds : Bool} {draw : Int}
      (left : job.attempts + 1 < job.maxAttempts) :
      Next (.logFailed errMsg) (.call succeeds draw) (.getRetryPolicy errMsg policyId) none
  | backsOff {errMsg : String} {nextRunAt : Time} {succeeds : Bool} {draw : Int}
      (left : job.attempts + 1 < job.maxAttempts) :
      Next (.logFailed errMsg) (.call succeeds draw) (.failJob errMsg nextRunAt) none
  | consulted {errMsg : String} {policyId : UUID} {nextRunAt : Time} {succeeds : Bool}
      {draw : Int} :
      Next (.getRetryPolicy errMsg policyId) (.call succeeds draw) (.failJob errMsg nextRunAt) none
  | moved {errMsg : String} {succeeds : Bool} {draw : Int} :
      Next (.moveToDLQ errMsg) (.call succeeds draw) .returned none
  | marked {errMsg : String} {nextRunAt : Time} {succeeds : Bool} {draw : Int} :
      Next (.failJob errMsg nextRunAt) (.call succeeds draw) (.requeueForRetry nextRunAt) none
  | requeued {nextRunAt : Time} {succeeds : Bool} {draw : Int} :
      Next (.requeueForRetry nextRunAt) (.call succeeds draw) .returned none

variable {workerId now job db} {handlers : List String} {db' : Database} {pc pc' : Pc}
  {response : Response} {event : Option Event}

theorem scheduleRetry_eq_some {errMsg strategy : String} {base maxDelay draw : Int}
    (schedules : scheduleRetry now job errMsg strategy base maxDelay draw = some pc') :
    ∃ t, pc' = .failJob errMsg t := by
  obtain ⟨t, _, rfl⟩ := Option.map_eq_some_iff.mp schedules
  exact ⟨t, rfl⟩

theorem afterPolicy_eq_some {errMsg : String} {draw : Int}
    {policy : Except StoreError RetryPolicy}
    (schedules : afterPolicy now job errMsg draw policy = some pc') :
    ∃ t, pc' = .failJob errMsg t := by
  cases policy with
  | ok policy => exact scheduleRetry_eq_some schedules
  | error e => exact scheduleRetry_eq_some schedules

/-- **The transitions of `executeJob`.** -/
theorem advance_next
    (advances : advance handlers workerId now job db pc response = some (db', pc', event)) :
    Next workerId now job db pc response pc' event := by
  cases pc with
  | pending => cases advances
  | gate key =>
      obtain ⟨succeeds, draw, rfl, continues⟩ := Response.onCall_eq_some advances
      split at continues
      next hit =>
        cases continues
        obtain ⟨rfl, done⟩ := hit
        exact .gateHit done
      · cases continues
        exact .gateMiss
  | completeIdempotent =>
      obtain ⟨succeeds, draw, rfl, continues⟩ := Response.onCall_eq_some advances
      cases continues
      exact .completedIdempotent
  | setRunning =>
      obtain ⟨succeeds, draw, rfl, continues⟩ := Response.onCall_eq_some advances
      cases continues
      cases succeeds with
      | false => exact .notRunning
      | true =>
          simp only [if_true, resolveHandler]
          split
          · exact .resolved
          · exact .unresolved
  | logStarted jobType =>
      obtain ⟨succeeds, draw, rfl, continues⟩ := Response.onCall_eq_some advances
      cases continues
      exact .loggedStart
  | startHandler =>
      obtain ⟨nanos, rfl, continues⟩ := Response.onStart_eq_some advances
      cases continues
      exact .started
  | handling start =>
      obtain ⟨error, nanos, rfl, continues⟩ := Response.onReturn_eq_some advances
      cases error with
      | none =>
          cases continues
          exact .succeeded
      | some errMsg =>
          cases continues
          exact .failed
  | complete start finish =>
      obtain ⟨succeeds, draw, rfl, continues⟩ := Response.onCall_eq_some advances
      cases continues
      exact .completed
  | logCompleted start finish =>
      obtain ⟨succeeds, draw, rfl, continues⟩ := Response.onCall_eq_some advances
      cases continues
      exact .loggedCompleted
  | recordCompleted start finish =>
      obtain ⟨succeeds, draw, rfl, continues⟩ := Response.onCall_eq_some advances
      cases continues
      exact .recordedCompleted
  | recordFailed errMsg start finish =>
      obtain ⟨succeeds, draw, rfl, continues⟩ := Response.onCall_eq_some advances
      cases continues
      exact .recordedFailed
  | logFailed errMsg =>
      obtain ⟨succeeds, draw, rfl, continues⟩ := Response.onCall_eq_some advances
      obtain ⟨next, chosen, same⟩ := Option.map_eq_some_iff.mp continues
      cases same
      unfold afterFailure at chosen
      split at chosen
      next used =>
        cases chosen
        exact .exhausted used
      next unused =>
        have left : job.attempts + 1 < job.maxAttempts := by omega
        split at chosen
        · cases chosen
          exact .consults left
        · obtain ⟨t, rfl⟩ := scheduleRetry_eq_some chosen
          exact .backsOff left
  | moveToDLQ errMsg =>
      obtain ⟨succeeds, draw, rfl, continues⟩ := Response.onCall_eq_some advances
      cases continues
      exact .moved
  | getRetryPolicy errMsg policyId =>
      obtain ⟨succeeds, draw, rfl, continues⟩ := Response.onCall_eq_some advances
      obtain ⟨next, chosen, same⟩ := Option.map_eq_some_iff.mp continues
      cases same
      obtain ⟨t, rfl⟩ := afterPolicy_eq_some chosen
      exact .consulted
  | failJob errMsg nextRunAt =>
      obtain ⟨succeeds, draw, rfl, continues⟩ := Response.onCall_eq_some advances
      cases continues
      exact .marked
  | requeueForRetry nextRunAt =>
      obtain ⟨succeeds, draw, rfl, continues⟩ := Response.onCall_eq_some advances
      cases continues
      exact .requeued
  | returned => cases advances

/-- An execution never gets a job back once its last write is behind. -/
theorem Next.holds (next : Next workerId now job db pc response pc' event)
    (still : pc'.holds = true) : pc.holds = true := by
  cases next <;> first | rfl | cases still

end Next

/-! ## The row of a held job -/

/-- What the row of a held job looks like at each program point, beside the in-memory copy
`job`. `FailJob` puts the incremented count into the row but not into the copy. -/
def Pc.Matches (job row : Job) : Pc → Prop
  | .pending | .gate _ | .completeIdempotent | .setRunning =>
      row.status = .claimed ∧ row.attempts = job.attempts
  | .requeueForRetry _ =>
      row.status = .running ∧ row.attempts = job.attempts ∨
        row.status = .failed ∧ row.attempts = job.attempts + 1
  | .logCompleted .. | .recordCompleted .. | .returned => True
  | _ => row.status = .running ∧ row.attempts = job.attempts

theorem Pc.matches_entry {job row : Job} (fits : Pc.pending.Matches job row) :
    (Pc.entry job).Matches job row := by
  unfold Pc.entry
  split
  · exact fits
  · exact fits

/-- A held job is claimed, running or failed. -/
theorem Pc.Matches.status {job row : Job} {pc : Pc} (fits : pc.Matches job row)
    (held : pc.holds = true) : row.status.Active ∨ row.status = .failed := by
  cases pc with
  | pending | gate | completeIdempotent | setRunning => exact .inl (.inl fits.1)
  | requeueForRetry =>
      rcases fits with running | failed
      · exact .inl (.inr running.1)
      · exact .inr failed.1
  | logCompleted | recordCompleted | returned => cases held
  | _ => exact .inl (.inr fits.1)

theorem Pc.Matches.status_ne {job row : Job} {pc : Pc} {status : JobStatus}
    (fits : pc.Matches job row) (held : pc.holds = true)
    (other : ¬ status.Active ∧ status ≠ .failed) : row.status ≠ status := by
  rcases fits.status held with active | failed
  · exact active.ne other.1
  · rw [failed]
    exact other.2.symm

section Matches

variable {handlers : List String} {workerId : UUID} {now : Timestamptz} {job row : Job}
  {db db' : Database} {pc pc' : Pc} {response : Response} {event : Option Event}

/-- A row that the step did not write keeps matching. -/
theorem Next.matches_spared (next : Next workerId now job db pc response pc' event)
    (missing : ∀ draw, response = .call true draw → pc.rewrite now job ≠ none →
      ∃ errMsg, pc = .moveToDLQ errMsg)
    (fits : pc.Matches job row) : pc'.Matches job row := by
  cases next with
  | resolved | unresolved =>
      obtain ⟨errMsg, same⟩ := missing _ rfl (by simp [Pc.rewrite])
      cases same
  | marked => exact .inl fits
  | gateHit | gateMiss | started | succeeded | failed | loggedStart | recordedFailed
  | exhausted | consults | backsOff | consulted => exact fits
  | completedIdempotent | notRunning | completed | loggedCompleted | recordedCompleted
  | moved | requeued => trivial

/-- The row a successful write leaves behind matches the next counter. -/
theorem Next.matches_written {draw : Int} {rewrite : Job → Job}
    (next : Next workerId now job db pc (.call true draw) pc' event)
    (writes : pc.rewrite now job = some rewrite)
    (fits : pc.Matches job row) : pc'.Matches job (rewrite row) := by
  cases next with
  | resolved | unresolved =>
      cases writes
      exact ⟨rfl, fits.2⟩
  | marked =>
      cases writes
      exact .inr ⟨rfl, rfl⟩
  | completedIdempotent | completed | loggedCompleted | recordedCompleted | moved
  | requeued => trivial
  | gateHit | gateMiss | loggedStart | recordedFailed | exhausted | consults | backsOff
  | consulted => cases writes

end Matches

end JobScheduler
