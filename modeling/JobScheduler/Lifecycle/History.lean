import JobScheduler.Lifecycle.Attempts
import JobScheduler.System.Integrity

/-!
# The execution history

`RecordExecution` writes a row of `job_executions` for each attempt, after the handler returned.
The row is computed from the local variables of an execution that may have been running for a long
time, in a job that others may have changed meanwhile.

Whatever the timing, each row makes sense by itself: it is about an attempt from the first on, of a
span of time that has passed, with an error exactly when it failed (`executions_sound`). In a timely
run its attempt is one that the job is allowed.
-/

set_option autoImplicit false

namespace JobScheduler

open Relational Transition

/-- The execution that the pending call inserts. -/
def Pc.execution (workerId : UUID) (job : Job) : Pc → Option JobExecution
  | .recordCompleted start finish => some (executionRow workerId job .completed start finish none)
  | .recordFailed errMsg start finish =>
      some (executionRow workerId job .failed start finish (some errMsg))
  | _ => none

theorem Pc.execution_spec {workerId : UUID} {job : Job} {pc : Pc} {execution : JobExecution}
    (executes : pc.execution workerId job = some execution) :
    execution.jobId = job.id ∧ execution.workerId = workerId ∧
      execution.attempt = job.attempts + 1 := by
  cases pc <;> cases executes <;> exact ⟨rfl, rfl, rfl⟩

/-- What a row of `job_executions` says is possible. The duration is taken from the readings of
the clock before they lose their nanoseconds, so it is the whole milliseconds of the difference of
the columns, or one less where this difference has no more than whole milliseconds. -/
structure JobExecution.Sound (now : Timestamptz) (execution : JobExecution) : Prop where
  attempt : 1 ≤ execution.attempt
  span : ∃ finish duration, execution.finishedAt = some finish ∧
    execution.durationMs = some duration ∧ execution.startedAt ≤ finish ∧ finish ≤ now ∧
    1000 * duration ≤ finish - execution.startedAt ∧
    finish - execution.startedAt ≤ 1000 * (duration + 1)
  duration : ∀ duration ∈ execution.durationMs, 0 ≤ duration ∧ InInt4 duration
  error : execution.status = .failed ↔ execution.error ≠ none

/-! ## Times of an execution -/

/-- The local times of an execution are in order and have passed. -/
def Pc.Spans (now : Timestamptz) : Pc → Prop
  | .handling start => start.toTimestamptz ≤ now
  | .complete start finish | .logCompleted start finish | .recordCompleted start finish
  | .recordFailed _ start finish => start ≤ finish ∧ finish.toTimestamptz ≤ now
  | _ => True

section Clock

variable {start finish : Time}

/-- The driver drops what the engine's clock is ahead of the server's. -/
theorem toTimestamptz_timeNow (now : Timestamptz) (nanos : Fin 1000) :
    (timeNow now nanos).toTimestamptz = now := by
  have whole : ∀ micros nanos : Int, 0 ≤ nanos → nanos < 1000 →
      (micros * 1000 + nanos) / 1000 = micros := by
    intro micros nanos nonneg below
    omega
  exact whole now nanos.val (Int.natCast_nonneg _) (Int.ofNat_lt.mpr nanos.isLt)

theorem toTimestamptz_toTime_le (now : Timestamptz) : now.toTime.toTimestamptz ≤ now :=
  (Int.mul_ediv_cancel now (by decide)).le

theorem toTimestamptz_timeAfter {now : Timestamptz} (past : start.toTimestamptz ≤ now)
    (nanos : Fin 1000) : (timeAfter start now nanos).toTimestamptz ≤ now := by
  unfold timeAfter
  rcases le_total start (timeNow now nanos) with before | after
  · rw [max_eq_right before, toTimestamptz_timeNow]
  · rw [max_eq_left after]
    exact past

theorem Time.mono_toTimestamptz (ordered : start ≤ finish) :
    start.toTimestamptz ≤ finish.toTimestamptz :=
  Int.ediv_le_ediv (by decide) ordered

/-- The duration between the columns. -/
theorem elapsedMs_bounds (ordered : start ≤ finish) :
    1000 * elapsedMs start finish ≤ finish.toTimestamptz - start.toTimestamptz ∧
      finish.toTimestamptz - start.toTimestamptz ≤ 1000 * (elapsedMs start finish + 1) := by
  have elapsed : elapsedMs start finish = (finish - start) / 1000000 :=
    Int.tdiv_eq_ediv_of_nonneg (Int.sub_nonneg_of_le ordered)
  have bounds : ∀ s f : Int, 1000 * ((f - s) / 1000000) ≤ f / 1000 - s / 1000 ∧
      f / 1000 - s / 1000 ≤ 1000 * ((f - s) / 1000000 + 1) := by
    intro s f
    omega
  rw [elapsed]
  exact bounds start finish

end Clock

theorem Pc.Spans.mono {now now' : Timestamptz} {pc : Pc} (spans : pc.Spans now)
    (later : now ≤ now') : pc.Spans now' := by
  cases pc with
  | handling start => exact spans.trans later
  | complete | logCompleted | recordCompleted | recordFailed =>
      exact ⟨spans.1, spans.2.trans later⟩
  | _ => trivial

/-- What was sound remains so. -/
theorem JobExecution.Sound.mono {now now' : Timestamptz} {execution : JobExecution}
    (sound : execution.Sound now) (later : now ≤ now') : execution.Sound now' := by
  obtain ⟨finish, duration, finished, lasted, ordered, passed, bounds⟩ := sound.span
  exact { sound with
    span := ⟨finish, duration, finished, lasted, ordered, passed.trans later, bounds⟩ }

theorem Pc.spans_entry (now : Timestamptz) (job : Job) : (Pc.entry job).Spans now := by
  unfold Pc.entry
  split <;> trivial

theorem tried_appendJobLog_executions (succeeds : Bool) (db : Database) (entry : JobLogEntry) :
    (tried succeeds db (db.appendJobLog entry)).jobExecutions = db.jobExecutions := by
  unfold tried
  split
  next db' appends => rw [db.appendJobLog_spec appends]
  · rfl

section Advance

variable {handlers : List String} {workerId : UUID} {now : Timestamptz} {job : Job}
  {db db' : Database} {pc pc' : Pc} {response : Response} {event : Option Event}

theorem Next.spans (next : Next workerId now job db pc response pc' event)
    (spans : pc.Spans now) : pc'.Spans now := by
  cases next with
  | unresolved => exact ⟨le_rfl, toTimestamptz_toTime_le now⟩
  | started => exact (toTimestamptz_timeNow now _).le
  | succeeded | failed => exact ⟨le_max_left _ _, toTimestamptz_timeAfter spans _⟩
  | completed | loggedCompleted => exact spans
  | _ => trivial

/-- **The executions after a step of `executeJob`.** -/
theorem advance_executions
    (advances : advance handlers workerId now job db pc response = some (db', pc', event)) :
    pc.execution workerId job = none ∧ db'.jobExecutions = db.jobExecutions ∨
      ∃ execution succeeds draw, pc.execution workerId job = some execution ∧
        response = .call succeeds draw ∧
        db' = tried succeeds db (db.recordExecution execution) := by
  cases pc with
  | pending => cases advances
  | gate key =>
      obtain ⟨succeeds, draw, rfl, continues⟩ := Response.onCall_eq_some advances
      split at continues
      · cases continues
        exact .inl ⟨rfl, rfl⟩
      · cases continues
        exact .inl ⟨rfl, rfl⟩
  | completeIdempotent | setRunning | complete | failJob | requeueForRetry =>
      obtain ⟨succeeds, draw, rfl, continues⟩ := Response.onCall_eq_some advances
      cases continues
      refine .inl ⟨rfl, ?_⟩
      cases succeeds <;> rfl
  | logStarted | logCompleted =>
      obtain ⟨succeeds, draw, rfl, continues⟩ := Response.onCall_eq_some advances
      cases continues
      exact .inl ⟨rfl, tried_appendJobLog_executions _ _ _⟩
  | startHandler =>
      obtain ⟨nanos, rfl, continues⟩ := Response.onStart_eq_some advances
      cases continues
      exact .inl ⟨rfl, rfl⟩
  | handling start =>
      obtain ⟨error, nanos, rfl, continues⟩ := Response.onReturn_eq_some advances
      cases error <;> cases continues <;> exact .inl ⟨rfl, rfl⟩
  | recordCompleted | recordFailed =>
      obtain ⟨succeeds, draw, rfl, continues⟩ := Response.onCall_eq_some advances
      cases continues
      exact .inr ⟨_, succeeds, draw, rfl, rfl, rfl⟩
  | logFailed errMsg =>
      obtain ⟨succeeds, draw, rfl, continues⟩ := Response.onCall_eq_some advances
      obtain ⟨next, _, same⟩ := Option.map_eq_some_iff.mp continues
      cases same
      exact .inl ⟨rfl, tried_appendJobLog_executions _ _ _⟩
  | moveToDLQ errMsg =>
      obtain ⟨succeeds, draw, rfl, continues⟩ := Response.onCall_eq_some advances
      cases continues
      refine .inl ⟨rfl, ?_⟩
      unfold tried
      split
      next moves =>
        obtain ⟨rfl, _⟩ := db.moveToDLQ_spec moves
        rfl
      · rfl
  | getRetryPolicy errMsg policyId =>
      obtain ⟨succeeds, draw, rfl, continues⟩ := Response.onCall_eq_some advances
      obtain ⟨next, _, same⟩ := Option.map_eq_some_iff.mp continues
      cases same
      exact .inl ⟨rfl, rfl⟩
  | returned => cases advances

end Advance

namespace World

variable {cron : CronParser} {w w' : World} {a : Action}

/-- What a step does to the executions. -/
inductive RecordStep (w w' : World) : Action → Prop where
  | kept {a : Action} (same : w'.db.jobExecutions = w.db.jobExecutions)
      (missed : ∀ ticket draw task execution, a = .exec ticket (.call true draw) →
        w.tasks ticket = some task → task.pc.execution task.worker task.job = some execution →
        ∃ error, w.db.recordExecution execution = .error error) :
      RecordStep w w' a
  | deleted {request : Request} (gone : List UUID) (effect : HistoryEffect w.db w'.db gone) :
      RecordStep w w' (.api request)
  | recorded {ticket : Nat} {draw : Int} {task : Task} {execution : JobExecution}
      (taken : w.tasks ticket = some task)
      (executes : task.pc.execution task.worker task.job = some execution)
      (records : w.db.recordExecution execution = .ok w'.db) :
      RecordStep w w' (.exec ticket (.call true draw))

/-- Steps that are not part of an execution keep the executions. -/
theorem RecordStep.other (same : w'.db.jobExecutions = w.db.jobExecutions)
    (other : a.isExec = false) : RecordStep w w' a := by
  refine .kept same ?_
  rintro ticket draw task execution rfl
  cases other

theorem step_executions (moves : Moves cron w a w') : RecordStep w w' a := by
  cases moves with
  | api request db nodup fresh performs =>
      obtain ⟨gone, effect⟩ := Request.perform_history performs
      exact .deleted gone effect
  | claim worker tie emit engine queueId queues db jobs found running phase claims =>
      obtain ⟨_, _, rfl, _⟩ := w.db.claimJobs_spec claims
      exact .other rfl rfl
  | release worker succeeds | deregister worker succeeds =>
      cases succeeds <;> exact .other rfl rfl
  | exec ticket response task engine db pc event taken found alive permitted advances =>
      rcases advance_executions advances with
        ⟨silent, same⟩ | ⟨execution, succeeds, draw, executes, rfl, rfl⟩
      · refine .kept same fun ticket' draw task' execution clash taken' executes => ?_
        cases clash
        rw [taken] at taken'
        cases taken'
        rw [silent] at executes
        cases executes
      · cases succeeds with
        | false =>
            refine .kept rfl fun _ _ _ _ clash => ?_
            cases clash
        | true =>
            cases records : w.db.recordExecution execution with
            | ok db' => exact .recorded taken executes records
            | error error =>
                refine .kept rfl fun ticket' draw' task' execution' clash taken' executes' => ?_
                cases clash
                rw [taken] at taken'
                cases taken'
                rw [executes] at executes'
                cases executes'
                exact ⟨error, records⟩
  | tick | sweep | markDead | register | heartbeat | cancel | crash | poll | claimFailed
  | dispatch | proceed | finish => exact .other rfl rfl

/-- An execution after a step was there before, or the step records it for a task. -/
theorem execution_before (moves : Moves cron w a w') {execution : JobExecution}
    (member : execution ∈ w'.db.jobExecutions) :
    execution ∈ w.db.jobExecutions ∨ ∃ ticket task, w.tasks ticket = some task ∧
      task.pc.execution task.worker task.job = some execution ∧
      ∀ duration ∈ execution.durationMs, InInt4 duration := by
  cases step_executions moves with
  | kept same =>
      rw [same] at member
      exact .inl member
  | deleted gone effect =>
      rw [effect.executions] at member
      exact .inl (List.mem_of_mem_filter member)
  | @recorded ticket _ task inserted taken executes records =>
      unfold Database.recordExecution at records
      obtain ⟨range, records⟩ := passed_check records
      obtain ⟨_, records⟩ := passed_check records
      have rows : w.db.jobExecutions ++ [inserted] = w'.db.jobExecutions :=
        congrArg Database.jobExecutions (Except.ok.inj records)
      rw [← rows] at member
      rcases List.mem_append.mp member with old | new
      · exact .inl old
      · rw [List.mem_singleton] at new
        subst new
        exact .inr ⟨ticket, task, taken, executes, not_not.mp range⟩

/-! ## Sound rows -/

/-- The invariant: no count is negative, the times of executions are in order, and the rows are
sound. -/
structure Documented (w : World) : Prop where
  wellFormed : WellFormed w
  counted : ∀ row ∈ w.db.jobs, 0 ≤ row.attempts
  copied : ∀ ticket task, w.tasks ticket = some task → 0 ≤ task.job.attempts
  spans : ∀ ticket task, w.tasks ticket = some task → task.pc.Spans w.now
  sound : ∀ execution ∈ w.db.jobExecutions, execution.Sound w.now

theorem documented_start (now : Timestamptz) (policies : List RetryPolicy) :
    Documented (World.start now policies) where
  wellFormed := wellFormed_start now policies
  counted _ member := by cases member
  copied _ _ taken := by cases taken
  spans _ _ taken := by cases taken
  sound _ member := by cases member

/-- The count of a row is kept, reset, or computed from that of a copy. -/
theorem Documented.counted_row (inv : Documented w) {row row' : Job} (member : row ∈ w.db.jobs)
    (change : RowStep w a row row') : 0 ≤ row'.attempts := by
  have counted := inv.counted row member
  cases change with
  | @written _ _ task rewrite _ taken _ writes =>
      have copied := inv.copied _ _ taken
      cases pc : task.pc <;> rw [pc] at writes <;> cases writes <;>
        first | exact counted | exact Int.le_add_one copied
  | retried => exact le_rfl
  | kept | claimed | renewed | released | reclaimed => exact counted

theorem Documented.copied_task (inv : Documented w) {ticket : Nat} {task' : Task}
    (origin : TaskStep w w' a ticket task') : 0 ≤ task'.job.attempts := by
  cases origin with
  | @opened _ _ _ _ _ row _ _ _ _ member => exact inv.counted row member
  | @kept task _ _ taken => exact inv.copied ticket task taken
  | @dispatched task _ _ taken => exact inv.copied ticket task taken
  | @advanced task _ _ _ _ _ taken => exact inv.copied ticket task taken

theorem Documented.spans_task (inv : Documented w) {ticket : Nat} {task' : Task}
    (origin : TaskStep w w' a ticket task') : task'.pc.Spans w.now := by
  cases origin with
  | opened => trivial
  | @kept task _ _ taken => exact inv.spans ticket task taken
  | dispatched => exact Pc.spans_entry _ _
  | @advanced task _ _ _ _ _ taken _ _ advances =>
      exact (advance_next advances).spans (inv.spans ticket task taken)

/-- What a task records is sound. -/
theorem Documented.recorded (inv : Documented w) {ticket : Nat} {task : Task}
    {execution : JobExecution} (taken : w.tasks ticket = some task)
    (executes : task.pc.execution task.worker task.job = some execution)
    (range : ∀ duration ∈ execution.durationMs, InInt4 duration) : execution.Sound w.now := by
  have first : 1 ≤ task.job.attempts + 1 := Int.le_add_of_nonneg_left (inv.copied ticket task taken)
  have spans := inv.spans ticket task taken
  have positive : ∀ {start finish : Time}, start ≤ finish → 0 ≤ elapsedMs start finish :=
    fun ordered => Int.tdiv_nonneg (Int.sub_nonneg_of_le ordered) (by decide)
  generalize task.pc = pc at executes spans
  cases pc with
  | recordCompleted start finish =>
      cases executes
      refine ⟨first, ⟨_, _, rfl, rfl, Time.mono_toTimestamptz spans.1, spans.2,
        elapsedMs_bounds spans.1⟩, ?_, by simp [executionRow]⟩
      rintro _ ⟨⟩
      exact ⟨positive spans.1, range _ rfl⟩
  | recordFailed errMsg start finish =>
      cases executes
      refine ⟨first, ⟨_, _, rfl, rfl, Time.mono_toTimestamptz spans.1, spans.2,
        elapsedMs_bounds spans.1⟩, ?_, by simp [executionRow]⟩
      rintro _ ⟨⟩
      exact ⟨positive spans.1, range _ rfl⟩
  | _ => cases executes

/-- **Sound rows stay, and sound rows are added.** -/
theorem documented_step (moves : Moves cron w a w') (inv : Documented w) : Documented w' where
  wellFormed := wellFormed_step moves inv.wellFormed
  counted row' member' := by
    rcases step_rows moves inv.wellFormed.ids member' with ⟨row, member, change⟩ | new
    · exact inv.counted_row member change
    · rw [new.waiting.untried]
  copied ticket task' taken' := inv.copied_task (step_tasks moves inv.wellFormed.ids taken')
  spans ticket task' taken' :=
    (inv.spans_task (step_tasks moves inv.wellFormed.ids taken')).mono (now_mono moves)
  sound execution member' := by
    rcases execution_before moves member' with old | ⟨ticket, task, taken, executes, range⟩
    · exact (inv.sound execution old).mono (now_mono moves)
    · exact (inv.recorded taken executes range).mono (now_mono moves)

/-! ## Allowed attempts -/

/-- Copies have attempts left, and no more attempts are recorded of a job than it has. -/
structure Limited (w : World) : Prop where
  accounts : Accounts w
  constrained : Constrained w
  copied : ∀ ticket task, w.tasks ticket = some task → task.job.attempts < task.job.maxAttempts
  recorded : ∀ execution ∈ w.db.jobExecutions, ∀ row ∈ w.db.jobs, row.id = execution.jobId →
    execution.attempt ≤ row.maxAttempts

theorem limited_start (now : Timestamptz) (policies : List RetryPolicy) :
    Limited (World.start now policies) where
  accounts := accounts_start now policies
  constrained := constrained_start now policies
  copied _ _ taken := by cases taken
  recorded _ member := by cases member

theorem limited_step (moves : Moves cron w a w') (fresh : NoStaleWrite w a) (inv : Limited w) :
    Limited w' where
  accounts := accounts_step moves fresh inv.accounts
  constrained := constrained_step moves inv.constrained
  copied ticket task' taken' := by
    have wf := inv.accounts.exclusive.wellFormed
    cases step_tasks moves wf.ids taken' with
    | @opened _ _ _ _ _ row _ _ _ _ member claimable =>
        have alive := claimable.2.1
        have accounted := (inv.accounts.rows row member).unlettered (by rw [alive]; simp)
        exact accounted.2.1
    | @kept task _ _ taken => exact inv.copied ticket task taken
    | @dispatched task _ _ taken => exact inv.copied ticket task taken
    | @advanced task _ _ _ _ _ taken => exact inv.copied ticket task taken
  recorded execution member' row' rowMember' own := by
    have wf := inv.accounts.exclusive.wellFormed
    rcases step_rows moves wf.ids rowMember' with ⟨row, rowMember, change⟩ | new
    · rw [Job.maxAttempts_eq_of_fixed change.fixed]
      rw [change.id] at own
      rcases execution_before moves member' with old | ⟨ticket, task, taken, executes, _⟩
      · exact inv.recorded execution old row rowMember own
      · have left := inv.copied ticket task taken
        obtain ⟨ofJob, _, attempt⟩ := Pc.execution_spec executes
        have fixed := wf.copies ticket task taken row rowMember (own.trans ofJob)
        rw [attempt, Job.maxAttempts_eq_of_fixed fixed]
        exact left
    · -- the executions are of jobs that were there before
      obtain ⟨_, _, _, unissued, _⟩ := new
      rw [own] at unissued
      rcases execution_before moves member' with old | ⟨ticket, task, taken, executes, _⟩
      · obtain ⟨job, jobMember, same⟩ := inv.constrained.integral.executionJobs execution old
        rw [← same] at unissued
        exact absurd (wf.issuedRows job jobMember) unissued
      · rw [(Pc.execution_spec executes).1] at unissued
        exact absurd (wf.issuedTasks ticket task taken) unissued

end World

/-- **The history makes sense.** In every state of every run each row of `job_executions` is about
an attempt, counted from one, of a span of time that has passed, with an error exactly when it
failed. In a timely run it is an attempt that the job is allowed. -/
theorem executions_sound {cron : CronParser} {trace : List (World × Action)} {w : World}
    (run : Run (scheduler cron) trace w) :
    Throughout (fun s => ∀ execution ∈ s.db.jobExecutions, execution.Sound s.now) trace w ∧
      (Meets Timely trace → Throughout (fun s => ∀ execution ∈ s.db.jobExecutions,
        ∀ row ∈ s.db.jobs, row.id = execution.jobId → execution.attempt ≤ row.maxAttempts)
        trace w) := by
  constructor
  · have anyway : Meets (fun _ _ => True) trace := fun _ _ => trivial
    have all : Throughout World.Documented trace w := by
      refine run.throughout anyway ?_ ?_
      · rintro s ⟨now, policies, rfl⟩
        exact World.documented_start now policies
      · intro s a s' taken _ inv
        exact World.documented_step (World.step_moves taken) inv
    exact ⟨fun entry member => (all.1 entry member).sound, all.2.sound⟩
  · intro timely
    have all : Throughout World.Limited trace w := by
      refine run.throughout (noStaleWrite_of_timely run timely) ?_ ?_
      · rintro s ⟨now, policies, rfl⟩
        exact World.limited_start now policies
      · intro s a s' taken fresh inv
        exact World.limited_step (World.step_moves taken) fresh inv
    exact ⟨fun entry member => (all.1 entry member).recorded, all.2.recorded⟩

/-- An execution of two seconds less one nanosecond that succeeds. -/
def twoSeconds : List Action :=
  Scenario.deployed ++ Scenario.take 5 ++
    [.exec 0 (.call true 0), .exec 0 (.call true 0), .exec 0 (.starts ⟨999, by decide⟩),
      .tick 2000000, .exec 0 (.returns none ⟨998, by decide⟩), .exec 0 (.call true 0),
      .exec 0 (.call true 0), .exec 0 (.call true 0)]

/-- Its columns are two seconds apart. -/
theorem executions_sound_twoSeconds :
    ∃ trace w, Run (scheduler Scenario.cron) trace w ∧
      ∃ execution ∈ w.db.jobExecutions, execution.durationMs = some 1999 ∧
        execution.finishedAt = some (execution.startedAt + 2000000) ∧
        execution.Sound w.now := by
  obtain ⟨trace, w, run, execution, member, lasted, apart⟩ :=
    exists_run_of_execute (scheduler Scenario.cron) twoSeconds (World.start 0 [])
      (fun _ w => ∃ execution ∈ w.db.jobExecutions, execution.durationMs = some 1999 ∧
        execution.finishedAt = some (execution.startedAt + 2000000))
      ⟨0, [], rfl⟩ (by decide)
  exact ⟨trace, w, run, execution, member, lasted, apart,
    (executions_sound run).1.2 execution member⟩

end JobScheduler
