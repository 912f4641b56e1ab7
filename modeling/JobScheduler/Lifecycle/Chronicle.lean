import JobScheduler.Lifecycle.History
import JobScheduler.Lifecycle.Renewal
import JobScheduler.Lifecycle.Stranded

/-!
# The history of a job, exactly

`attempts` is a counter in the row of a job, `job_executions` a table of what happened. They are
written by different statements, at different points of an execution, and a retry by hand resets the
counter but keeps the table.

In a timely run in which no engine stops and no store call of an execution fails, the two agree at
every moment. The executions of a job are its past rounds, each a failure of every attempt it was
allowed, then the failures that the counter counts, then at most one more (`history_exact`).
-/

set_option autoImplicit false

namespace JobScheduler

open Relational Transition

/-- The first `n` attempts, all failed. -/
def failures (n : Int) : List (Int × ExecutionStatus) :=
  (List.range n.toNat).map fun i => ((i : Int) + 1, .failed)

theorem failures_zero : failures 0 = [] := rfl

theorem failures_succ {n : Int} (nonneg : 0 ≤ n) :
    failures (n + 1) = failures n ++ [(n + 1, .failed)] := by
  obtain ⟨m, rfl⟩ := Int.eq_ofNat_of_zero_le nonneg
  have one : ((m : Int) + 1).toNat = m + 1 := rfl
  simp [failures, one, List.range_succ]

/-- The attempts on record of a job, in the order they were recorded. -/
def Database.attemptsOf (db : Database) (jobId : UUID) : List (Int × ExecutionStatus) :=
  (db.jobExecutions.filter (·.jobId = jobId)).map fun e => (e.attempt, e.status)

/-- The rounds of a job that ended with a dead letter and a retry by hand. -/
def World.pastRounds (w : World) (row : Job) : List (Int × ExecutionStatus) :=
  (List.replicate (w.events.count (.dlqRetried row.id)) (failures row.maxAttempts)).flatten

/-- What may be on record of the current round of a job. -/
inductive OnRecord (row : Job) : List (Int × ExecutionStatus) → Prop where
  /-- The failures that the row counts. -/
  | counted : OnRecord row (failures row.attempts)
  /-- One more, before `handleFailure` has counted it. -/
  | uncounted (running : row.status = .running) : OnRecord row (failures (row.attempts + 1))
  /-- The attempt that succeeded. -/
  | completed (done : row.status = .completed) :
      OnRecord row (failures row.attempts ++ [(row.attempts + 1, .completed)])

/-- When the handler that is running was called. -/
def Pc.calledAt? : Pc → Option Time
  | .handling start => some start
  | _ => none

/-- No engine stops, no store call of an execution fails, and no handler runs for more milliseconds
than an `INT` can say. -/
def Smooth (w : World) : Action → Prop
  | .crash _ | .cancel _ => False
  | .exec _ (.call false _) => False
  | .exec ticket (.returns _ nanos) => ∀ task ∈ w.tasks ticket, ∀ start ∈ task.pc.calledAt?,
      InInt4 (elapsedMs start (timeAfter start w.now nanos))
  | _ => True

/-! ## Program points -/

/-- The failures on record while an execution is at a program point. -/
def Pc.failed (job : Job) : Pc → Int
  | .logFailed _ | .moveToDLQ _ | .getRetryPolicy .. | .failJob .. | .requeueForRetry _ =>
      job.attempts + 1
  | _ => job.attempts

/-- The count in the row while an execution is at a program point. -/
def Pc.counted (job : Job) : Pc → Int
  | .requeueForRetry _ => job.attempts + 1
  | _ => job.attempts

/-- The execution has completed its job and has not yet recorded that. -/
def Pc.finishing : Pc → Bool
  | .logCompleted .. | .recordCompleted .. => true
  | _ => false

/-- The duration that will be recorded fits its column. -/
def Pc.Measured : Pc → Prop
  | .complete start finish | .logCompleted start finish | .recordCompleted start finish
  | .recordFailed _ start finish => InInt4 (elapsedMs start finish)
  | _ => True

theorem Pc.measured_entry (job : Job) : (Pc.entry job).Measured := by
  unfold Pc.entry
  split <;> trivial

theorem Pc.failed_entry (job : Job) : (Pc.entry job).failed job = job.attempts := by
  unfold Pc.entry
  split <;> rfl

theorem Pc.counted_entry (job : Job) : (Pc.entry job).counted job = job.attempts := by
  unfold Pc.entry
  split <;> rfl

theorem Pc.finishing_entry (job : Job) : (Pc.entry job).finishing = false := by
  unfold Pc.entry
  split <;> rfl

/-- A held row has as many failures on record as it counts, or one more while it is running. -/
theorem Pc.failed_or {job row : Job} {pc : Pc} (held : pc.holds = true)
    (counted : row.attempts = pc.counted job) (fits : pc.Matches job row) :
    pc.failed job = row.attempts ∨ row.status = .running ∧ pc.failed job = row.attempts + 1 := by
  cases pc with
  | logFailed | moveToDLQ | getRetryPolicy | failJob =>
      exact .inr ⟨fits.1, by rw [counted]; rfl⟩
  | logCompleted | recordCompleted | returned => cases held
  | _ => exact .inl counted.symm

section Next

variable {workerId : UUID} {now : Timestamptz} {job : Job} {db : Database} {pc pc' : Pc}
  {response : Response} {event : Option Event}

theorem Next.measured (next : Next workerId now job db pc response pc' event)
    (measured : pc.Measured)
    (range : ∀ start error nanos, pc = .handling start → response = .returns error nanos →
      InInt4 (elapsedMs start (timeAfter start now nanos))) : pc'.Measured := by
  cases next with
  | unresolved =>
      change InInt4 (elapsedMs _ _)
      simp [elapsedMs, InInt4]
  | succeeded | failed => exact range _ _ _ rfl rfl
  | completed | loggedCompleted => exact measured
  | _ => trivial

/-- An execution retries no job by hand. -/
theorem Next.not_retried (next : Next workerId now job db pc response pc' event) (jobId : UUID) :
    event ≠ some (.dlqRetried jobId) := by
  cases next <;> simp

end Next

namespace World

variable {cron : CronParser} {w w' : World} {a : Action}

/-! ## What a step puts on record -/

/-- Rounds are counted by the retries. -/
theorem pastRounds_kept (moves : Moves cron w a w') {row row' : Job}
    (fixed : row'.fixed = row.fixed) (other : ∀ orgId, a ≠ .api (.retryDLQJob row.id orgId)) :
    w'.pastRounds row' = w.pastRounds row := by
  have same : w'.events.count (.dlqRetried row.id) = w.events.count (.dlqRetried row.id) := by
    cases moves with
    | api request =>
        change (request.events ++ w.events).count _ = _
        rw [List.count_append, Nat.add_eq_right, List.count_eq_zero]
        intro member
        cases request with
        | retryDLQJob id orgId =>
            rw [Request.events, List.mem_singleton] at member
            cases member
            exact other orgId rfl
        | _ => cases member
    | exec ticket response task engine db pc event taken found alive permitted advances =>
        change (event.toList ++ w.events).count _ = _
        rw [List.count_append, Nat.add_eq_right, List.count_eq_zero]
        intro member
        exact (advance_next advances).not_retried row.id (Option.mem_toList.mp member)
    | _ => rfl
  unfold pastRounds
  rw [Job.id_eq_of_fixed fixed, Job.maxAttempts_eq_of_fixed fixed, same]

/-- A retry by hand ends a round. -/
theorem pastRounds_retried {row row' : Job} {orgId : UUID} (fixed : row'.fixed = row.fixed)
    (moves : Moves cron w (.api (.retryDLQJob row.id orgId)) w') :
    w'.pastRounds row' = w.pastRounds row ++ failures row.maxAttempts := by
  have more : w'.events.count (.dlqRetried row.id) = w.events.count (.dlqRetried row.id) + 1 := by
    cases moves
    exact List.count_cons_self
  unfold pastRounds
  rw [Job.id_eq_of_fixed fixed, Job.maxAttempts_eq_of_fixed fixed, more, List.replicate_succ',
    List.flatten_append, List.flatten_singleton]

/-- The step records an execution of the job. -/
def Records (w : World) (a : Action) (jobId : UUID) : Prop :=
  ∃ ticket draw task, a = .exec ticket (.call true draw) ∧ w.tasks ticket = some task ∧
    task.job.id = jobId ∧ (task.pc.execution task.worker task.job).isSome

/-- A step that records nothing of a job keeps its record. -/
theorem attemptsOf_kept (moves : Moves cron w a w') (ids : (w.db.jobs.map (·.id)).Nodup)
    {row row' : Job} (member : row ∈ w.db.jobs) (member' : row' ∈ w'.db.jobs)
    (fixed : row'.fixed = row.fixed) (silent : ¬ w.Records a row.id) :
    w'.db.attemptsOf row.id = w.db.attemptsOf row.id := by
  unfold Database.attemptsOf
  congr 1
  cases step_executions moves with
  | kept same => rw [same]
  | deleted gone effect =>
      have stays : row.id ∉ (w.db.jobs.filter (·.queueId ∈ gone)).map (·.id) := by
        intro listed
        obtain ⟨other, found, same⟩ := List.mem_map.mp listed
        obtain ⟨found, inside⟩ := List.mem_filter.mp found
        have eq := eq_of_key_eq ids found member same
        subst eq
        have spared := effect.jobs row' member'
        rw [Job.queueId_eq_of_fixed fixed] at spared
        exact spared (of_decide_eq_true inside)
      rw [effect.executions]
      unfold Database.deleteQueues
      rw [List.filter_filter]
      refine List.filter_congr fun execution _ => ?_
      by_cases own : execution.jobId = row.id
      · simp only [own, decide_true, Bool.true_and, decide_eq_true_eq]
        exact stays
      · simp [own]
  | @recorded ticket draw task execution taken executes records =>
      have other : execution.jobId ≠ row.id := by
        intro own
        refine silent ⟨ticket, draw, task, rfl, taken, ?_, by rw [executes]; rfl⟩
        rw [← own]
        exact (Pc.execution_spec executes).1.symm
      rw [w.db.recordExecution_spec records, List.filter_append]
      simp [other]

/-- A step that records an execution of a job appends it. -/
theorem attemptsOf_recorded {ticket : Nat} {draw : Int}
    (moves : Moves cron w (.exec ticket (.call true draw)) w') (constrained : Constrained w)
    {task : Task} (taken : w.tasks ticket = some task) (measured : task.pc.Measured)
    {row : Job} (member : row ∈ w.db.jobs) (own : row.id = task.job.id)
    {execution : JobExecution}
    (executes : task.pc.execution task.worker task.job = some execution) :
    w'.db.attemptsOf row.id =
      w.db.attemptsOf row.id ++ [(execution.attempt, execution.status)] := by
  obtain ⟨ofJob, ofWorker, _⟩ := Pc.execution_spec executes
  have range : ∀ duration ∈ execution.durationMs, InInt4 duration := by
    generalize task.pc = pc at executes measured
    rintro duration lasted
    cases pc <;> cases executes <;> cases lasted <;> exact measured
  have records : w.db.recordExecution execution =
      .ok { w.db with jobExecutions := w.db.jobExecutions ++ [execution] } := by
    obtain ⟨engine, found⟩ := constrained.referential.wellFormed.employed ticket task taken
    have worker := constrained.employed task.worker engine found
    have job : ∃ row ∈ w.db.jobs, row.id = execution.jobId :=
      ⟨row, member, own.trans ofJob.symm⟩
    rw [← ofWorker] at worker
    unfold Database.recordExecution
    rw [if_neg (not_not.mpr range), if_neg (not_or.mpr ⟨not_not.mpr job, not_not.mpr worker⟩)]
  cases step_executions moves with
  | kept same missed =>
      obtain ⟨error, fails⟩ := missed ticket draw task execution rfl taken executes
      rw [records] at fails
      cases fails
  | @recorded _ _ task' execution' taken' executes' records' =>
      rw [taken] at taken'
      cases taken'
      rw [executes] at executes'
      cases executes'
      unfold Database.attemptsOf
      rw [w.db.recordExecution_spec records', List.filter_append, List.map_append]
      simp [ofJob, own]

/-- Nothing is on record of a new job. -/
theorem attemptsOf_new (moves : Moves cron w a w') (constrained : Constrained w) {row : Job}
    (new : w.NewRow a row) : w'.db.attemptsOf row.id = [] := by
  have wf := constrained.referential.wellFormed
  obtain ⟨_, _, _, unissued, _⟩ := new
  unfold Database.attemptsOf
  rw [List.map_eq_nil_iff, List.filter_eq_nil_iff]
  intro execution member own
  rw [decide_eq_true_eq] at own
  rw [← own] at unissued
  rcases execution_before moves member with old | ⟨ticket, task, taken, executes, _⟩
  · obtain ⟨job, jobMember, same⟩ := constrained.integral.executionJobs execution old
    rw [← same] at unissued
    exact unissued (wf.issuedRows job jobMember)
  · rw [(Pc.execution_spec executes).1] at unissued
    exact unissued (wf.issuedTasks ticket task taken)

end World

/-! ## The invariant -/

/-- No execution is under way in this status. -/
def JobStatus.Settled (status : JobStatus) : Prop := ¬ status.Active ∧ status ≠ .failed

instance : DecidablePred JobStatus.Settled :=
  fun status => inferInstanceAs (Decidable (¬ status.Active ∧ status ≠ .failed))

/-- The record of a job that nobody executes. -/
inductive Resting (w : World) (row : Job) : Prop where
  | counted (settled : row.status.Settled)
      (same : w.db.attemptsOf row.id = w.pastRounds row ++ failures row.attempts)
  | recorded (done : row.status = .completed)
      (same : w.db.attemptsOf row.id =
        w.pastRounds row ++ (failures row.attempts ++ [(row.attempts + 1, .completed)]))

theorem Resting.settled {w : World} {row : Job} (rests : Resting w row) : row.status.Settled := by
  cases rests with
  | counted settled => exact settled
  | recorded done =>
      rw [done]
      decide

/-- What is on record at each program point of an execution, and of the jobs that rest. -/
structure Chronicled (w : World) : Prop where
  undisturbed : w.Undisturbed
  accounts : Accounts w
  constrained : Constrained w
  running : ∀ worker engine, w.engines worker = some engine → engine.status = .running
  measured : ∀ ticket task, w.tasks ticket = some task → task.pc.Measured
  unretried : ∀ jobId, jobId ∉ w.issued → Event.dlqRetried jobId ∉ w.events
  held : ∀ ticket task, w.tasks ticket = some task → task.pc.holds = true →
    ∀ row ∈ w.db.jobs, row.id = task.job.id → row.attempts = task.pc.counted task.job ∧
      w.db.attemptsOf row.id = w.pastRounds row ++ failures (task.pc.failed task.job)
  finishing : ∀ ticket task, w.tasks ticket = some task → task.pc.finishing = true →
    ∀ row ∈ w.db.jobs, row.id = task.job.id → row.status = .completed ∧
      row.attempts = task.job.attempts ∧
      w.db.attemptsOf row.id = w.pastRounds row ++ failures row.attempts
  alone : ∀ first second firstTask secondTask, w.tasks first = some firstTask →
    w.tasks second = some secondTask → firstTask.pc.finishing = true →
    secondTask.pc.finishing = true → firstTask.job.id = secondTask.job.id →
    (∃ row ∈ w.db.jobs, row.id = firstTask.job.id) → first = second
  resting : ∀ row ∈ w.db.jobs, ¬ w.HasHolder row.id → Resting w row

namespace Chronicled

open World

variable {cron : CronParser} {w w' : World} {a : Action}

theorem start (now : Timestamptz) (policies : List RetryPolicy) :
    Chronicled (World.start now policies) where
  undisturbed := World.undisturbed_start now policies
  accounts := accounts_start now policies
  constrained := World.constrained_start now policies
  running _ _ found := by cases found
  measured _ _ taken := by cases taken
  unretried _ _ member := by cases member
  held _ _ taken := by cases taken
  finishing _ _ taken := by cases taken
  alone _ _ _ _ taken := by cases taken
  resting _ member := by cases member

theorem wellFormed (inv : Chronicled w) : WellFormed w := inv.accounts.exclusive.wellFormed

/-- All engines are live. -/
theorem holds (inv : Chronicled w) {ticket : Nat} {task : Task}
    (taken : w.tasks ticket = some task) (held : task.pc.holds = true) : w.Holds task := by
  obtain ⟨engine, found⟩ := inv.wellFormed.employed ticket task taken
  exact ⟨held, engine, found, inv.running task.worker engine found⟩

theorem possesses (inv : Chronicled w) {ticket : Nat} {task : Task}
    (taken : w.tasks ticket = some task) (held : task.pc.holds = true) {row : Job}
    (member : row ∈ w.db.jobs) (own : row.id = task.job.id) : task.Possesses row :=
  inv.undisturbed.possesses taken (inv.holds taken held) member own

/-- Two executions that hold one job are the same. -/
theorem same_holder (inv : Chronicled w) {first second : Nat} {firstTask secondTask : Task}
    (firstTaken : w.tasks first = some firstTask) (secondTaken : w.tasks second = some secondTask)
    (firstHeld : firstTask.pc.holds = true) (secondHeld : secondTask.pc.holds = true)
    (same : firstTask.job.id = secondTask.job.id) : first = second :=
  inv.undisturbed.exclusive.unique first second firstTask secondTask firstTaken secondTaken
    (inv.undisturbed.owns firstTaken (inv.holds firstTaken firstHeld))
    (inv.undisturbed.owns secondTaken (inv.holds secondTaken secondHeld)) same

theorem hasHolder (inv : Chronicled w) {ticket : Nat} {task : Task}
    (taken : w.tasks ticket = some task) (held : task.pc.holds = true) {jobId : UUID}
    (own : task.job.id = jobId) : w.HasHolder jobId :=
  ⟨ticket, task, taken, inv.holds taken held, own⟩

/-- What records an execution is about to fail, or has completed its job. -/
theorem records_point {pc : Pc} {workerId : UUID} {job : Job}
    (executes : (pc.execution workerId job).isSome) :
    pc.holds = true ∨ pc.finishing = true := by
  cases pc with
  | recordFailed => exact .inl rfl
  | recordCompleted => exact .inr rfl
  | _ => cases executes

/-- Nothing is recorded of a job while its holder does nothing. -/
theorem silent_held (inv : Chronicled w) {ticket : Nat} {task : Task}
    (taken : w.tasks ticket = some task) (held : task.pc.holds = true) {row : Job}
    (member : row ∈ w.db.jobs) (own : row.id = task.job.id)
    (idle : (task.pc.execution task.worker task.job).isSome → ∀ response, a ≠ .exec ticket response) :
    ¬ w.Records a row.id := by
  rintro ⟨other, draw, task', rfl, taken', own', executes⟩
  rcases records_point executes with held' | finishing
  · have same := inv.same_holder taken' taken held' held (own'.trans own)
    subst same
    rw [taken] at taken'
    cases taken'
    exact idle executes _ rfl
  · have done := (inv.finishing other task' taken' finishing row member own'.symm).1
    exact (inv.possesses taken held member own).fits.status_ne held (by decide) done

/-- What a step leaves of the row of a job whose holder does nothing. -/
theorem row_idle (inv : Chronicled w) (moves : Moves cron w a w') (timely : Timely w a)
    {ticket : Nat} {task : Task} (taken : w.tasks ticket = some task)
    (held : task.pc.holds = true) (idle : ∀ response, a ≠ .exec ticket response) {row row' : Job}
    (member : row ∈ w.db.jobs) (own : row.id = task.job.id) (change : RowStep w a row row') :
    row'.attempts = row.attempts ∧ ∀ orgId, a ≠ .api (.retryDLQJob row.id orgId) := by
  have has := inv.possesses taken held member own
  cases change with
  | kept spared =>
      refine ⟨rfl, ?_⟩
      rintro orgId rfl
      exact spared rfl
  | claimed found running claimable => exact absurd claimable (has.not_claimable held)
  | written taken' live writes own' =>
      have same := inv.same_holder taken' taken (Pc.holds_of_rewrite writes) held
        (own'.symm.trans own)
      subst same
      exact absurd rfl (idle _)
  | renewed => exact ⟨rfl, by simp⟩
  | released found cancelled =>
      rw [inv.running _ _ found] at cancelled
      cases cancelled
  | reclaimed orphaned =>
      exact absurd orphaned (timely ticket task taken (inv.holds taken held) row member own)
  | retried dead => exact absurd dead (has.fits.status_ne held (by decide))

/-- A step of a smooth run that returns from a store call succeeds. -/
theorem succeeded_of_smooth {ticket : Nat} {succeeds : Bool} {draw : Int}
    (smooth : Smooth w (.exec ticket (.call succeeds draw))) : succeeds = true := by
  cases succeeds with
  | false => exact smooth.elim
  | true => rfl

/-- A write that is due is made. -/
theorem not_spared (inv : Chronicled w) {ticket : Nat} {draw : Int} {task : Task}
    (taken : w.tasks ticket = some task) {rewrite : Job → Job}
    (writes : task.pc.rewrite w.now task.job = some rewrite) {row : Job} (member : row ∈ w.db.jobs)
    (own : row.id = task.job.id) : ¬ w.Spares row (.exec ticket (.call true draw)) := by
  intro spared
  have held := Pc.holds_of_rewrite writes
  have alive : row.status ≠ .deadLetter :=
    (inv.possesses taken held member own).fits.status_ne held (by decide)
  obtain ⟨_, _, entry, listed, same⟩ := spared task taken own (by rw [writes]; simp)
  have letters : entry ∈ w.db.lettersOf row.id :=
    List.mem_filter.mpr ⟨listed, decide_eq_true (same.trans own.symm)⟩
  rw [((inv.accounts.rows row member).unlettered alive).2.2] at letters
  cases letters

/-- The row of the job of an execution that takes a step without a write stays as it is. -/
theorem row_spared {ticket : Nat} {response : Response} {task : Task}
    (taken : w.tasks ticket = some task)
    (silent : ∀ draw, response = .call true draw → task.pc.rewrite w.now task.job = none)
    {row row' : Job} (change : RowStep w (.exec ticket response) row row') :
    row' = row := by
  cases change with
  | kept => rfl
  | @written _ draw task' rewrite _ taken' live writes =>
      rw [taken] at taken'
      cases taken'
      rw [silent draw rfl] at writes
      cases writes

/-- The row of the job of an execution that writes. -/
theorem row_written (inv : Chronicled w) {ticket : Nat} {draw : Int} {task : Task}
    (taken : w.tasks ticket = some task) {rewrite : Job → Job}
    (writes : task.pc.rewrite w.now task.job = some rewrite) {row row' : Job}
    (member : row ∈ w.db.jobs) (own : row.id = task.job.id)
    (change : RowStep w (.exec ticket (.call true draw)) row row') : row' = rewrite row := by
  cases change with
  | kept spared => exact absurd spared (inv.not_spared taken writes member own)
  | written taken' live writes' =>
      rw [taken] at taken'
      cases taken'
      rw [writes] at writes'
      cases writes'
      rfl

/-- What is on record of a job after a step of an execution that records nothing. -/
theorem same_advanced (inv : Chronicled w) {ticket : Nat} {response : Response}
    (moves : Moves cron w (.exec ticket response) w') {task : Task}
    (taken : w.tasks ticket = some task) (held : task.pc.holds = true)
    (silent : task.pc.execution task.worker task.job = none) {row row' : Job}
    (member : row ∈ w.db.jobs) (member' : row' ∈ w'.db.jobs) (own : row.id = task.job.id)
    (change : RowStep w (.exec ticket response) row row') :
    w'.db.attemptsOf row.id = w.pastRounds row ++ failures (task.pc.failed task.job) ∧
      w'.pastRounds row' = w.pastRounds row := by
  have quiet : ¬ w.Records (.exec ticket response) row.id :=
    inv.silent_held taken held member own (by simp [silent])
  rw [attemptsOf_kept moves inv.wellFormed.ids member member' change.fixed quiet]
  exact ⟨(inv.held ticket task taken held row member own).2,
    pastRounds_kept moves change.fixed (by simp)⟩

/-- The recorded failure is the next one. -/
theorem recorded_failure (inv : Chronicled w) {ticket : Nat} {draw : Int}
    (moves : Moves cron w (.exec ticket (.call true draw)) w') {task : Task}
    {errMsg : String} {start finish : Time} (taken : w.tasks ticket = some task)
    (point : task.pc = .recordFailed errMsg start finish) {row : Job} (member : row ∈ w.db.jobs)
    (own : row.id = task.job.id) :
    w'.db.attemptsOf row.id = w.pastRounds row ++ failures (task.job.attempts + 1) := by
  have held : task.pc.holds = true := by
    rw [point]
    rfl
  obtain ⟨counted, before⟩ := inv.held ticket task taken held row member own
  rw [point] at counted before
  change row.attempts = task.job.attempts at counted
  have alive : row.status ≠ .deadLetter :=
    (inv.possesses taken held member own).fits.status_ne held (by decide)
  have nonneg := ((inv.accounts.rows row member).unlettered alive).1
  rw [counted] at nonneg
  have after := attemptsOf_recorded moves inv.constrained taken
    (inv.measured ticket task taken) member own (by rw [point]; rfl)
  rw [after, before, failures_succ nonneg, ← List.append_assoc]
  rfl

/-- What is on record of a job after a step of its holder. -/
theorem held_advanced (inv : Chronicled w) {ticket : Nat} {response : Response}
    (moves : Moves cron w (.exec ticket response) w') (smooth : Smooth w (.exec ticket response))
    {task : Task} {pc' : Pc} {event : Option Event} (taken : w.tasks ticket = some task)
    (next : Next task.worker w.now task.job w.db task.pc response pc' event)
    (held' : pc'.holds = true) {row row' : Job} (member : row ∈ w.db.jobs)
    (member' : row' ∈ w'.db.jobs) (own : row.id = task.job.id)
    (change : RowStep w (.exec ticket response) row row') :
    row'.attempts = pc'.counted task.job ∧
      w'.db.attemptsOf row.id = w'.pastRounds row' ++ failures (pc'.failed task.job) := by
  have held : task.pc.holds = true := next.holds held'
  have counted := (inv.held ticket task taken held row member own).1
  have same := fun silent => inv.same_advanced moves taken held silent member member' own change
  generalize point : task.pc = pc at next counted
  cases next with
  | gateHit | gateMiss | loggedStart | started | succeeded | failed | exhausted | consults
  | backsOff | consulted =>
      obtain ⟨record, past⟩ := same (by rw [point]; rfl)
      rw [point] at record
      obtain rfl := row_spared taken (fun _ _ => by rw [point]; rfl) change
      exact ⟨counted, by rw [past]; exact record⟩
  | resolved | unresolved =>
      obtain ⟨record, past⟩ := same (by rw [point]; rfl)
      rw [point] at record
      obtain rfl := inv.row_written taken (by rw [point]; rfl) member own change
      exact ⟨counted, by rw [past]; exact record⟩
  | marked =>
      obtain rfl := succeeded_of_smooth smooth
      obtain ⟨record, past⟩ := same (by rw [point]; rfl)
      rw [point] at record
      obtain rfl := inv.row_written taken (by rw [point]; rfl) member own change
      exact ⟨rfl, by rw [past]; exact record⟩
  | recordedFailed =>
      obtain rfl := succeeded_of_smooth smooth
      obtain rfl := row_spared taken (fun _ _ => by rw [point]; rfl) change
      refine ⟨counted, ?_⟩
      rw [pastRounds_kept moves rfl (by simp)]
      exact inv.recorded_failure moves taken point member own
  | completedIdempotent | notRunning | completed | loggedCompleted | recordedCompleted | moved
  | requeued => cases held'

/-- The row of a new execution. -/
theorem held_opened (inv : Chronicled w) (moves : Moves cron w a w') {worker : UUID}
    {tie emit : UUID → Nat} {queueId : UUID} {leaseSeconds : Int}
    (claims : a = .claim worker tie emit true) {row : Job} (member : row ∈ w.db.jobs)
    (claimable : row.Claimable queueId w.now)
    (member' : row.claim w.now worker leaseSeconds ∈ w'.db.jobs) :
    w'.db.attemptsOf row.id =
      w'.pastRounds (row.claim w.now worker leaseSeconds) ++ failures row.attempts := by
  subst claims
  have unheld : ¬ w.HasHolder row.id := by
    rintro ⟨ticket, task, taken, holds, own⟩
    exact (inv.possesses taken holds.1 member own.symm).not_claimable holds.1 claimable
  have silent : ¬ w.Records (.claim worker tie emit true) row.id := by
    rintro ⟨_, _, _, clash, _⟩
    cases clash
  have past : w'.pastRounds (row.claim w.now worker leaseSeconds) = w.pastRounds row :=
    pastRounds_kept moves rfl (by simp)
  rw [attemptsOf_kept moves inv.wellFormed.ids member member' rfl silent, past]
  cases inv.resting row member unheld with
  | counted _ same => exact same
  | recorded done =>
      rw [claimable.2.1] at done
      cases done

/-- What is on record of a held job after a step. -/
theorem held_step (inv : Chronicled w) (moves : Moves cron w a w') (timely : Timely w a)
    (smooth : Smooth w a) {ticket : Nat} {task' : Task} (taken' : w'.tasks ticket = some task')
    (held' : task'.pc.holds = true) {row' : Job} (member' : row' ∈ w'.db.jobs)
    (own' : row'.id = task'.job.id) :
    row'.attempts = task'.pc.counted task'.job ∧
      w'.db.attemptsOf row'.id = w'.pastRounds row' ++ failures (task'.pc.failed task'.job) := by
  have wf := inv.wellFormed
  have origin := step_tasks moves wf.ids taken'
  rcases step_rows moves wf.ids member' with ⟨row, member, change⟩ | new
  · rw [change.id] at own' ⊢
    -- the row and the record of a job whose holder does nothing
    have idle : ∀ task, w.tasks ticket = some task → task.pc.holds = true →
        row.id = task.job.id → (∀ response, a ≠ .exec ticket response) →
        row'.attempts = task.pc.counted task.job ∧ w'.db.attemptsOf row.id =
          w'.pastRounds row' ++ failures (task.pc.failed task.job) := by
      intro task taken held own idle
      obtain ⟨attempts, other⟩ := inv.row_idle moves timely taken held idle member own change
      obtain ⟨counted, same⟩ := inv.held ticket task taken held row member own
      rw [attempts, attemptsOf_kept moves wf.ids member member' change.fixed
          (inv.silent_held taken held member own fun _ => idle),
        pastRounds_kept moves change.fixed other]
      exact ⟨counted, same⟩
    cases origin with
    | @opened worker tie emit engine queueId old claims newTicket found running oldMember claimable
        written =>
        have same := eq_of_key_eq (step_ids moves wf) written member'
          (own'.symm.trans change.id.symm)
        subst same
        have eq := eq_of_key_eq wf.ids oldMember member own'.symm
        subst eq
        exact ⟨rfl, inv.held_opened moves claims oldMember claimable written⟩
    | @kept task reclaimed superseded taken still =>
        exact idle task taken held' own' still
    | @dispatched task worker dispatches taken pending =>
        have held : task.pc.holds = true := by
          rw [pending]
          rfl
        have before := idle task taken held own' (by rw [dispatches]; simp)
        rw [pending] at before
        simp only [Pc.counted_entry, Pc.failed_entry]
        exact before
    | @advanced task response engine pc event executes taken found permitted advances =>
        subst executes
        exact inv.held_advanced moves smooth taken (advance_next advances) held' member member' own'
          change
  · exact absurd own' (new.ne_task wf origin)

/-! ## Completed jobs -/

/-- A completed row stays as it is. -/
theorem row_completed (inv : Chronicled w) {row row' : Job} (member : row ∈ w.db.jobs)
    (done : row.status = .completed) (change : RowStep w a row row') :
    row' = row ∧ ∀ orgId, a ≠ .api (.retryDLQJob row.id orgId) := by
  cases change with
  | kept spared =>
      refine ⟨rfl, ?_⟩
      rintro orgId rfl
      exact spared rfl
  | claimed _ _ claimable =>
      have queued := claimable.2.1
      rw [done] at queued
      cases queued
  | written taken live writes own =>
      have held := Pc.holds_of_rewrite writes
      exact absurd done ((inv.possesses taken held member own).fits.status_ne held (by decide))
  | renewed _ _ renews => exact absurd done (renews.2.ne (by decide))
  | released found cancelled =>
      rw [inv.running _ _ found] at cancelled
      cases cancelled
  | reclaimed orphaned => exact absurd done (orphaned.1.ne (by decide))
  | retried dead =>
      rw [done] at dead
      cases dead

/-- Nothing is recorded of a completed job but by the execution that completed it. -/
theorem silent_finishing (inv : Chronicled w) {ticket : Nat} {task : Task}
    (taken : w.tasks ticket = some task) (finishing : task.pc.finishing = true) {row : Job}
    (member : row ∈ w.db.jobs) (own : row.id = task.job.id)
    (idle : (task.pc.execution task.worker task.job).isSome → ∀ response, a ≠ .exec ticket response) :
    ¬ w.Records a row.id := by
  rintro ⟨other, draw, task', rfl, taken', own', executes⟩
  rcases records_point executes with held' | finishing'
  · have done := (inv.finishing ticket task taken finishing row member own).1
    exact (inv.possesses taken' held' member own'.symm).fits.status_ne held' (by decide) done
  · have same := inv.alone other ticket task' task taken' taken finishing' finishing
      (own'.trans own) ⟨row, member, own'.symm⟩
    subst same
    rw [taken] at taken'
    cases taken'
    exact idle executes _ rfl

/-- A completed job whose execution records nothing. -/
theorem finishing_kept (inv : Chronicled w) (moves : Moves cron w a w') {ticket : Nat} {task : Task}
    (taken : w.tasks ticket = some task) (finishing : task.pc.finishing = true)
    {row row' : Job} (member : row ∈ w.db.jobs) (own : row.id = task.job.id)
    (member' : row' ∈ w'.db.jobs) (change : RowStep w a row row')
    (idle : (task.pc.execution task.worker task.job).isSome → ∀ response, a ≠ .exec ticket response) :
    row'.status = .completed ∧ row'.attempts = task.job.attempts ∧
      w'.db.attemptsOf row.id = w'.pastRounds row' ++ failures row'.attempts := by
  obtain ⟨done, attempts, same⟩ := inv.finishing ticket task taken finishing row member own
  obtain ⟨rfl, other⟩ := inv.row_completed member done change
  rw [attemptsOf_kept moves inv.wellFormed.ids member member' rfl
      (inv.silent_finishing taken finishing member own idle), pastRounds_kept moves rfl other]
  exact ⟨done, attempts, same⟩

/-- An execution that is finishing was finishing, or has just completed its job. -/
theorem finishing_before {ticket : Nat} {task' : Task} (origin : TaskStep w w' a ticket task')
    (finishing' : task'.pc.finishing = true) :
    (∃ task, w.tasks ticket = some task ∧ task.job = task'.job ∧ task.pc.finishing = true ∧
      ((task.pc.execution task.worker task.job).isSome → ∀ response, a ≠ .exec ticket response)) ∨
    ∃ task response start finish, a = .exec ticket response ∧ w.tasks ticket = some task ∧
      task.job = task'.job ∧ task.pc = .complete start finish ∧
      ∃ succeeds draw, response = .call succeeds draw := by
  cases origin with
  | opened => cases finishing'
  | @kept task _ _ taken still => exact .inl ⟨task, taken, rfl, finishing', fun _ => still⟩
  | @dispatched task =>
      rw [Pc.finishing_entry] at finishing'
      cases finishing'
  | @advanced task response engine pc event executes taken found permitted advances =>
      have next := advance_next advances
      generalize point : task.pc = before at next
      cases next with
      | completed =>
          exact .inr ⟨task, _, _, _, executes, taken, rfl, point, _, _, rfl⟩
      | loggedCompleted =>
          refine .inl ⟨task, taken, rfl, by rw [point]; rfl, ?_⟩
          rw [point]
          intro silent
          cases silent
      | _ => cases finishing'

theorem finishing_step (inv : Chronicled w) (moves : Moves cron w a w') (smooth : Smooth w a)
    {ticket : Nat} {task' : Task} (taken' : w'.tasks ticket = some task')
    (finishing' : task'.pc.finishing = true) {row' : Job} (member' : row' ∈ w'.db.jobs)
    (own' : row'.id = task'.job.id) :
    row'.status = .completed ∧ row'.attempts = task'.job.attempts ∧
      w'.db.attemptsOf row'.id = w'.pastRounds row' ++ failures row'.attempts := by
  have wf := inv.wellFormed
  have origin := step_tasks moves wf.ids taken'
  rcases step_rows moves wf.ids member' with ⟨row, member, change⟩ | new
  · rw [change.id] at own' ⊢
    rcases finishing_before origin finishing' with
      ⟨task, taken, job, finishing, idle⟩ |
      ⟨task, _, start, finish, rfl, taken, job, point, succeeds, draw, rfl⟩
    · rw [← job] at own' ⊢
      exact inv.finishing_kept moves taken finishing member own' member' change idle
    · -- the row was completed by this step
      obtain rfl := succeeded_of_smooth smooth
      rw [← job] at own' ⊢
      have held : task.pc.holds = true := by
        rw [point]
        rfl
      have counted := (inv.held ticket task taken held row member own').1
      obtain ⟨record, past⟩ :=
        inv.same_advanced moves taken held (by rw [point]; rfl) member member' own' change
      obtain rfl := inv.row_written taken (by rw [point]; rfl) member own' change
      rw [point] at counted record
      change row.attempts = task.job.attempts at counted
      refine ⟨rfl, counted, ?_⟩
      rw [past, record]
      change _ = _ ++ failures row.attempts
      rw [counted]
      rfl
  · exact absurd own' (new.ne_task wf origin)

/-- Two executions that complete one job are the same. -/
theorem alone_step (inv : Chronicled w) (moves : Moves cron w a w') {first second : Nat}
    {firstTask secondTask : Task} (firstTaken : w'.tasks first = some firstTask)
    (secondTaken : w'.tasks second = some secondTask) (firstDone : firstTask.pc.finishing = true)
    (secondDone : secondTask.pc.finishing = true) (same : firstTask.job.id = secondTask.job.id)
    (present : ∃ row ∈ w'.db.jobs, row.id = firstTask.job.id) : first = second := by
  have wf := inv.wellFormed
  have firstOrigin := step_tasks moves wf.ids firstTaken
  have secondOrigin := step_tasks moves wf.ids secondTaken
  obtain ⟨row', member', own'⟩ := present
  rcases step_rows moves wf.ids member' with ⟨row, member, change⟩ | new
  · rw [change.id] at own'
    -- a job that is being completed is not completed yet
    have clash : ∀ {ticket other : Nat} {task other' : Task} {start finish : Time},
        w.tasks ticket = some task → row.id = task.job.id → task.pc = .complete start finish →
        w.tasks other = some other' → row.id = other'.job.id →
        other'.pc.finishing = true → False := by
      intro ticket other task other' start finish taken own point taken' own' finishing
      have held : task.pc.holds = true := by
        rw [point]
        rfl
      have done := (inv.finishing other other' taken' finishing row member own').1
      exact (inv.possesses taken held member own).fits.status_ne held (by decide) done
    rcases finishing_before firstOrigin firstDone with
      ⟨task, taken, job, finishing, _⟩ | ⟨task, _, start, finish, executes, taken, job, point, _⟩ <;>
    rcases finishing_before secondOrigin secondDone with
      ⟨task', taken', job', finishing', _⟩ |
      ⟨task', _, start', finish', executes', taken', job', point', _⟩
    · exact inv.alone first second task task' taken taken' finishing finishing'
        (by rw [job, job', same]) ⟨row, member, by rw [own', job]⟩
    · exact (clash taken' (by rw [own', same, job']) point' taken (by rw [own', job])
        finishing).elim
    · exact (clash taken (by rw [own', job]) point taken' (by rw [own', same, job'])
        finishing').elim
    · rw [executes] at executes'
      cases executes'
      rfl
  · exact absurd own' (new.ne_task wf firstOrigin)

/-! ## Jobs that rest -/

/-- The row of a job whose execution ends. -/
theorem resting_ended (inv : Chronicled w) {ticket : Nat} {response : Response}
    (moves : Moves cron w (.exec ticket response) w') (smooth : Smooth w (.exec ticket response))
    {task : Task} {pc' : Pc} {event : Option Event} (taken : w.tasks ticket = some task)
    (held : task.pc.holds = true)
    (next : Next task.worker w.now task.job w.db task.pc response pc' event)
    (ended : pc'.holds = false) {row row' : Job} (member : row ∈ w.db.jobs)
    (member' : row' ∈ w'.db.jobs) (own : row.id = task.job.id)
    (change : RowStep w (.exec ticket response) row row') : Resting w' row' := by
  have counted := (inv.held ticket task taken held row member own).1
  have same := fun silent => inv.same_advanced moves taken held silent member member' own change
  rw [← change.id] at same
  generalize point : task.pc = pc at next counted
  cases next with
  | notRunning => exact smooth.elim
  | completedIdempotent | completed =>
      obtain rfl := succeeded_of_smooth smooth
      obtain ⟨record, past⟩ := same (by rw [point]; rfl)
      rw [point] at record
      obtain rfl := inv.row_written taken (by rw [point]; rfl) member own change
      change row.attempts = task.job.attempts at counted
      refine .counted (show JobStatus.Settled .completed by decide) ?_
      rw [past, record]
      change _ = _ ++ failures row.attempts
      rw [counted]
      rfl
  | moved =>
      obtain rfl := succeeded_of_smooth smooth
      obtain ⟨record, past⟩ := same (by rw [point]; rfl)
      rw [point] at record
      obtain rfl := inv.row_written taken (by rw [point]; rfl) member own change
      refine .counted (show JobStatus.Settled .deadLetter by decide) ?_
      rw [past, record]
      rfl
  | requeued =>
      obtain rfl := succeeded_of_smooth smooth
      obtain ⟨record, past⟩ := same (by rw [point]; rfl)
      rw [point] at record
      obtain rfl := inv.row_written taken (by rw [point]; rfl) member own change
      refine .counted (show JobStatus.Settled .queued by decide) ?_
      rw [past, record]
      rfl
  | loggedCompleted | recordedCompleted =>
      rw [point] at held
      cases held
  | _ => cases ended

/-- The execution that completed a job records that. -/
theorem resting_recorded (inv : Chronicled w) (moves : Moves cron w a w') {row : Job}
    (member : row ∈ w.db.jobs) (unheld : ¬ w.HasHolder row.id) (records : w.Records a row.id) :
    row.status = .completed ∧ w'.db.attemptsOf row.id =
      w.pastRounds row ++ (failures row.attempts ++ [(row.attempts + 1, .completed)]) := by
  obtain ⟨ticket, draw, task, rfl, taken, own, executes⟩ := records
  rcases records_point executes with held | finishing
  · exact absurd (inv.hasHolder taken held own) unheld
  · obtain ⟨done, attempts, before⟩ := inv.finishing ticket task taken finishing row member own.symm
    have measured := inv.measured ticket task taken
    refine ⟨done, ?_⟩
    cases point : task.pc with
    | recordCompleted start finish =>
        rw [attemptsOf_recorded moves inv.constrained taken measured member own.symm
          (by rw [point]; rfl), before, attempts, List.append_assoc]
        rfl
    | logCompleted =>
        rw [point] at executes
        cases executes
    | _ =>
        rw [point] at finishing
        cases finishing

/-- The row of a job that rested before the step, and still does. -/
theorem resting_kept (inv : Chronicled w) (moves : Moves cron w a w') {row row' : Job}
    (member : row ∈ w.db.jobs) (member' : row' ∈ w'.db.jobs) (unheld : ¬ w.HasHolder row.id)
    (unheld' : ¬ w'.HasHolder row.id) (change : RowStep w a row row') : Resting w' row' := by
  have rests := inv.resting row member unheld
  have settled := rests.settled
  have steps := change
  cases change with
  | kept spared =>
      have past : w'.pastRounds row = w.pastRounds row := by
        refine pastRounds_kept moves rfl ?_
        rintro orgId rfl
        exact spared rfl
      by_cases records : w.Records a row.id
      · obtain ⟨done, same⟩ := inv.resting_recorded moves member unheld records
        rw [← past] at same
        exact .recorded done same
      · have same := attemptsOf_kept moves inv.wellFormed.ids member member' rfl records
        cases rests with
        | counted settled before => exact .counted settled (by rw [same, past, before])
        | recorded done before => exact .recorded done (by rw [same, past, before])
  | claimed found running claimable =>
      obtain ⟨ticket, task, taken, pending, _, worker, own⟩ :=
        claim_opens moves inv.wellFormed member claimable member'
      have live : w'.Live task.worker := by
        rw [worker]
        exact live_after moves ⟨_, found, running⟩ ⟨by simp, by simp⟩
      exact absurd ⟨ticket, task, taken, ⟨by rw [pending]; rfl, live⟩, own⟩ unheld'
  | written taken live writes own =>
      exact absurd (inv.hasHolder taken (Pc.holds_of_rewrite writes) own.symm) unheld
  | renewed _ _ renews => exact absurd renews.2 settled.1
  | released found cancelled =>
      rw [inv.running _ _ found] at cancelled
      cases cancelled
  | reclaimed orphaned => exact absurd orphaned.1 settled.1
  | retried dead =>
      have silent : ∀ orgId, ¬ w.Records (.api (.retryDLQJob row.id orgId)) row.id := by
        rintro orgId ⟨_, _, _, clash, _⟩
        cases clash
      have same := attemptsOf_kept moves inv.wellFormed.ids member member' steps.fixed (silent _)
      have past : w'.pastRounds (row.retryDLQ w.now) =
          w.pastRounds row ++ failures row.maxAttempts := pastRounds_retried rfl moves
      cases rests with
      | counted _ before =>
          cases inv.accounts.rows row member with
          | alive alive => exact absurd dead alive
          | dead _ _ used =>
              refine .counted (show JobStatus.Settled .queued by decide) ?_
              rw [past, ← used]
              change w'.db.attemptsOf row.id = _ ++ failures 0
              rw [same, before, failures_zero, List.append_nil]
      | recorded done =>
          rw [dead] at done
          cases done

/-- **The record of the jobs that rest after a step.** -/
theorem resting_step (inv : Chronicled w) (moves : Moves cron w a w') (smooth : Smooth w a)
    (running' : ∀ worker engine, w'.engines worker = some engine → engine.status = .running)
    {row' : Job} (member' : row' ∈ w'.db.jobs) (unheld' : ¬ w'.HasHolder row'.id) :
    Resting w' row' := by
  have wf := inv.wellFormed
  rcases step_rows moves wf.ids member' with ⟨row, member, change⟩ | new
  · rw [change.id] at unheld'
    by_cases holder : w.HasHolder row.id
    · obtain ⟨ticket, task, taken, holds, own⟩ := holder
      rcases task_after moves (ticket_lt wf taken) taken with
        ⟨task', taken', job, worker, counter, _⟩ | returned
      · have ended : task'.pc.holds = false := by
          by_contra held'
          obtain ⟨engine, found⟩ := (wellFormed_step moves wf).employed ticket task' taken'
          refine unheld' ⟨ticket, task', taken', ⟨by simpa using held', engine, found, ?_⟩, ?_⟩
          · exact running' task'.worker engine found
          · rw [job, own]
        generalize task'.pc = pc' at counter ended
        cases counter with
        | kept =>
            rw [holds.1] at ended
            cases ended
        | dispatched =>
            rw [Pc.holds_entry] at ended
            cases ended
        | advanced executes found permitted advances =>
            subst executes
            exact inv.resting_ended moves smooth taken holds.1 (advance_next advances) ended member
              member' own.symm change
      · have held := holds.1
        rw [returned] at held
        cases held
    · exact inv.resting_kept moves member member' holder unheld' change
  · have waiting := new.waiting
    have same := attemptsOf_new moves inv.constrained new
    obtain ⟨request, rfl, drawn, unissued, _⟩ := new
    have past : w'.pastRounds row' = [] := by
      have same : w'.pastRounds row' = w.pastRounds row' := by
        refine pastRounds_kept moves rfl ?_
        rintro orgId clash
        cases clash
        cases drawn
      rw [same]
      unfold pastRounds
      rw [List.count_eq_zero.mpr (inv.unretried row'.id unissued)]
      rfl
    refine .counted ⟨?_, waiting.status_ne (by decide)⟩ ?_
    · rintro (status | status)
      · exact waiting.status_ne (by decide) status
      · exact waiting.status_ne (by decide) status
    · rw [same, past, waiting.untried]
      rfl

/-! ## The step -/

/-- In a smooth step no engine stops. -/
theorem running_step (inv : Chronicled w) (moves : Moves cron w a w') (smooth : Smooth w a)
    {worker : UUID} {engine' : Engine} (found' : w'.engines worker = some engine') :
    engine'.status = .running := by
  cases step_engines moves found' with
  | registered => rfl
  | kept found _ status =>
      rcases status with same | ⟨rfl, _⟩ | ⟨rfl, _⟩
      · rw [same]
        exact inv.running worker _ found
      · exact smooth.elim
      · exact smooth.elim

theorem measured_step (inv : Chronicled w) (moves : Moves cron w a w') (smooth : Smooth w a)
    {ticket : Nat} {task' : Task} (taken' : w'.tasks ticket = some task') : task'.pc.Measured := by
  cases step_tasks moves inv.wellFormed.ids taken' with
  | opened => trivial
  | @kept task _ _ taken => exact inv.measured ticket task taken
  | dispatched => exact Pc.measured_entry _
  | @advanced task response engine pc event executes taken found permitted advances =>
      refine (advance_next advances).measured (inv.measured ticket task taken) ?_
      rintro start error nanos point rfl
      subst executes
      exact smooth task taken start (by rw [point]; rfl)

theorem unretried_step (inv : Chronicled w) (moves : Moves cron w a w') {jobId : UUID}
    (unissued : jobId ∉ w'.issued) : Event.dlqRetried jobId ∉ w'.events := by
  have before := inv.unretried jobId fun issued => unissued (issued_mono moves issued)
  intro member
  cases moves with
  | api request db nodup fresh performs =>
      rcases List.mem_append.mp member with new | old
      · cases request with
        | retryDLQJob id orgId =>
            rw [Request.events, List.mem_singleton] at new
            cases new
            obtain ⟨⟨final, job⟩, retries, _⟩ := Option.map_eq_some_iff.mp performs
            obtain ⟨⟨row, rowMember, same, _⟩, _⟩ := w.db.retryDLQJob_spec (toOption_eq_some retries)
            rw [← same] at unissued
            exact unissued (List.mem_append_right _ (inv.wellFormed.issuedRows row rowMember))
        | _ => cases new
      · exact before old
  | exec ticket response task engine db pc event taken found alive permitted advances =>
      rcases List.mem_append.mp member with new | old
      · exact (advance_next advances).not_retried jobId (Option.mem_toList.mp new)
      · exact before old
  | _ => exact before member

/-- **The record is kept by every timely and smooth step.** -/
theorem step (inv : Chronicled w) (moves : Moves cron w a w') (timely : Timely w a)
    (smooth : Smooth w a) : Chronicled w' where
  undisturbed := undisturbed_step moves timely inv.undisturbed
  accounts := accounts_step moves (inv.undisturbed.noStaleWrite moves) inv.accounts
  constrained := constrained_step moves inv.constrained
  running _ _ found' := inv.running_step moves smooth found'
  measured _ _ taken' := inv.measured_step moves smooth taken'
  unretried _ unissued := inv.unretried_step moves unissued
  held _ _ taken' held' _ member' own' :=
    inv.held_step moves timely smooth taken' held' member' own'
  finishing _ _ taken' finishing' _ member' own' :=
    inv.finishing_step moves smooth taken' finishing' member' own'
  alone _ _ _ _ firstTaken secondTaken firstDone secondDone same present :=
    inv.alone_step moves firstTaken secondTaken firstDone secondDone same present
  resting _ member' unheld' :=
    inv.resting_step moves smooth (fun _ _ found' => inv.running_step moves smooth found') member'
      unheld'

/-- What is on record of each job. -/
theorem onRecord (inv : Chronicled w) {row : Job} (member : row ∈ w.db.jobs) :
    ∃ current, OnRecord row current ∧
      w.db.attemptsOf row.id = w.pastRounds row ++ current := by
  by_cases holder : w.HasHolder row.id
  · obtain ⟨ticket, task, taken, holds, own⟩ := holder
    obtain ⟨counted, same⟩ := inv.held ticket task taken holds.1 row member own.symm
    have fits := (inv.possesses taken holds.1 member own.symm).fits
    refine ⟨_, ?_, same⟩
    rcases Pc.failed_or holds.1 counted fits with equal | ⟨running, more⟩
    · rw [equal]
      exact .counted
    · rw [more]
      exact .uncounted running
  · cases inv.resting row member holder with
    | counted _ same => exact ⟨_, .counted, same⟩
    | recorded done same => exact ⟨_, .completed done, same⟩

end Chronicled

/-- **The history is exact.** In every state of a timely and smooth run the executions on record of
a job are, in this order: for each retry by hand a failure of every attempt from the first to the
last allowed, then a failure of each attempt that the row counts, then at most one more, a failure
that a running row does not count yet or the success of a completed one. -/
theorem history_exact {cron : CronParser} {trace : List (World × Action)} {w : World}
    (run : Run (scheduler cron) trace w) (timely : Meets Timely trace)
    (smooth : Meets Smooth trace) :
    Throughout (fun s => ∀ row ∈ s.db.jobs, ∃ current, OnRecord row current ∧
      s.db.attemptsOf row.id = s.pastRounds row ++ current) trace w := by
  have all : Throughout Chronicled trace w := by
    refine run.throughout (timely.and smooth) ?_ ?_
    · rintro s ⟨now, policies, rfl⟩
      exact Chronicled.start now policies
    · intro s a s' taken both inv
      exact inv.step (World.step_moves taken) both.1 both.2
  exact ⟨fun entry member _ rowMember => (all.1 entry member).onRecord rowMember,
    fun _ rowMember => all.2.onRecord rowMember⟩

/-- The calls of an execution, up to its end, whose handler returns the given error. -/
def attempt (ticket : Nat) (error : Option String) : List Action :=
  [.exec ticket (.call true 0), .exec ticket (.call true 0), .exec ticket .starts, .tick 1000,
    .exec ticket (.returns error), .exec ticket (.call true 0), .exec ticket (.call true 0),
    .exec ticket (.call true 0), .finish ticket]

/-- A job with a single attempt fails, is retried by hand and succeeds. -/
def secondRound : List Action :=
  [.api (.createOrg 1 "org" "org"), .api (.createProject 2 1 "project" "project" none),
    .api (.createQueue (Scenario.queue 3)),
    .api (.createJob 4 { Scenario.request none with maxAttempts := some 1 } (Scenario.queue 3)),
    .register 5 Scenario.config] ++ Scenario.take 5 ++ attempt 0 (some "boom") ++
  [.api (.retryDLQJob 4 1), .proceed 5, .proceed 5] ++ Scenario.take 5 ++ attempt 1 none

/-- The steps that stop an engine. -/
def Action.stops : Action → Bool
  | .crash _ | .cancel _ => true
  | _ => false

/-- The ticket of an execution whose handler returns, with the reading of the clock. -/
def Action.returned? : Action → Option (Nat × Fin 1000)
  | .exec ticket (.returns _ nanos) => some (ticket, nanos)
  | _ => none

/-- What is asked of the steps of a run without sweeps. -/
def Action.Untroubled (entry : World × Action) : Prop :=
  entry.2.isSweep = false ∧ entry.2.isFailure = false ∧ entry.2.stops = false ∧
    ∀ returned ∈ entry.2.returned?, ∀ task ∈ entry.1.tasks returned.1,
      ∀ start ∈ task.pc.calledAt?,
        InInt4 (elapsedMs start (timeAfter start entry.1.now returned.2))

instance : DecidablePred Action.Untroubled :=
  fun _ => inferInstanceAs (Decidable (_ ∧ _ ∧ _ ∧ _))

theorem timely_of_untroubled {trace : List (World × Action)}
    (untroubled : ∀ entry ∈ trace, Action.Untroubled entry) :
    Meets Timely trace ∧ Meets Smooth trace := by
  refine ⟨fun ⟨s, a⟩ member => ?_, fun ⟨s, a⟩ member => ?_⟩
  · have noSweep := (untroubled _ member).1
    cases a with
    | sweep => cases noSweep
    | _ => trivial
  · obtain ⟨_, succeeds, runs, range⟩ := untroubled _ member
    cases a with
    | crash | cancel => cases runs
    | exec ticket response =>
        cases response with
        | call succeeds' draw =>
            cases succeeds' with
            | false => cases succeeds
            | true => trivial
        | starts => trivial
        | returns error nanos => exact range (ticket, nanos) rfl
    | _ => trivial

theorem history_exact_secondRound :
    ∃ trace w, Run (scheduler Scenario.cron) trace w ∧ ∃ row ∈ w.db.jobs,
      (w.db.attemptsOf row.id = [(1, .failed), (1, .completed)] ∧
        w.pastRounds row = [(1, .failed)]) ∧
      ∃ current, OnRecord row current ∧
        w.db.attemptsOf row.id = w.pastRounds row ++ current := by
  obtain ⟨trace, w, run, untroubled, row, member, checked⟩ :=
    exists_run_of_execute (scheduler Scenario.cron) secondRound (World.start 0 [])
      (fun trace w => (∀ entry ∈ trace, Action.Untroubled entry) ∧ ∃ row ∈ w.db.jobs,
        w.db.attemptsOf row.id = [(1, .failed), (1, .completed)] ∧
          w.pastRounds row = [(1, .failed)])
      ⟨0, [], rfl⟩ (by decide)
  obtain ⟨timely, smooth⟩ := timely_of_untroubled untroubled
  exact ⟨trace, w, run, row, member, checked, (history_exact run timely smooth).2 row member⟩

end JobScheduler
