import JobScheduler.Lifecycle.Attempts

/-!
# How often a handler is started

`attempts` counts failures: `handleFailure` puts the incremented count into the row when it
retries or dead-letters the job. The claim and the reaper leave the count alone. So a start
is accounted for when its execution reaches `handleFailure` or completes, and a start whose
row a sweep takes back in status `running` is never counted.

In timely runs whose sweeps take back no running row, the starts of a job since its creation
or its latest retry stay within the attempts of its row, with one more while the row is
running or completed, and so within `max_attempts`.
-/

set_option autoImplicit false

namespace JobScheduler

open Relational Transition

/-- The starts of a job's handler since the job's latest `RetryDLQJob`, from a list of
events that is latest first. -/
def startsSince (jobId : UUID) : List Event → Nat
  | [] => 0
  | .handlerStarted id _ :: earlier =>
      startsSince jobId earlier + if id = jobId then 1 else 0
  | .dlqRetried id :: earlier => if id = jobId then 0 else startsSince jobId earlier
  | .handlerReturnedNil .. :: earlier => startsSince jobId earlier

/-- A sweep takes back no running row. -/
def SparesRunning (w : World) : Action → Prop
  | .sweep => ∀ row ∈ w.db.jobs, row.Orphaned w.now → row.status ≠ .running
  | _ => True

/-- The execution is past `SetJobRunning` and about to call the handler. -/
def Pc.starting : Pc → Bool
  | .logStarted _ | .startHandler => true
  | _ => false

/-- The execution has `SetJobRunning` still ahead. -/
def Pc.unstarted : Pc → Bool
  | .pending | .gate _ | .completeIdempotent | .setRunning => true
  | _ => false

/-- Between `SetJobRunning` and the handler nothing is written to the row. -/
theorem Pc.rewrite_of_starting {now : Timestamptz} {job : Job} {pc : Pc}
    (starting : pc.starting = true) : pc.rewrite now job = none := by
  cases pc with
  | logStarted | startHandler => rfl
  | _ => cases starting

theorem Pc.holds_of_starting {pc : Pc} (starting : pc.starting = true) : pc.holds = true := by
  cases pc with
  | logStarted | startHandler => rfl
  | _ => cases starting

theorem Pc.Matches.running_of_starting {job row : Job} {pc : Pc} (fits : pc.Matches job row)
    (starting : pc.starting = true) :
    row.status = .running ∧ row.attempts = job.attempts := by
  cases pc with
  | logStarted | startHandler => exact fits
  | _ => cases starting

/-- An execution about to start its handler logged the start or has just set its job
running. -/
theorem Next.starting_before {workerId : UUID} {now : Timestamptz} {job : Job} {db : Database}
    {pc pc' : Pc} {response : Response} {event : Option Event}
    (next : Next workerId now job db pc response pc' event) (starting : pc'.starting = true) :
    pc.starting = true ∨ pc = .setRunning ∧ ∃ draw, response = .call true draw := by
  cases next with
  | resolved => exact .inr ⟨rfl, _, rfl⟩
  | loggedStart => exact .inl rfl
  | _ => cases starting

/-- An execution with `SetJobRunning` ahead had it ahead before. -/
theorem Next.unstarted_before {workerId : UUID} {now : Timestamptz} {job : Job} {db : Database}
    {pc pc' : Pc} {response : Response} {event : Option Event}
    (next : Next workerId now job db pc response pc' event) (unstarted : pc'.unstarted = true) :
    pc.unstarted = true := by
  cases next with
  | gateHit | gateMiss => rfl
  | _ => cases unstarted

/-- A dispatched execution has not come to `SetJobRunning`. -/
theorem Pc.starting_entry (job : Job) : (Pc.entry job).starting = false := by
  unfold Pc.entry
  split
  · rfl
  · rfl

theorem Pc.holds_of_unstarted {pc : Pc} (unstarted : pc.unstarted = true) :
    pc.holds = true := by
  cases pc with
  | pending | gate | completeIdempotent | setRunning => rfl
  | _ => cases unstarted

/-- The starts that a row accounts for. -/
def Job.startsAllowed (row : Job) : Int :=
  if row.status = .running ∨ row.status = .completed then row.attempts + 1 else row.attempts

namespace World

/-- The starts of a job since its latest retry. -/
def starts (w : World) (jobId : UUID) : Nat := startsSince jobId w.events

/-- The execution may yet start the handler. The calls of a cancelled engine fail, so there
only those past `SetJobRunning` may. -/
def MayStart (w : World) (task : Task) : Prop :=
  task.pc.starting = true ∨ task.pc.unstarted = true ∧ w.Live task.worker

/-- The execution holds its job or is about to start its handler. -/
def Engaged (w : World) (task : Task) : Prop :=
  w.Holds task ∨ task.pc.starting = true

theorem MayStart.engaged {w : World} {task : Task} (may : w.MayStart task) : w.Engaged task := by
  rcases may with starting | ⟨unstarted, live⟩
  · exact .inr starting
  · exact .inl ⟨Pc.holds_of_unstarted unstarted, live⟩

end World

/-- The starts of every job are accounted for. -/
structure Counted (w : World) : Prop where
  undisturbed : World.Undisturbed w
  accounts : Accounts w
  fresh : ∀ jobId, jobId ∉ w.issued → w.starts jobId = 0
  rows : ∀ row ∈ w.db.jobs, (w.starts row.id : Int) ≤ row.startsAllowed
  starting : ∀ ticket task, w.tasks ticket = some task → task.pc.starting = true →
    ∀ row ∈ w.db.jobs, row.id = task.job.id →
      row.status = .running ∧ row.attempts = task.job.attempts
  unique : ∀ first second firstTask secondTask, w.tasks first = some firstTask →
    w.tasks second = some secondTask → w.Engaged firstTask → w.Engaged secondTask →
    firstTask.job.id = secondTask.job.id → first = second
  ahead : ∀ ticket task, w.tasks ticket = some task → w.MayStart task →
    (w.starts task.job.id : Int) ≤ task.job.attempts
  capped : ∀ ticket task, w.tasks ticket = some task →
    0 ≤ task.job.attempts ∧ task.job.attempts < task.job.maxAttempts

theorem Counted.wellFormed {w : World} (inv : Counted w) : WellFormed w :=
  inv.accounts.exclusive.wellFormed

namespace World

variable {cron : CronParser} {w w' : World} {a : Action}

theorem counted_start (now : Timestamptz) (policies : List RetryPolicy) :
    Counted (World.start now policies) where
  undisturbed := undisturbed_start now policies
  accounts := accounts_start now policies
  fresh _ _ := rfl
  rows _ member := by cases member
  starting _ _ taken := by cases taken
  unique _ _ _ _ taken := by cases taken
  ahead _ _ taken := by cases taken
  capped _ _ taken := by cases taken

/-! ## How the starts change -/

/-- What a step does to the starts of a job. -/
inductive StartStep (w : World) (a : Action) (w' : World) (jobId : UUID) : Prop where
  | kept (same : w'.starts jobId = w.starts jobId)
      (other : ∀ orgId, a ≠ .api (.retryDLQJob jobId orgId))
  | started (ticket : Nat) (task : Task) (nanos : Fin 1000)
      (executes : a = .exec ticket (.starts nanos))
      (taken : w.tasks ticket = some task) (own : task.job.id = jobId)
      (point : task.pc = .startHandler) (one : w'.starts jobId = w.starts jobId + 1)
  | retried (orgId : UUID) (retries : a = .api (.retryDLQJob jobId orgId))
      (none : w'.starts jobId = 0)

/-- **The starts after a step.** -/
theorem step_starts (moves : Moves cron w a w') (jobId : UUID) : StartStep w a w' jobId := by
  cases moves with
  | api request db nodup fresh performs =>
      cases request with
      | retryDLQJob id orgId =>
          by_cases same : id = jobId
          · subst same
            exact .retried orgId rfl (by simp [starts, Request.events, startsSince])
          · exact .kept (by simp [starts, Request.events, startsSince, same]) (by simp [same])
      | _ => exact .kept rfl (by simp)
  | exec ticket response task engine db pc event taken found alive permitted advances =>
      have next := advance_next advances
      generalize point : task.pc = before at next
      cases next with
      | started =>
          by_cases same : task.job.id = jobId
          · exact .started ticket task _ rfl taken same point
              (by simp [starts, startsSince, same])
          · exact .kept (by simp [starts, startsSince, same]) (by simp)
      | succeeded => exact .kept (by simp [starts, startsSince]) (by simp)
      | _ => exact .kept rfl (by simp)
  | _ => exact .kept rfl (by simp)

/-! ## Rows -/

/-- Outside of a retry, the treatments of a row keep what it accounts for. -/
theorem RowStep.startsAllowed_le (inv : Undisturbed w) (spares : SparesRunning w a)
    {row row' : Job} (member : row ∈ w.db.jobs) (change : RowStep w a row row')
    (noRetry : ∀ orgId, a ≠ .api (.retryDLQJob row.id orgId)) :
    row.startsAllowed ≤ row'.startsAllowed := by
  cases change with
  | kept => exact le_rfl
  | claimed _ _ claimable =>
      obtain ⟨_, queued, _⟩ := claimable
      simp [Job.startsAllowed, Job.claim, queued]
  | @written ticket draw task rewrite _ taken live writes own =>
      have fits := (inv.writer_possesses taken live writes member own).fits
      generalize task.pc = pc at writes fits
      cases pc with
      | completeIdempotent | setRunning =>
          cases writes
          simp only [Job.startsAllowed, Job.complete, Job.setRunning, fits.1, reduceCtorEq, or_self,
            or_true, true_or, if_true, if_false]
          omega
      | complete =>
          cases writes
          simp [Job.startsAllowed, Job.complete, fits.1]
      | moveToDLQ =>
          cases writes
          simp [Job.startsAllowed, Job.deadLetter, fits.1, fits.2]
      | failJob =>
          cases writes
          simp [Job.startsAllowed, Job.fail, fits.1, fits.2]
      | requeueForRetry =>
          cases writes
          rcases fits with ⟨running, attempts⟩ | ⟨failed, attempts⟩
          · simp [Job.startsAllowed, Job.requeueForRetry, running, attempts]
          · simp [Job.startsAllowed, Job.requeueForRetry, failed, attempts]
      | _ => cases writes
  | renewed => exact le_rfl
  | released _ _ releases => simp [Job.startsAllowed, Job.release, releases.2]
  | reclaimed orphaned =>
      have claimed := orphaned.1.resolve_right (spares _ member orphaned)
      simp [Job.startsAllowed, Job.requeueOrphaned, claimed]
  | retried => exact absurd rfl (noRetry _)

/-- A row of a running or retried job accounts for no fewer than zero starts. -/
theorem startsAllowed_nonneg (inv : Accounts w) {row : Job} (member : row ∈ w.db.jobs) :
    0 ≤ row.startsAllowed := by
  have nonneg := ((inv.rows row member).balanced
    (inv.exclusive.wellFormed.allowed row member)).nonneg
  unfold Job.startsAllowed
  split <;> omega

/-- The row of a job whose handler is about to start stays running. -/
theorem starting_kept (inv : Counted w) (spares : SparesRunning w a) {ticket : Nat}
    {task : Task} (taken : w.tasks ticket = some task) (starting : task.pc.starting = true)
    {row row' : Job} (member : row ∈ w.db.jobs) (own : row.id = task.job.id)
    (change : RowStep w a row row') :
    row'.status = .running ∧ row'.attempts = task.job.attempts := by
  obtain ⟨running, attempts⟩ := inv.starting ticket task taken starting row member own
  cases change with
  | kept => exact ⟨running, attempts⟩
  | claimed _ _ claimable =>
      have queued := claimable.2.1
      rw [running] at queued
      cases queued
  | @written other draw writer rewrite _ taken' live writes own' =>
      -- the writer is engaged with the same job, and this task has nothing to write
      have same := inv.unique other ticket writer task taken' taken
        (.inl ⟨Pc.holds_of_rewrite writes, live⟩) (.inr starting) (own'.symm.trans own)
      subst same
      rw [taken] at taken'
      cases taken'
      rw [Pc.rewrite_of_starting starting] at writes
      cases writes
  | renewed => exact ⟨running, attempts⟩
  | released _ _ releases =>
      have claimed := releases.2
      rw [running] at claimed
      cases claimed
  | reclaimed orphaned => exact absurd running (spares _ member orphaned)
  | retried dead =>
      rw [running] at dead
      cases dead

/-- The starts of the rows after a step. -/
theorem step_rows_counted (moves : Moves cron w a w') (spares : SparesRunning w a)
    (inv : Counted w) (accounts' : Accounts w') {row' : Job} (member' : row' ∈ w'.db.jobs) :
    (w'.starts row'.id : Int) ≤ row'.startsAllowed := by
  have wf := inv.wellFormed
  have nonneg := startsAllowed_nonneg accounts' member'
  rcases step_rows moves wf.ids member' with ⟨row, member, change⟩ | new
  · have before := inv.rows row member
    have sameId := change.id
    rw [sameId]
    cases step_starts moves row.id with
    | retried orgId retries zero => omega
    | kept same other =>
        have grows := change.startsAllowed_le inv.undisturbed spares member other
        omega
    | started ticket task nanos executes taken own point one =>
        have starting : task.pc.starting = true := by
          rw [point]
          rfl
        have running := starting_kept inv spares taken starting member own.symm change
        have left := inv.ahead ticket task taken (.inl starting)
        rw [own] at left
        simp only [Job.startsAllowed, running.1, true_or, if_true, running.2]
        omega
  · -- nobody has started a job that is just being inserted
    obtain ⟨_, _, _, unissued, _⟩ := new
    have none := inv.fresh row'.id unissued
    cases step_starts moves row'.id with
    | retried orgId retries zero => omega
    | kept same => omega
    | started ticket task nanos executes taken own =>
        have issued := wf.issuedTasks ticket task taken
        rw [own] at issued
        exact absurd issued unissued

/-! ## Tasks -/

/-- An engaged task is opened by the step or was engaged before. -/
theorem TaskStep.engaged_before (moves : Moves cron w a w') (wf : WellFormed w) {ticket : Nat}
    {task' : Task} (origin : TaskStep w w' a ticket task') (engaged' : w'.Engaged task') :
    (∃ worker tie emit, a = .claim worker tie emit true ∧ w.nextTicket ≤ ticket ∧
      ∃ row ∈ w.db.jobs, row.id = task'.job.id ∧ ∃ queueId, row.Claimable queueId w.now) ∨
    ∃ task, w.tasks ticket = some task ∧ w.Engaged task ∧ task.job = task'.job := by
  cases origin with
  | @opened worker tie emit engine queueId row claims fresh found running member claimable =>
      exact .inl ⟨worker, tie, emit, claims, fresh, row, member, rfl, queueId, claimable⟩
  | @kept task reclaimed superseded taken =>
      refine .inr ⟨task, taken, ?_, rfl⟩
      rcases engaged' with ⟨held, live⟩ | starting
      · exact .inl ⟨held, live_before moves wf taken live⟩
      · exact .inr starting
  | @dispatched task worker dispatches taken pending =>
      refine .inr ⟨task, taken, ?_, rfl⟩
      rcases engaged' with ⟨_, live⟩ | starting
      · refine .inl ⟨?_, live_before moves wf taken live⟩
        rw [pending]
        rfl
      · rw [Pc.starting_entry] at starting
        cases starting
  | @advanced task response engine pc event executes taken found permitted advances =>
      refine .inr ⟨task, taken, ?_, rfl⟩
      have next := advance_next advances
      rcases engaged' with ⟨held, live⟩ | starting
      · exact .inl ⟨next.holds held, live_before moves wf taken live⟩
      · rcases next.starting_before starting with before | ⟨point, draw, answered⟩
        · exact .inr before
        · refine .inl ⟨?_, engine, found, permitted draw answered⟩
          rw [point]
          rfl

/-- A task that may start its handler is opened by the step or might have before. -/
theorem TaskStep.mayStart_before (moves : Moves cron w a w') (wf : WellFormed w) {ticket : Nat}
    {task task' : Task} (origin : TaskStep w w' a ticket task') (may' : w'.MayStart task')
    (taken₀ : w.tasks ticket = some task) : w.MayStart task ∧ task.job = task'.job := by
  cases origin with
  | opened claims fresh =>
      rw [wf.tickets ticket fresh] at taken₀
      cases taken₀
  | kept taken =>
      rw [taken₀] at taken
      cases taken
      refine ⟨?_, rfl⟩
      rcases may' with starting | ⟨unstarted, live⟩
      · exact .inl starting
      · exact .inr ⟨unstarted, live_before moves wf taken₀ live⟩
  | dispatched dispatches taken pending =>
      rw [taken₀] at taken
      cases taken
      refine ⟨?_, rfl⟩
      rcases may' with starting | ⟨_, live⟩
      · rw [Pc.starting_entry] at starting
        cases starting
      · refine .inr ⟨?_, live_before moves wf taken₀ live⟩
        rw [pending]
        rfl
  | advanced executes taken found permitted advances =>
      rw [taken₀] at taken
      cases taken
      refine ⟨?_, rfl⟩
      have next := advance_next advances
      rcases may' with starting | ⟨unstarted, live⟩
      · rcases next.starting_before starting with before | ⟨point, draw, answered⟩
        · exact .inl before
        · refine .inr ⟨?_, _, found, permitted draw answered⟩
          rw [point]
          rfl
      · exact .inr ⟨next.unstarted_before unstarted, live_before moves wf taken₀ live⟩

/-- The handler of a task that may still start it has not been started by this step. -/
theorem TaskStep.not_started {ticket : Nat} {task task' : Task}
    (origin : TaskStep w w' a ticket task') (may' : w'.MayStart task')
    (taken₀ : w.tasks ticket = some task) (point : task.pc = .startHandler)
    {nanos : Fin 1000} (executes : a = .exec ticket (.starts nanos)) : False := by
  subst executes
  cases origin with
  | opened claims => cases claims
  | kept taken idle => exact idle _ rfl
  | dispatched dispatches => cases dispatches
  | advanced executes taken found permitted advances =>
      cases executes
      rw [taken₀] at taken
      cases taken
      have next := advance_next advances
      rw [point] at next
      cases next with
      | started =>
          rcases may' with starting | ⟨unstarted, _⟩
          · cases starting
          · cases unstarted

/-- The row of a job whose handler is about to start, after a step. -/
theorem step_starting (moves : Moves cron w a w') (spares : SparesRunning w a)
    (inv : Counted w) (undisturbed' : Undisturbed w') {ticket : Nat} {task' : Task}
    (taken' : w'.tasks ticket = some task') (starting' : task'.pc.starting = true)
    {row' : Job} (member' : row' ∈ w'.db.jobs) (own' : row'.id = task'.job.id) :
    row'.status = .running ∧ row'.attempts = task'.job.attempts := by
  have wf := inv.wellFormed
  have origin := step_tasks moves wf.ids taken'
  rcases step_rows moves wf.ids member' with ⟨row, member, change⟩ | new
  · have own : row.id = task'.job.id := change.id.symm.trans own'
    cases origin with
    | opened => cases starting'
    | kept taken => exact starting_kept inv spares taken starting' member own change
    | dispatched =>
        rw [Pc.starting_entry] at starting'
        cases starting'
    | @advanced task response engine pc event executes taken found permitted advances =>
        have next := advance_next advances
        rcases next.starting_before starting' with before | ⟨point, draw, answered⟩
        · exact starting_kept inv spares taken before member own change
        · -- SetJobRunning has just succeeded on a live engine, whose row matches
          subst executes
          have live : w.Live task.worker := ⟨engine, found, permitted draw answered⟩
          have live' : w'.Live task.worker :=
            live_after moves live ⟨by simp, by simp⟩
          have has := undisturbed'.possesses taken'
            ⟨Pc.holds_of_starting starting', live'⟩ member' own'
          exact has.fits.running_of_starting starting'
  · exact absurd own' (new.ne_task wf origin)

/-- An engaged job cannot be claimed. -/
theorem engaged_not_claimable (inv : Counted w) {ticket : Nat} {task : Task}
    (taken : w.tasks ticket = some task) (engaged : w.Engaged task) {row : Job}
    (member : row ∈ w.db.jobs) (own : row.id = task.job.id) {queueId : UUID} :
    ¬ row.Claimable queueId w.now := by
  rcases engaged with holds | starting
  · exact (inv.undisturbed.possesses taken holds member own).not_claimable holds.1
  · rintro ⟨_, queued, _⟩
    have running := (inv.starting ticket task taken starting row member own).1
    rw [queued] at running
    cases running

/-- Two engaged tasks of one job after the step are the same execution. -/
theorem step_engaged_unique (moves : Moves cron w a w') (inv : Counted w) {first second : Nat}
    {firstTask secondTask : Task} (firstTaken : w'.tasks first = some firstTask)
    (secondTaken : w'.tasks second = some secondTask) (firstEngaged : w'.Engaged firstTask)
    (secondEngaged : w'.Engaged secondTask) (same : firstTask.job.id = secondTask.job.id) :
    first = second := by
  have wf := inv.wellFormed
  rcases (step_tasks moves wf.ids firstTaken).engaged_before moves wf firstEngaged with
    ⟨_, _, _, claims, firstNew, row, member, own, _, claimable⟩ | ⟨task, taken, engaged, job⟩ <;>
  rcases (step_tasks moves wf.ids secondTaken).engaged_before moves wf secondEngaged with
    ⟨_, _, _, _, secondNew, row', member', own', _, claimable'⟩ | ⟨task', taken', engaged', job'⟩
  · exact opened_unique moves wf claims firstTaken secondTaken firstNew secondNew same
  · have sameJob : row.id = task'.job.id := by rw [own, same, job']
    exact absurd claimable (engaged_not_claimable inv taken' engaged' member sameJob)
  · have sameJob : row'.id = task.job.id := by rw [own', ← same, job]
    exact absurd claimable' (engaged_not_claimable inv taken engaged member' sameJob)
  · exact inv.unique first second task task' taken taken' engaged engaged' (by rw [job, job', same])

/-- A task that may start its handler after the step has an attempt for it. -/
theorem step_ahead (moves : Moves cron w a w') (inv : Counted w) {ticket : Nat} {task' : Task}
    (taken' : w'.tasks ticket = some task') (may' : w'.MayStart task') :
    (w'.starts task'.job.id : Int) ≤ task'.job.attempts := by
  have wf := inv.wellFormed
  have origin := step_tasks moves wf.ids taken'
  cases before : w.tasks ticket with
  | none =>
      cases origin with
      | @opened worker tie emit engine queueId row claims fresh found running member claimable =>
          -- the claimed row was queued and accounts for its starts
          subst claims
          have counted := inv.rows row member
          simp only [Job.startsAllowed, claimable.2.1, reduceCtorEq, or_self, if_false] at counted
          cases step_starts moves row.id with
          | kept same =>
              change (w'.starts row.id : Int) ≤ row.attempts
              omega
          | started _ _ _ executes => cases executes
          | retried _ retries => cases retries
      | kept taken | dispatched _ taken | advanced _ taken =>
          rw [before] at taken
          cases taken
  | some task =>
      obtain ⟨may, job⟩ := origin.mayStart_before moves wf may' before
      have left := inv.ahead ticket task before may
      have nonneg := (inv.capped ticket task before).1
      rw [← job]
      cases step_starts moves task.job.id with
      | kept same => omega
      | retried _ _ zero => omega
      | started other starter nanos executes taken own point one =>
          -- the starter is engaged with the same job, so it is this task
          have starting : starter.pc.starting = true := by
            rw [point]
            rfl
          have same := inv.unique other ticket starter task taken before (.inr starting)
            may.engaged own
          subst same
          exact (origin.not_started may' taken point executes).elim

/-- A claimed job has an attempt left. -/
theorem step_capped (moves : Moves cron w a w') (inv : Counted w) {ticket : Nat} {task' : Task}
    (taken' : w'.tasks ticket = some task') :
    0 ≤ task'.job.attempts ∧ task'.job.attempts < task'.job.maxAttempts := by
  have wf := inv.wellFormed
  cases step_tasks moves wf.ids taken' with
  | @opened worker tie emit engine queueId row claims fresh found running member claimable =>
      have accounted := inv.accounts.rows row member
      have alive : row.status ≠ .deadLetter := by
        rw [claimable.2.1]
        simp
      obtain ⟨nonneg, left, _⟩ := accounted.unlettered alive
      exact ⟨nonneg, left⟩
  | kept taken | dispatched _ taken | advanced _ taken =>
      have before := inv.capped ticket _ taken
      exact before

/-- **The starts stay accounted for.** -/
theorem counted_step (moves : Moves cron w a w') (timely : Timely w a)
    (spares : SparesRunning w a) (inv : Counted w) : Counted w' := by
  have wf := inv.wellFormed
  have undisturbed' := undisturbed_step moves timely inv.undisturbed
  have accounts' := accounts_step moves (inv.undisturbed.noStaleWrite moves) inv.accounts
  refine ⟨undisturbed', accounts', ?_, ?_, ?_, ?_, ?_, ?_⟩
  · intro jobId unissued'
    have unissued : jobId ∉ w.issued := fun issued => unissued' (issued_mono moves issued)
    have none := inv.fresh jobId unissued
    cases step_starts moves jobId with
    | kept same => rw [same, none]
    | retried _ _ zero => exact zero
    | started ticket task nanos executes taken own =>
        have issued := wf.issuedTasks ticket task taken
        rw [own] at issued
        exact absurd issued unissued
  · intro row' member'
    exact step_rows_counted moves spares inv accounts' member'
  · intro ticket task' taken' starting' row' member' own'
    exact step_starting moves spares inv undisturbed' taken' starting' member' own'
  · intro first second firstTask secondTask firstTaken secondTaken firstEngaged secondEngaged same
    exact step_engaged_unique moves inv firstTaken secondTaken firstEngaged secondEngaged same
  · intro ticket task' taken' may'
    exact step_ahead moves inv taken' may'
  · intro ticket task' taken'
    exact step_capped moves inv taken'

end World

/-! ## Runs -/

theorem counted_throughout {cron : CronParser} {trace : List (World × Action)} {w : World}
    (run : Run (scheduler cron) trace w) (timely : Meets Timely trace)
    (spares : Meets SparesRunning trace) : Throughout Counted trace w := by
  refine run.throughout (timely.and spares) ?_ ?_
  · rintro s ⟨now, policies, rfl⟩
    exact World.counted_start now policies
  · intro s a s' taken condition inv
    exact World.counted_step (World.step_moves taken) condition.1 condition.2 inv

/-- The starts of every job in the table are within its `max_attempts`. -/
def WithinAttempts (w : World) : Prop :=
  ∀ row ∈ w.db.jobs, (w.starts row.id : Int) ≤ row.maxAttempts

/-- If the step starts the handler of a job, in the table or not, it is within the
`max_attempts` the job was claimed with. -/
def StartsWithinAttempts (w : World) (a : Action) (w' : World) : Prop :=
  ∀ ticket task nanos, a = .exec ticket (.starts nanos) → w.tasks ticket = some task →
    (w'.starts task.job.id : Int) ≤ task.job.maxAttempts

theorem Counted.withinAttempts {w : World} (inv : Counted w) : WithinAttempts w := by
  intro row member
  have counted := inv.rows row member
  have balanced := (inv.accounts.rows row member).balanced (inv.wellFormed.allowed row member)
  have bounded := balanced.bounded
  unfold Job.startsAllowed at counted
  split at counted
  next status =>
    have left : row.attempts < row.maxAttempts := by
      apply balanced.left
      rcases status with running | completed
      · rw [running]
        simp
      · rw [completed]
        simp
    omega
  · omega

theorem Counted.startsWithinAttempts {cron : CronParser} {w w' : World} {a : Action}
    (inv : Counted w) (moves : World.Moves cron w a w') : StartsWithinAttempts w a w' := by
  intro ticket task nanos executes taken
  subst executes
  have left := (inv.capped ticket task taken).2
  cases moves with
  | exec _ _ task' engine db pc event taken' found alive permitted advances =>
      rw [taken] at taken'
      cases taken'
      have next := advance_next advances
      generalize point : task.pc = before at next
      cases next with
      | started =>
          have starting : task.pc.starting = true := by
            rw [point]
            rfl
          have ahead := inv.ahead ticket task taken (.inl starting)
          have one : World.starts { w.setTask ticket
                (some { task with pc := .handling (timeNow w.now nanos) }) with
              db := db, events := (some (Event.handlerStarted task.job.id w.now)).toList ++
                w.events } task.job.id = w.starts task.job.id + 1 := by
            simp [World.starts, startsSince]
          omega

/-- **Starts are bounded when no running job is taken back.** In every timely run whose
sweeps take back no running row, the handler of a job is started at most `max_attempts`
times between its creation or latest `RetryDLQJob` and the next, however often engines
crash. -/
theorem starts_bounded (cron : CronParser) (trace : List (World × Action)) (w : World)
    (run : Run (scheduler cron) trace w) (timely : Meets Timely trace)
    (spares : Meets SparesRunning trace) :
    Throughout WithinAttempts trace w ∧
      ∀ entry ∈ trace, ∀ w', entry.1.step cron entry.2 = some w' →
        StartsWithinAttempts entry.1 entry.2 w' := by
  have all := counted_throughout run timely spares
  refine ⟨⟨fun entry member => (all.1 entry member).withinAttempts, all.2.withinAttempts⟩, ?_⟩
  intro entry member w' taken
  exact (all.1 entry member).startsWithinAttempts (World.step_moves taken)

/-- No engine with a task is live. -/
def World.Stopped (w : World) : Prop :=
  ∀ ticket ∈ List.range w.nextTicket, ∀ task ∈ w.tasks ticket,
    ∀ engine ∈ w.engines task.worker, engine.status ≠ .running

instance : DecidablePred World.Stopped :=
  fun w => inferInstanceAs (Decidable (∀ ticket ∈ List.range w.nextTicket,
    ∀ task ∈ w.tasks ticket, ∀ engine ∈ w.engines task.worker, engine.status ≠ .running))

/-- Sweeps while no engine with a task is live are timely. -/
theorem timely_of_stopped {cron : CronParser} {trace : List (World × Action)} {w : World}
    (run : Run (scheduler cron) trace w)
    (stopped : ∀ entry ∈ trace, entry.2.isSweep → entry.1.Stopped) : Meets Timely trace := by
  intro entry member
  unfold Timely
  split
  next sweeps =>
    rintro ticket task taken ⟨_, engine, found, running⟩
    have old := World.ticket_lt ((wellFormed_throughout run).1 entry member) taken
    have halted := stopped entry member (by rw [sweeps]; rfl) ticket (List.mem_range.mpr old) task
      taken engine found
    exact absurd running halted
  · trivial

/-- A job with a single attempt is submitted. -/
def singleAttempt : List Action :=
  ([.api (.createOrg 1 "org" "org"), .api (.createProject 2 1 "project" "project" none),
    .api (.createQueue (Scenario.queue 3)),
    .api (.createJob 4 { Scenario.request none with maxAttempts := some 1 } (Scenario.queue 3)),
    .register 5 Scenario.config] : List Action)

/-- The first worker crashes, its lease runs out, and a second worker executes the job. -/
def crashAndRestart : List Action :=
  ([.crash 5, .tick 31000000, .sweep, .register 6 Scenario.config] : List Action) ++
    Scenario.take 6 ++
    ([.exec 1 (.call true 0), .exec 1 (.call true 0), .exec 1 .starts] : List Action)

/-- The first worker crashes before it sets the job running. -/
theorem starts_bounded_crash_before_running :
    ∃ trace w, Run (scheduler Scenario.cron) trace w ∧ w.starts 4 = 1 ∧
      (∃ entry ∈ trace, entry.2.isSweep ∧ ∃ row ∈ entry.1.db.jobs, row.Orphaned entry.1.now) ∧
      Throughout WithinAttempts trace w ∧
      ∀ entry ∈ trace, ∀ w', entry.1.step Scenario.cron entry.2 = some w' →
        StartsWithinAttempts entry.1 entry.2 w' := by
  obtain ⟨trace, w, run, once, reclaims, stopped, spared⟩ :=
    exists_run_of_execute (scheduler Scenario.cron)
      (singleAttempt ++ Scenario.take 5 ++ crashAndRestart) (World.start 0 [])
      (fun trace w => w.starts 4 = 1 ∧
        (∃ entry ∈ trace, entry.2.isSweep ∧ ∃ row ∈ entry.1.db.jobs, row.Orphaned entry.1.now) ∧
        (∀ entry ∈ trace, entry.2.isSweep → entry.1.Stopped) ∧
        ∀ entry ∈ trace, entry.2.isSweep → ∀ row ∈ entry.1.db.jobs, row.status ≠ .running)
      ⟨0, [], rfl⟩ (by decide)
  have spares : Meets SparesRunning trace := by
    intro entry member
    unfold SparesRunning
    split
    next sweeps =>
      intro row rowMember _
      exact spared entry member (by rw [sweeps]; rfl) row rowMember
    · trivial
  exact ⟨trace, w, run, once, reclaims,
    starts_bounded _ trace w run (timely_of_stopped run stopped) spares⟩

/-- The first worker crashes while the handler runs. The sweep does not count the attempt,
and the handler of a job with a single attempt is started again. -/
theorem started_again :
    ¬ ∀ (cron : CronParser) (trace : List (World × Action)) (w : World),
      Run (scheduler cron) trace w → Meets Timely trace →
      Throughout WithinAttempts trace w ∧
        ∀ entry ∈ trace, ∀ w', entry.1.step cron entry.2 = some w' →
          StartsWithinAttempts entry.1 entry.2 w' := by
  intro always
  obtain ⟨trace, w, run, ⟨row, member, exceeded⟩, stopped⟩ :=
    exists_run_of_execute (scheduler Scenario.cron)
      (singleAttempt ++ Scenario.take 5 ++
        ([.exec 0 (.call true 0), .exec 0 (.call true 0), .exec 0 .starts] : List Action) ++
        crashAndRestart) (World.start 0 [])
      (fun trace w => (∃ row ∈ w.db.jobs, ¬ (w.starts row.id : Int) ≤ row.maxAttempts) ∧
        ∀ entry ∈ trace, entry.2.isSweep → entry.1.Stopped)
      ⟨0, [], rfl⟩ (by decide)
  have bounded := (always _ trace w run (timely_of_stopped run stopped)).1.2
  exact exceeded (bounded row member)

end JobScheduler
