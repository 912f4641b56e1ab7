import JobScheduler.System.References

/-!
# Exclusive ownership

No write of `executeJob` is guarded by the worker's id or by the status, so nothing in a
single statement keeps two workers apart. What does is a global invariant: among the
claims that no sweep has taken back, each job has at most one, and its row bears the
worker's id and the status and attempt count of the program point.

The invariant survives every step as long as no execution whose claim was taken back
writes (`NoStaleWrite`). Runs in which no sweep reclaims a job that a live engine holds
(`Timely`) are of this kind, and there the invariant covers all held jobs.
-/

set_option autoImplicit false

namespace JobScheduler

open Relational Transition

namespace World

/-- The task's engine is live and still has a jobs-table write of the task ahead. -/
def Holds (w : World) (task : Task) : Prop :=
  task.pc.holds = true ∧ w.Live task.worker

/-- The task holds its job and no sweep has taken the claim back. -/
def Owns (w : World) (task : Task) : Prop :=
  w.Holds task ∧ task.reclaimed = false

end World

/-- A write of `executeJob` is made on a claim that no sweep has taken back. -/
def NoStaleWrite (w : World) : Action → Prop
  | .exec ticket (.call true _) => ∀ task, w.tasks ticket = some task →
      task.pc.rewrite w.now task.job ≠ none → task.reclaimed = false
  | _ => True

instance (w : World) : DecidablePred (NoStaleWrite w)
  | .exec ticket (.call true _) =>
      decidable_of_iff (∀ task ∈ w.tasks ticket,
        (task.pc.rewrite w.now task.job).isSome = true → task.reclaimed = false) (by
          simp only [NoStaleWrite, Option.mem_def, Option.isSome_iff_ne_none])
  | .exec _ (.call false _) | .exec _ (.starts _) | .exec _ (.returns ..) => isTrue trivial
  | .tick _ | .api _ | .sweep | .markDead _ | .register .. | .heartbeat _ | .cancel _ | .crash _
  | .poll .. | .claim .. | .dispatch _ | .proceed _ | .release .. | .deregister .. | .finish _ =>
      isTrue trivial

/-- No sweep reclaims a job that a live engine holds. -/
def Timely (w : World) : Action → Prop
  | .sweep => ∀ ticket task, w.tasks ticket = some task → w.Holds task →
      ∀ row ∈ w.db.jobs, row.id = task.job.id → ¬ row.Orphaned w.now
  | _ => True

/-- The row of an owned job. -/
structure Task.Possesses (task : Task) (row : Job) : Prop where
  owner : row.workerId = some task.worker
  fits : task.pc.Matches task.job row

/-- Exclusive ownership. -/
structure Exclusive (w : World) : Prop where
  referential : Referential w
  possesses : ∀ ticket task, w.tasks ticket = some task → w.Owns task →
    ∀ row ∈ w.db.jobs, row.id = task.job.id → task.Possesses row
  unique : ∀ first second firstTask secondTask, w.tasks first = some firstTask →
    w.tasks second = some secondTask → w.Owns firstTask → w.Owns secondTask →
    firstTask.job.id = secondTask.job.id → first = second

theorem Exclusive.wellFormed {w : World} (inv : Exclusive w) : WellFormed w :=
  inv.referential.wellFormed

/-! ## Rows of owned jobs -/

section Rows

variable {now : Timestamptz} {job row row' : Job} {pc pc' : Pc} {task : Task}

/-- Matching depends on the status and the attempts only. -/
theorem Pc.Matches.congr (fits : pc.Matches job row) (status : row'.status = row.status)
    (attempts : row'.attempts = row.attempts) : pc.Matches job row' := by
  cases pc <;> simp only [Pc.Matches, status, attempts] at fits ⊢ <;> exact fits

/-- A write after which the job is still held leaves the worker's id in place. -/
theorem Next.owner_written {workerId : UUID} {db : Database} {draw : Int}
    {event : Option Event} {rewrite : Job → Job}
    (next : Next workerId now job db pc (.call true draw) pc' event)
    (writes : pc.rewrite now job = some rewrite) (held : pc'.holds = true) :
    (rewrite row).workerId = row.workerId := by
  cases next with
  | resolved | unresolved | marked =>
      cases writes
      rfl
  | completedIdempotent | completed | moved | requeued => cases held
  | loggedCompleted | recordedCompleted | gateHit | gateMiss | loggedStart | recordedFailed
  | exhausted | consults | backsOff | consulted => cases writes

/-- An owned job cannot be claimed. -/
theorem Task.Possesses.not_claimable {queueId : UUID} {instant : Timestamptz}
    (has : task.Possesses row) (held : task.pc.holds = true) :
    ¬ row.Claimable queueId instant := by
  rintro ⟨_, queued, _⟩
  exact has.fits.status_ne held (by decide) queued

end Rows

namespace World

variable {cron : CronParser} {w w' : World} {a : Action}

theorem exclusive_start (now : Timestamptz) (policies : List RetryPolicy) :
    Exclusive (World.start now policies) where
  referential := referential_start now policies
  possesses _ _ taken := by cases taken
  unique _ _ _ _ taken := by cases taken

/-! ## Owners before and after a step -/

/-- The engine of an existing task does not come back to life. -/
theorem live_before (moves : Moves cron w a w') (wf : WellFormed w) {ticket : Nat} {task : Task}
    (taken : w.tasks ticket = some task) (live : w'.Live task.worker) : w.Live task.worker := by
  rcases step_live moves live with live | ⟨_, _, fresh⟩
  · exact live
  · obtain ⟨engine, found⟩ := wf.employed ticket task taken
    exact absurd (wf.enrolled _ _ found) fresh

/-- The successful writer of a step owns the job it writes. -/
theorem writer_owns {ticket : Nat} {draw : Int} {task : Task} {rewrite : Job → Job}
    (fresh : NoStaleWrite w (.exec ticket (.call true draw)))
    (taken : w.tasks ticket = some task) (live : w.Live task.worker)
    (writes : task.pc.rewrite w.now task.job = some rewrite) : w.Owns task := by
  refine ⟨⟨Pc.holds_of_rewrite writes, live⟩, fresh task taken ?_⟩
  rw [writes]
  exact Option.some_ne_none _

/-- A task that owns its job after a step was opened by the step or owned it before. -/
theorem TaskStep.owner (moves : Moves cron w a w') (wf : WellFormed w) {ticket : Nat}
    {task' : Task} (origin : TaskStep w w' a ticket task') (owns' : w'.Owns task') :
    (∃ worker tie emit, a = .claim worker tie emit true ∧ w.nextTicket ≤ ticket ∧
      ∃ row ∈ w.db.jobs, row.id = task'.job.id ∧ ∃ queueId, row.Claimable queueId w.now) ∨
    ∃ task, w.tasks ticket = some task ∧ w.Owns task ∧ task.job = task'.job ∧
      task.worker = task'.worker := by
  obtain ⟨⟨held', live'⟩, current'⟩ := owns'
  cases origin with
  | @opened worker tie emit engine queueId row claims fresh found running member claimable =>
      exact .inl ⟨worker, tie, emit, claims, fresh, row, member, rfl, queueId, claimable⟩
  | @kept task reclaimed superseded taken idle keeps loses swept supersedes =>
      refine .inr ⟨task, taken, ⟨⟨held', live_before moves wf taken live'⟩, ?_⟩, rfl, rfl⟩
      cases flag : task.reclaimed with
      | false => rfl
      | true => exact absurd (keeps flag) (by simpa using current')
  | @dispatched task worker dispatches taken pending =>
      refine .inr ⟨task, taken, ⟨⟨?_, live_before moves wf taken live'⟩, current'⟩, rfl, rfl⟩
      rw [pending]
      rfl
  | @advanced task response engine pc event executes taken found permitted advances =>
      have held := (advance_next advances).holds held'
      exact .inr ⟨task, taken, ⟨⟨held, live_before moves wf taken live'⟩, current'⟩, rfl, rfl⟩

/-- An older task that owns its job after a step owned it before. -/
theorem TaskStep.owned_before (moves : Moves cron w a w') (wf : WellFormed w) {ticket : Nat}
    {task task' : Task} (origin : TaskStep w w' a ticket task') (owns' : w'.Owns task')
    (taken : w.tasks ticket = some task) : w.Owns task := by
  rcases origin.owner moves wf owns' with ⟨_, _, _, _, newTicket, _⟩ | ⟨task₀, taken₀, owns, _⟩
  · rw [wf.tickets ticket newTicket] at taken
    cases taken
  · rw [taken] at taken₀
    cases taken₀
    exact owns

/-- The row of a job owned by a task that the step leaves alone. -/
theorem possesses_kept (inv : Exclusive w) (fresh : NoStaleWrite w a) {ticket : Nat}
    {task : Task} (taken : w.tasks ticket = some task) (owns : w.Owns task)
    (idle : ∀ response, a ≠ .exec ticket response)
    (keepsClaim : a = .sweep → ¬ w.LosesClaim task) {row row' : Job}
    (member : row ∈ w.db.jobs) (own : row.id = task.job.id) (change : RowStep w a row row') :
    task.Possesses row' := by
  have has := inv.possesses ticket task taken owns row member own
  have held := owns.1.1
  cases change with
  | kept => exact has
  | claimed found running claimable => exact absurd claimable (has.not_claimable held)
  | @written other draw writer rewrite _ taken' live writes own' =>
      -- the writer owns the same job, so it is this very task
      have writerOwns := writer_owns fresh taken' live writes
      have same := inv.unique other ticket writer task taken' taken writerOwns owns
        (own'.symm.trans own)
      subst same
      exact absurd rfl (idle _)
  | renewed => exact ⟨has.owner, has.fits.congr rfl rfl⟩
  | @released worker engine _ found cancelled releases =>
      -- only a cancelled engine releases, and only rows with its own id
      have same : worker = task.worker := Option.some.inj (releases.1.symm.trans has.owner)
      subst same
      have running := owns.1.2.running found
      rw [cancelled] at running
      cases running
  | reclaimed orphaned =>
      exact absurd ⟨row, member, own, has.owner, orphaned⟩ (keepsClaim rfl)
  | retried dead =>
      exact absurd dead (has.fits.status_ne held (by decide))

/-- The row of a job whose task takes a step. -/
theorem possesses_advanced (inv : Exclusive w) {ticket : Nat} {task : Task}
    {response : Response} {handlers : List String} {db : Database} {pc : Pc}
    {event : Option Event} (taken : w.tasks ticket = some task) (owns : w.Owns task)
    (advances : advance handlers task.worker w.now task.job w.db task.pc response =
      some (db, pc, event))
    (held : pc.holds = true) {row row' : Job} (member : row ∈ w.db.jobs)
    (own : row.id = task.job.id) (change : RowStep w (.exec ticket response) row row') :
    Task.Possesses { task with pc := pc } row' := by
  have has := inv.possesses ticket task taken owns row member own
  have next := advance_next advances
  cases change with
  | kept spared =>
      refine ⟨has.owner, next.matches_spared ?_ has.fits⟩
      rintro draw rfl due
      obtain ⟨errMsg, moving, _⟩ := spared task taken own due
      exact ⟨errMsg, moving⟩
  | @written _ draw writer rewrite _ taken' live writes own' =>
      rw [taken] at taken'
      cases taken'
      refine ⟨?_, next.matches_written writes has.fits⟩
      exact (next.owner_written writes held).trans has.owner

/-- The jobs returned by one claim are distinct. -/
theorem opened_unique (moves : Moves cron w a w') (wf : WellFormed w) {worker : UUID}
    {tie emit : UUID → Nat} (claims : a = .claim worker tie emit true) {first second : Nat}
    {firstTask secondTask : Task} (firstTaken : w'.tasks first = some firstTask)
    (secondTaken : w'.tasks second = some secondTask) (firstNew : w.nextTicket ≤ first)
    (secondNew : w.nextTicket ≤ second) (same : firstTask.job.id = secondTask.job.id) :
    first = second := by
  subst claims
  cases moves with
  | claim _ _ _ engine queueId queues db jobs found running phase answers =>
      obtain ⟨targets, _, rfl, returned⟩ := w.db.claimJobs_spec answers
      have distinct : (jobs.map (·.id)).Nodup := by
        rw [(returned.map (·.id)).nodup_iff, List.map_map]
        exact nodup_map_filter wf.ids _
      simp only [tasksAfterClaim, if_pos firstNew, if_pos secondNew,
        Option.map_eq_some_iff] at firstTaken secondTaken
      obtain ⟨firstJob, firstListed, rfl⟩ := firstTaken
      obtain ⟨secondJob, secondListed, rfl⟩ := secondTaken
      have listed : (jobs.map (·.id))[first - w.nextTicket]? =
          (jobs.map (·.id))[second - w.nextTicket]? := by
        rw [List.getElem?_map, List.getElem?_map, firstListed, secondListed]
        exact congrArg some same
      have inside : first - w.nextTicket < (jobs.map (·.id)).length := by
        rw [List.length_map]
        exact (List.getElem?_eq_some_iff.mp firstListed).1
      have index := (List.getElem?_inj inside distinct).mp listed
      omega
  | claimFailed _ _ _ _ engine queueId queues =>
      replace firstTaken : w.tasks first = some firstTask := firstTaken
      rw [wf.tickets first firstNew] at firstTaken
      cases firstTaken

/-- The row of a job that is owned after the step. -/
theorem step_possesses (moves : Moves cron w a w') (fresh : NoStaleWrite w a)
    (inv : Exclusive w) {ticket : Nat} {task' : Task} (taken' : w'.tasks ticket = some task')
    (owns' : w'.Owns task') {row' : Job} (member' : row' ∈ w'.db.jobs)
    (own' : row'.id = task'.job.id) : task'.Possesses row' := by
  have wf := inv.wellFormed
  have origin := step_tasks moves wf.ids taken'
  have before : ∀ task, w.tasks ticket = some task → w.Owns task :=
    fun _ taken => origin.owned_before moves wf owns' taken
  rcases step_rows moves wf.ids member' with ⟨row, member, change⟩ | new
  · have own : row.id = task'.job.id := by rw [← change.id, own']
    cases origin with
    | opened claims newTicket found running oldMember claimable written =>
        have same := eq_of_key_eq (step_ids moves wf) written member' own'.symm
        subst same
        exact ⟨rfl, rfl, rfl⟩
    | @kept task reclaimed superseded taken idle keeps loses swept supersedes =>
        have has : task.Possesses row' := by
          refine possesses_kept inv fresh taken (before task taken) idle ?_ member own change
          intro sweeps loses
          exact absurd (swept sweeps loses) (by simpa using owns'.2)
        exact ⟨has.owner, has.fits⟩
    | @dispatched task worker dispatches taken pending =>
        have has : task.Possesses row' := by
          refine possesses_kept inv fresh taken (before task taken) ?_ ?_ member own change
          · intro response
            rw [dispatches]
            simp
          · rw [dispatches]
            simp
        have fits := has.fits
        rw [pending] at fits
        exact ⟨has.owner, Pc.matches_entry fits⟩
    | @advanced task response engine pc event executes taken found permitted advances =>
        subst executes
        exact possesses_advanced inv taken (before task taken) advances owns'.1.1 member own change
  · exact absurd own' (new.ne_task wf origin)

/-- Two owners of one job after the step are the same execution. -/
theorem step_unique (moves : Moves cron w a w') (inv : Exclusive w) {first second : Nat}
    {firstTask secondTask : Task} (firstTaken : w'.tasks first = some firstTask)
    (secondTaken : w'.tasks second = some secondTask) (firstOwns : w'.Owns firstTask)
    (secondOwns : w'.Owns secondTask) (same : firstTask.job.id = secondTask.job.id) :
    first = second := by
  have wf := inv.wellFormed
  rcases (step_tasks moves wf.ids firstTaken).owner moves wf firstOwns with
    ⟨_, _, _, claims, firstNew, row, member, own, _, claimable⟩ |
    ⟨task, taken, owns, job, _⟩ <;>
  rcases (step_tasks moves wf.ids secondTaken).owner moves wf secondOwns with
    ⟨_, _, _, _, secondNew, row', member', own', _, claimable'⟩ |
    ⟨task', taken', owns', job', _⟩
  · exact opened_unique moves wf claims firstTaken secondTaken firstNew secondNew same
  · -- a claimed row is not owned by an older task
    have has := inv.possesses second task' taken' owns' row member (by rw [own, same, job'])
    exact absurd claimable (has.not_claimable owns'.1.1)
  · have has := inv.possesses first task taken owns row' member' (by rw [own', ← same, job])
    exact absurd claimable' (has.not_claimable owns.1.1)
  · exact inv.unique first second task task' taken taken' owns owns' (by rw [job, job', same])

/-- **Exclusive ownership is preserved by every step without a stale write.** -/
theorem exclusive_step (moves : Moves cron w a w') (fresh : NoStaleWrite w a)
    (inv : Exclusive w) : Exclusive w' where
  referential := referential_step moves inv.referential
  possesses _ _ taken' owns' _ member' own' :=
    step_possesses moves fresh inv taken' owns' member' own'
  unique _ _ _ _ firstTaken secondTaken firstOwns secondOwns same :=
    step_unique moves inv firstTaken secondTaken firstOwns secondOwns same

/-! ## Timely runs -/

/-- In a timely run every held job is owned. -/
structure Undisturbed (w : World) : Prop where
  exclusive : Exclusive w
  current : ∀ ticket task, w.tasks ticket = some task → w.Holds task → task.reclaimed = false

theorem Undisturbed.owns (inv : Undisturbed w) {ticket : Nat} {task : Task}
    (taken : w.tasks ticket = some task) (holds : w.Holds task) : w.Owns task :=
  ⟨holds, inv.current ticket task taken holds⟩

theorem Undisturbed.possesses (inv : Undisturbed w) {ticket : Nat} {task : Task}
    (taken : w.tasks ticket = some task) (holds : w.Holds task) {row : Job}
    (member : row ∈ w.db.jobs) (own : row.id = task.job.id) : task.Possesses row :=
  inv.exclusive.possesses ticket task taken (inv.owns taken holds) row member own

/-- The row of a successful write bears the writer's id and a status of the writer's. -/
theorem Undisturbed.writer_possesses (inv : Undisturbed w) {ticket : Nat} {task : Task}
    {rewrite : Job → Job} (taken : w.tasks ticket = some task) (live : w.Live task.worker)
    (writes : task.pc.rewrite w.now task.job = some rewrite) {row : Job}
    (member : row ∈ w.db.jobs) (own : row.id = task.job.id) : task.Possesses row :=
  inv.possesses taken ⟨Pc.holds_of_rewrite writes, live⟩ member own

theorem undisturbed_start (now : Timestamptz) (policies : List RetryPolicy) :
    Undisturbed (World.start now policies) where
  exclusive := exclusive_start now policies
  current _ _ taken := by cases taken

/-- In a timely run no execution writes on a claim that was taken back. -/
theorem Undisturbed.noStaleWrite (inv : Undisturbed w) (moves : Moves cron w a w') :
    NoStaleWrite w a := by
  cases moves with
  | exec ticket response task engine db pc event taken found alive permitted advances =>
      cases response with
      | call succeeds draw =>
          cases succeeds with
          | false => trivial
          | true =>
              intro task' taken' writes
              rw [taken] at taken'
              cases taken'
              obtain ⟨rewrite, writes⟩ := Option.ne_none_iff_exists'.mp writes
              refine inv.current ticket task taken ⟨Pc.holds_of_rewrite writes, ?_⟩
              exact ⟨engine, found, permitted draw rfl⟩
      | starts => trivial
      | returns => trivial
  | _ => trivial

/-- A timely sweep takes no claim of a held job. -/
theorem keepsClaim_of_timely (timely : Timely w .sweep) {ticket : Nat} {task : Task}
    (taken : w.tasks ticket = some task) (holds : w.Holds task) : ¬ w.LosesClaim task := by
  rintro ⟨row, member, own, _, orphaned⟩
  exact timely ticket task taken holds row member own orphaned

/-- **A timely step disturbs no holder.** -/
theorem undisturbed_step (moves : Moves cron w a w') (timely : Timely w a)
    (inv : Undisturbed w) : Undisturbed w' where
  exclusive := exclusive_step moves (inv.noStaleWrite moves) inv.exclusive
  current ticket task' taken' holds' := by
    have wf := inv.exclusive.wellFormed
    obtain ⟨held', live'⟩ := holds'
    cases step_tasks moves wf.ids taken' with
    | opened => rfl
    | @kept task reclaimed superseded taken idle keeps loses swept supersedes =>
        have holds : w.Holds task := ⟨held', live_before moves wf taken live'⟩
        cases flag : reclaimed with
        | false => rfl
        | true =>
            rcases loses flag with before | ⟨rfl, lost⟩
            · rw [inv.current ticket task taken holds] at before
              cases before
            · exact absurd lost (keepsClaim_of_timely timely taken holds)
    | @dispatched task worker dispatches taken pending =>
        have held : task.pc.holds = true := by
          rw [pending]
          rfl
        exact inv.current ticket task taken ⟨held, live_before moves wf taken live'⟩
    | @advanced task response engine pc event executes taken found permitted advances =>
        have held := (advance_next advances).holds held'
        exact inv.current ticket task taken ⟨held, live_before moves wf taken live'⟩

end World

section Runs

variable {cron : CronParser} {trace : List (World × Action)} {w : World}

/-- Owners are exclusive in every state of a run without stale writes. -/
theorem exclusive_throughout (run : Run (scheduler cron) trace w)
    (fresh : Meets NoStaleWrite trace) : Throughout Exclusive trace w := by
  refine run.throughout fresh ?_ ?_
  · rintro s ⟨now, policies, rfl⟩
    exact World.exclusive_start now policies
  · intro s a s' taken fresh inv
    exact World.exclusive_step (World.step_moves taken) fresh inv

/-- The holders of a timely run are undisturbed in every state. -/
theorem undisturbed_throughout (run : Run (scheduler cron) trace w) (timely : Meets Timely trace) :
    Throughout World.Undisturbed trace w := by
  refine run.throughout timely ?_ ?_
  · rintro s ⟨now, policies, rfl⟩
    exact World.undisturbed_start now policies
  · intro s a s' taken timely inv
    exact World.undisturbed_step (World.step_moves taken) timely inv

/-- Timely runs have no stale writes. -/
theorem noStaleWrite_of_timely (run : Run (scheduler cron) trace w)
    (timely : Meets Timely trace) : Meets NoStaleWrite trace := by
  rintro ⟨s, a⟩ member
  have inv := (undisturbed_throughout run timely).1 _ member
  obtain ⟨_, _, _, s', taken⟩ := run.before member
  exact inv.noStaleWrite (World.step_moves taken)

/-- Sweeps that find nothing to reclaim are timely. -/
theorem timely_of_idle_sweeps
    (idle : ∀ entry ∈ trace, entry.2.isSweep → ∀ row ∈ entry.1.db.jobs,
      ¬ row.Orphaned entry.1.now) : Meets Timely trace := by
  intro entry member
  unfold Timely
  split
  next sweeps =>
    intro _ _ _ _ row rowMember _
    exact idle entry member (by rw [sweeps]; rfl) row rowMember
  · trivial

end Runs

/-! ## Who holds a job -/

/-- Each job is held by at most one execution of a live engine, and the row of a held job,
which is there as long as its queue is, has the worker's id, the status of the program
point and the expected attempts. -/
structure HeldExclusively (expected : Job → Job → Int) (w : World) : Prop where
  unique : ∀ first second firstTask secondTask, w.tasks first = some firstTask →
    w.tasks second = some secondTask → w.Holds firstTask → w.Holds secondTask →
    firstTask.job.id = secondTask.job.id → first = second
  present : ∀ ticket task, w.tasks ticket = some task → w.Holds task →
    w.db.HasQueue task.job.queueId → ∃ row ∈ w.db.jobs, row.id = task.job.id
  owner : ∀ ticket task, w.tasks ticket = some task → w.Holds task →
    ∀ row ∈ w.db.jobs, row.id = task.job.id → row.workerId = some task.worker
  status : ∀ ticket task, w.tasks ticket = some task → w.Holds task →
    ∀ row ∈ w.db.jobs, row.id = task.job.id → row.status = .claimed ∨ row.status = .running ∨
      row.status = .failed ∧ ∃ nextRunAt, task.pc = .requeueForRetry nextRunAt
  attempts : ∀ ticket task, w.tasks ticket = some task → w.Holds task →
    ∀ row ∈ w.db.jobs, row.id = task.job.id → row.attempts = expected task.job row

/-- The attempts of the in-memory copy, and one more from `FailJob` to
`RequeueForRetry`. -/
def countedAttempts (copy row : Job) : Int :=
  if row.status = .failed then copy.attempts + 1 else copy.attempts

/-- A held row is claimed or running with the copy's attempts, or failed with one more. -/
theorem Pc.Matches.counted {job row : Job} {pc : Pc} (fits : pc.Matches job row)
    (held : pc.holds = true) :
    (row.status = .claimed ∨ row.status = .running) ∧ row.attempts = job.attempts ∨
      row.status = .failed ∧ (∃ nextRunAt, pc = .requeueForRetry nextRunAt) ∧
        row.attempts = job.attempts + 1 := by
  cases pc with
  | pending | gate | completeIdempotent | setRunning => exact .inl ⟨.inl fits.1, fits.2⟩
  | requeueForRetry nextRunAt =>
      rcases fits with ⟨running, attempts⟩ | ⟨failed, attempts⟩
      · exact .inl ⟨.inr running, attempts⟩
      · exact .inr ⟨failed, ⟨nextRunAt, rfl⟩, attempts⟩
  | logCompleted | recordCompleted | returned => cases held
  | _ => exact .inl ⟨.inr fits.1, fits.2⟩

theorem World.Undisturbed.heldExclusively {w : World} (inv : w.Undisturbed) :
    HeldExclusively countedAttempts w where
  unique first second firstTask secondTask firstTaken secondTaken firstHolds secondHolds same :=
    inv.exclusive.unique first second firstTask secondTask firstTaken secondTaken
      (inv.owns firstTaken firstHolds) (inv.owns secondTaken secondHolds) same
  present ticket task taken _ queue := inv.exclusive.referential.present ticket task taken queue
  owner ticket task taken holds row member own :=
    (inv.possesses taken holds member own).owner
  status ticket task taken holds row member own := by
    have has := inv.possesses taken holds member own
    rcases has.fits.counted holds.1 with ⟨claimed | running, _⟩ | ⟨failed, point, _⟩
    · exact .inl claimed
    · exact .inr (.inl running)
    · exact .inr (.inr ⟨failed, point⟩)
  attempts ticket task taken holds row member own := by
    have has := inv.possesses taken holds member own
    unfold countedAttempts
    rcases has.fits.counted holds.1 with ⟨claimed | running, attempts⟩ | ⟨failed, _, attempts⟩
    · rw [claimed]
      exact attempts
    · rw [running]
      exact attempts
    · rw [failed]
      exact attempts

/-- **Exclusive ownership.** In every state of a timely run each job is held by at most one
execution of a live engine, and its row is that holder's. -/
theorem held_exclusively (cron : CronParser) (trace : List (World × Action)) (w : World)
    (run : Run (scheduler cron) trace w) (timely : Meets Timely trace) :
    Throughout (HeldExclusively countedAttempts) trace w := by
  have all := undisturbed_throughout run timely
  exact ⟨fun entry member => (all.1 entry member).heldExclusively, all.2.heldExclusively⟩

/-- A worker claims a job, its handler fails, and `FailJob` succeeds. -/
def failedAttempt : List Action :=
  Scenario.deployed ++ Scenario.take 5 ++
    ([.exec 0 (.call true 0), .sweep, .exec 0 (.call true 0), .exec 0 .starts,
      .exec 0 (.returns (some "boom")), .exec 0 (.call true 0), .exec 0 (.call true 0),
      .exec 0 (.call true 0)] : List Action)

theorem held_exclusively_failedAttempt :
    ∃ trace w, Run (scheduler Scenario.cron) trace w ∧
      (∃ row ∈ w.db.jobs, row.status = .failed) ∧
      Throughout (HeldExclusively countedAttempts) trace w := by
  obtain ⟨trace, w, run, failed, idle⟩ :=
    exists_run_of_execute (scheduler Scenario.cron) failedAttempt (World.start 0 [])
      (fun trace w => (∃ row ∈ w.db.jobs, row.status = .failed) ∧
        ∀ entry ∈ trace, entry.2.isSweep → ∀ row ∈ entry.1.db.jobs, ¬ row.Orphaned entry.1.now)
      ⟨0, [], rfl⟩ (by decide)
  exact ⟨trace, w, run, failed,
    held_exclusively _ trace w run (timely_of_idle_sweeps idle)⟩

/-- `FailJob` increments the row's attempts and not the copy's: until `RequeueForRetry` the
two differ. -/
theorem attempts_ahead_of_copy :
    ¬ ∀ (cron : CronParser) (trace : List (World × Action)) (w : World),
      Run (scheduler cron) trace w → Meets Timely trace →
      HeldExclusively (fun copy _ => copy.attempts) w := by
  intro always
  obtain ⟨trace, w, run, ⟨task, taken, held, ⟨engine, found, running⟩, row, member, own, ahead⟩,
      idle⟩ :=
    exists_run_of_execute (scheduler Scenario.cron) failedAttempt (World.start 0 [])
      (fun trace w => (∃ task ∈ w.tasks 0, task.pc.holds = true ∧
          (∃ engine ∈ w.engines task.worker, engine.status = .running) ∧
          ∃ row ∈ w.db.jobs, row.id = task.job.id ∧ row.attempts ≠ task.job.attempts) ∧
        ∀ entry ∈ trace, entry.2.isSweep → ∀ row ∈ entry.1.db.jobs, ¬ row.Orphaned entry.1.now)
      ⟨0, [], rfl⟩ (by decide)
  have inv := always _ trace w run (timely_of_idle_sweeps idle)
  exact ahead (inv.attempts 0 task taken ⟨held, engine, found, running⟩ row member own)

end JobScheduler
