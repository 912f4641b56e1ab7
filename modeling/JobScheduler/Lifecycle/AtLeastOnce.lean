import JobScheduler.System.References

/-!
# At-least-once execution

A job becomes completed after its handler returned nil, or at the idempotency gate, which
completes a job without running it when its key has been completed before. Keys are unique
within a queue, so a hit by a job of the same queue is a hit by the job itself. But
`IsIdempotencyKeyCompleted` looks at the jobs of all queues: a job is completed without
ever having run because of a job of another tenant (`completed_without_execution`).

In runs whose gate hits are all justified by a job of the same queue, every completed job
has been executed.
-/

set_option autoImplicit false

namespace JobScheduler

open Relational Transition

/-- The handler of the job has returned nil at least once. -/
def World.Executed (w : World) (jobId : UUID) : Prop :=
  ∃ worker, Event.handlerReturnedNil jobId worker ∈ w.events

/-- Every completed job has been executed. -/
def AtLeastOnce (w : World) : Prop :=
  ∀ row ∈ w.db.jobs, row.status = .completed → w.Executed row.id

/-- When the idempotency gate finds the key of a job completed, a completed job of the same
queue has the key. -/
def HitsOwnQueue (w : World) : Action → Prop
  | .exec ticket (.call true _) => ∀ task key, w.tasks ticket = some task →
      task.pc = .gate key → w.db.isIdempotencyKeyCompleted key = true →
      ∃ job ∈ w.db.jobs, job.queueId = task.job.queueId ∧ job.idempotencyKey = some key ∧
        job.status = .completed
  | _ => True

/-- The points where `CompleteJob` is called. -/
def Pc.completes : Pc → Bool
  | .completeIdempotent | .complete .. => true
  | _ => false

/-- Completed jobs, and jobs about to be completed, have been executed. -/
structure Delivered (w : World) : Prop where
  referential : Referential w
  rows : AtLeastOnce w
  tasks : ∀ ticket task, w.tasks ticket = some task → task.pc.completes = true →
    w.Executed task.job.id

/-- Only `CompleteJob` sets the status to completed. -/
theorem Pc.completes_of_rewrite {now : Timestamptz} {job row : Job} {pc : Pc}
    {rewrite : Job → Job} (writes : pc.rewrite now job = some rewrite)
    (completed : (rewrite row).status = .completed) : pc.completes = true := by
  cases pc with
  | completeIdempotent | complete => rfl
  | _ => cases writes <;> cases completed

namespace World

variable {cron : CronParser} {w w' : World} {a : Action}

theorem executed_mono (moves : Moves cron w a w') {jobId : UUID} (executed : w.Executed jobId) :
    w'.Executed jobId := by
  obtain ⟨worker, member⟩ := executed
  exact ⟨worker, events_mono moves member⟩

theorem delivered_start (now : Timestamptz) (policies : List RetryPolicy) :
    Delivered (World.start now policies) where
  referential := referential_start now policies
  rows _ member := by cases member
  tasks _ _ taken := by cases taken

/-- A completed job of the task's queue with the task's key is the task's own job. -/
theorem executed_of_own_queue (inv : Delivered w) {ticket : Nat} {task : Task} {key : String}
    (taken : w.tasks ticket = some task) (point : task.pc = .gate key) {job : Job}
    (member : job ∈ w.db.jobs) (queue : job.queueId = task.job.queueId)
    (keyed : job.idempotencyKey = some key) (completed : job.status = .completed) :
    w.Executed task.job.id := by
  have wf := inv.referential.wellFormed
  have placed := inv.referential.placed job member
  rw [queue] at placed
  obtain ⟨row, rowMember, own⟩ := inv.referential.present ticket task taken placed
  have fixed := wf.copies ticket task taken row rowMember own
  have planned := wf.planned ticket task taken
  rw [point] at planned
  have sameKey : job.idempotencyKey = row.idempotencyKey := by
    rw [keyed, Job.idempotencyKey_eq_of_fixed fixed, planned]
  have sameQueue : job.queueId = row.queueId := by
    rw [queue, Job.queueId_eq_of_fixed fixed]
  have keyed' : job.idempotencyKey.isSome := by
    rw [keyed]
    rfl
  have same := inv.referential.keys job member row rowMember sameQueue keyed' sameKey
  rw [← own, ← same]
  exact inv.rows job member completed

theorem step_executed_row (moves : Moves cron w a w') (inv : Delivered w) {row' : Job}
    (member' : row' ∈ w'.db.jobs) (completed : row'.status = .completed) :
    w'.Executed row'.id := by
  refine executed_mono moves ?_
  rcases step_rows moves inv.referential.wellFormed.ids member' with
    ⟨row, member, change⟩ | new
  · cases change with
    | kept => exact inv.rows row' member completed
    | @written ticket _ task rewrite _ taken _ writes own =>
        have executed := inv.tasks ticket task taken (Pc.completes_of_rewrite writes completed)
        rw [Job.id_eq_of_fixed (Pc.fixed_rewrite writes), own]
        exact executed
    | renewed =>
        have executed := inv.rows row member completed
        exact executed
    | claimed => cases completed
    | released => cases completed
    | reclaimed => cases completed
    | retried => cases completed
  · exact absurd completed (new.waiting.status_ne (by decide))

theorem step_executed_task (moves : Moves cron w a w') (hits : HitsOwnQueue w a)
    (inv : Delivered w) {ticket : Nat} {task' : Task} (taken' : w'.tasks ticket = some task')
    (completes : task'.pc.completes = true) : w'.Executed task'.job.id := by
  cases step_tasks moves inv.referential.wellFormed.ids taken' with
  | opened => cases completes
  | kept taken =>
      have executed := inv.tasks _ _ taken completes
      exact executed_mono moves executed
  | @dispatched task =>
      replace completes : (Pc.entry task.job).completes = true := completes
      unfold Pc.entry at completes
      split at completes <;> cases completes
  | @advanced task response engine pc event executes taken found permitted advances recorded =>
      have next := advance_next advances
      generalize point : task.pc = before at next
      cases next with
      | gateHit done =>
          subst executes
          obtain ⟨job, member, queue, keyed, completed⟩ := hits task _ taken point done
          have executed := executed_of_own_queue inv taken point member queue keyed completed
          exact executed_mono moves executed
      | succeeded =>
          refine ⟨task.worker, ?_⟩
          rw [recorded]
          exact List.mem_append_left _ (List.mem_singleton_self _)
      | _ => cases completes

/-- **Delivery is kept** by every step whose gate hit, if any, is by a job of the same
queue. -/
theorem delivered_step (moves : Moves cron w a w') (hits : HitsOwnQueue w a)
    (inv : Delivered w) : Delivered w' where
  referential := referential_step moves inv.referential
  rows _ member' completed := step_executed_row moves inv member' completed
  tasks _ _ taken' completes := step_executed_task moves hits inv taken' completes

end World

/-- **At-least-once execution.** In a run whose gate hits are all by jobs of the same queue,
every completed job has been executed. -/
theorem completed_executed (cron : CronParser) (trace : List (World × Action)) (w : World)
    (run : Run (scheduler cron) trace w) (hits : Meets HitsOwnQueue trace) :
    Throughout AtLeastOnce trace w := by
  have all : Throughout Delivered trace w := by
    refine run.throughout hits ?_ ?_
    · rintro s ⟨now, policies, rfl⟩
      exact World.delivered_start now policies
    · intro s a s' taken hits inv
      exact World.delivered_step (World.step_moves taken) hits inv
  exact ⟨fun entry member => (all.1 entry member).rows, all.2.rows⟩

/-- The job whose handler returned nil, if that is the event. -/
def Event.returnedNil? : Event → Option UUID
  | .handlerReturnedNil jobId _ => some jobId
  | _ => none

/-- Two organizations, each with a queue and a job; both jobs have the key `nightly`. -/
def twoTenants : List Action :=
  [.api (.createOrg 1 "org" "org"), .api (.createProject 2 1 "project" "project" none),
    .api (.createQueue (Scenario.queue 3)),
    .api (.createJob 4 (Scenario.request (some "nightly")) (Scenario.queue 3)),
    .api (.createOrg 6 "other" "other"), .api (.createProject 7 6 "project" "project" none),
    .api (.createQueue { Scenario.queue 8 with projectId := 7 }),
    .api (.createJob 9 (Scenario.request (some "nightly"))
      { Scenario.queue 8 with projectId := 7 }),
    .register 5 Scenario.config]

/-- A worker executes the job of the first organization. -/
def firstTenant : List Action :=
  twoTenants ++ Scenario.take 5 ++
    ([.exec 0 (.call true 0), .exec 0 (.call true 0), .exec 0 (.call true 0), .exec 0 .starts,
      .exec 0 (.returns none), .exec 0 (.call true 0)] : List Action)

theorem completed_executed_firstTenant :
    ∃ trace w, Run (scheduler Scenario.cron) trace w ∧
      (∃ row ∈ w.db.jobs, row.id = 4 ∧ row.status = .completed) ∧
      Throughout AtLeastOnce trace w := by
  obtain ⟨trace, w, run, completed, unhit⟩ :=
    exists_run_of_execute (scheduler Scenario.cron) firstTenant (World.start 0 [])
      (fun trace w => (∃ row ∈ w.db.jobs, row.id = 4 ∧ row.status = .completed) ∧
        ∀ entry ∈ trace, ∀ row ∈ entry.1.db.jobs, row.status ≠ .completed)
      ⟨0, [], rfl⟩ (by decide)
  refine ⟨trace, w, run, completed, completed_executed _ trace w run ?_⟩
  intro entry member
  unfold HitsOwnQueue
  split
  · intro task key _ _ done
    obtain ⟨job, jobMember, _, jobCompleted⟩ :=
      entry.1.db.isIdempotencyKeyCompleted_iff.mp done
    exact absurd jobCompleted (unhit entry member job jobMember)
  · trivial

/-- The worker goes on with the job of the second organization. -/
def secondTenant : List Action :=
  firstTenant ++
    ([.proceed 5, .claim 5 (fun _ => 0) (fun _ => 0) true, .dispatch 5, .exec 1 (.call true 0),
      .exec 1 (.call true 0)] : List Action)

/-- The job of the second organization is completed without a run of its handler. -/
theorem completed_without_execution :
    ¬ ∀ (cron : CronParser) (trace : List (World × Action)) (w : World),
      Run (scheduler cron) trace w → AtLeastOnce w := by
  intro always
  obtain ⟨trace, w, run, row, member, completed, unexecuted⟩ :=
    exists_run_of_execute (scheduler Scenario.cron) secondTenant (World.start 0 [])
      (fun _ w => ∃ row ∈ w.db.jobs, row.status = .completed ∧
        ∀ event ∈ w.events, event.returnedNil? ≠ some row.id)
      ⟨0, [], rfl⟩ (by decide)
  obtain ⟨worker, recorded⟩ := always _ trace w run row member completed
  exact unexecuted _ recorded rfl

end JobScheduler
