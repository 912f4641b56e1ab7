import JobScheduler.Lifecycle.Ownership

/-!
# Completed jobs and former owners

Nothing in the writes of `executeJob` and `handleFailure` stops a worker that outlived its
lease: the `UPDATE`s select by job id. A worker whose job was reclaimed, claimed by another
worker and completed there overwrites the completed row when it comes back
(`completed_overwritten`). As long as no such `UPDATE` of an execution that lost its claim goes
through, completed jobs stay completed and a former owner changes nothing, although engines stall
and sweeps reclaim their jobs.
-/

set_option autoImplicit false

namespace JobScheduler

open Relational Transition

/-- The step leaves completed jobs completed. -/
def KeepsCompleted (cron : CronParser) (w : World) (a : Action) : Prop :=
  ∀ w', w.step cron a = some w' → ∀ row ∈ w.db.jobs, row.status = .completed →
    ∀ row' ∈ w'.db.jobs, row'.id = row.id → row'.status = .completed

/-- The step does not change the row of a job on behalf of an execution whose claim a sweep
took back and another engine has claimed since. -/
def IgnoresFormerOwner (cron : CronParser) (w : World) (a : Action) : Prop :=
  ∀ w', w.step cron a = some w' → ∀ ticket response, a = .exec ticket response →
    ∀ task, w.tasks ticket = some task → task.superseded = true →
    ∀ row ∈ w.db.jobs, row.id = task.job.id → ∀ row' ∈ w'.db.jobs, row'.id = row.id → row' = row

namespace World

variable {cron : CronParser} {w w' : World} {a : Action}

/-- No treatment of a completed row is left when writers own their jobs. -/
theorem RowStep.completed (inv : Exclusive w) (fresh : NoStaleWrite w a) {row row' : Job}
    (member : row ∈ w.db.jobs) (change : RowStep w a row row')
    (completed : row.status = .completed) : row'.status = .completed := by
  cases change with
  | kept => exact completed
  | claimed _ _ claimable =>
      rw [claimable.2.1] at completed
      cases completed
  | @written ticket _ task rewrite _ taken live writes own =>
      have owns := writer_owns fresh taken live writes
      have has := inv.possesses ticket task taken owns row member own
      exact absurd completed (has.fits.status_ne owns.1.1 (by decide))
  | renewed => exact completed
  | released _ _ releases =>
      rw [releases.2] at completed
      cases completed
  | reclaimed orphaned =>
      exact absurd completed (orphaned.1.ne (by decide))
  | retried dead =>
      rw [dead] at completed
      cases completed

theorem Exclusive.keepsCompleted (inv : Exclusive w) (fresh : NoStaleWrite w a) :
    KeepsCompleted cron w a := by
  intro w' taken row member completed row' member' same
  have change := step_row (step_moves taken) inv.wellFormed member member' same
  exact change.completed inv fresh member completed

theorem Exclusive.ignoresFormerOwner (inv : Exclusive w) (fresh : NoStaleWrite w a) :
    IgnoresFormerOwner cron w a := by
  intro w' steps ticket response executes task taken superseded row member own row' member' same
  have wf := inv.wellFormed
  have change := step_row (step_moves steps) wf member member' same
  subst executes
  cases change with
  | kept => rfl
  | @written _ _ writer rewrite _ taken' live writes own' =>
      rw [taken] at taken'
      cases taken'
      have current := (writer_owns fresh taken live writes).2
      rw [wf.lost ticket task taken superseded] at current
      cases current

end World

/-- **Completed is terminal and former owners are silent** along every run in which no execution
writes on a claim that a sweep took back. -/
theorem completed_terminal (cron : CronParser) (trace : List (World × Action)) (w : World)
    (run : Run (scheduler cron) trace w) (fresh : Meets NoStaleWrite trace) :
    Meets (fun s a => KeepsCompleted cron s a ∧ IgnoresFormerOwner cron s a) trace := by
  rintro ⟨s, a⟩ member
  have inv := (exclusive_throughout run fresh).1 _ member
  have current := fresh _ member
  exact ⟨World.Exclusive.keepsCompleted inv current, World.Exclusive.ignoresFormerOwner inv current⟩

/-- Worker `5` stalls in its handler past its lease. A sweep requeues the job, and worker `6` claims
and starts it. Worker `5` comes back with a handler error and records it, but its `FailJob` and its
`RequeueForRetry` do not reach the database. Then worker `6` completes the job. -/
def formerOwnerReturns : List Action :=
  Scenario.deployed ++ Scenario.take 5 ++
    ([.exec 0 (.call true 0), .exec 0 (.call true 0), .exec 0 .starts, .tick 31000000, .sweep,
      .register 6 Scenario.config] : List Action) ++ Scenario.take 6 ++
    ([.exec 1 (.call true 0), .exec 1 (.call true 0), .exec 1 .starts,
      .exec 0 (.returns (some "timeout")), .exec 0 (.call true 0), .exec 0 (.call true 0),
      .exec 1 (.returns none), .exec 1 (.call true 0), .exec 0 (.call false 0),
      .exec 0 (.call false 0)] : List Action)

theorem completed_terminal_formerOwnerReturns :
    ∃ trace w, Run (scheduler Scenario.cron) trace w ∧
      (∃ task ∈ w.tasks 0, task.superseded = true) ∧
      (∃ row ∈ w.db.jobs, row.status = .completed ∧ row.workerId = some 6) ∧
      Meets (fun s a => KeepsCompleted Scenario.cron s a ∧
        IgnoresFormerOwner Scenario.cron s a) trace := by
  obtain ⟨trace, w, run, superseded, completed, fresh⟩ :=
    exists_run_of_execute (scheduler Scenario.cron) formerOwnerReturns (World.start 0 [])
      (fun trace w => (∃ task ∈ w.tasks 0, task.superseded = true) ∧
        (∃ row ∈ w.db.jobs, row.status = .completed ∧ row.workerId = some 6) ∧
        ∀ entry ∈ trace, NoStaleWrite entry.1 entry.2)
      ⟨0, [], rfl⟩ (by decide)
  exact ⟨trace, w, run, superseded, completed, completed_terminal _ trace w run fresh⟩

/-- Worker `5` stalls in its handler past its lease. A sweep requeues the job, worker `6`
claims and completes it, and worker `5` comes back with a handler error. -/
def lateFailure : List Action :=
  Scenario.deployed ++ Scenario.take 5 ++
    ([.exec 0 (.call true 0), .exec 0 (.call true 0), .exec 0 .starts, .tick 31000000, .sweep,
      .register 6 Scenario.config] : List Action) ++ Scenario.take 6 ++
    ([.exec 1 (.call true 0), .exec 1 (.call true 0), .exec 1 .starts, .exec 1 (.returns none),
      .exec 1 (.call true 0), .exec 0 (.returns (some "timeout")), .exec 0 (.call true 0),
      .exec 0 (.call true 0), .exec 0 (.call true 0)] : List Action)

/-- The `FailJob` of the former owner turns a completed job into a failed one. -/
theorem completed_overwritten :
    ¬ ∀ (cron : CronParser) (trace : List (World × Action)) (w : World),
      Run (scheduler cron) trace w →
      Meets (fun s a => KeepsCompleted cron s a ∧ IgnoresFormerOwner cron s a) trace := by
  intro always
  obtain ⟨trace, w, run, entry, last, row, member, completed, row', member', same, changed⟩ :=
    exists_run_of_execute (scheduler Scenario.cron) lateFailure (World.start 0 [])
      (fun trace w => ∃ entry ∈ trace.head?, ∃ row ∈ entry.1.db.jobs,
        row.status = .completed ∧ ∃ row' ∈ w.db.jobs, row'.id = row.id ∧
          row'.status ≠ .completed)
      ⟨0, [], rfl⟩ (by decide)
  have keeps := (always _ trace w run entry (List.mem_of_mem_head? last)).1
  cases run with
  | start => cases last
  | next a previous taken =>
      cases last
      exact changed (keeps w taken row member completed row' member' same)

end JobScheduler
