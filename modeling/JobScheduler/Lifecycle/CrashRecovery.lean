import JobScheduler.System.WellFormed

/-!
# Crash recovery

A running job whose worker dies is recovered by the reaper, which selects on
`lease_expires_at`. A running row without a lease would never be selected again.

`SetJobRunning` is addressed by job id alone. A worker that stalls past its lease between
the claim and this call finds its row requeued and sets it to running nevertheless, with
no worker and no lease (`running_unleased_reachable`). This is the only way: the running
rows of a run can all be recovered exactly when no `SetJobRunning` of the run hits a row
that nobody owns (`running_recoverable_iff`).
-/

set_option autoImplicit false

namespace JobScheduler

open Relational Transition

/-- The row names its worker and has a lease, and once the lease has passed a sweep
selects it. -/
def Recoverable (db : Database) (row : Job) : Prop :=
  row.workerId ≠ none ∧ ∃ lease, row.leaseExpiresAt = some lease ∧
    ∀ now, lease < now → row.id ∈ (db.requeueOrphanedJobs now).2

/-- Every running row can be recovered. -/
def RunningRecoverable (w : World) : Prop :=
  ∀ row ∈ w.db.jobs, row.status = .running → Recoverable w.db row

/-- A `SetJobRunning` that succeeds finds a row that some worker owns. -/
def RunsOwnedJob (w : World) : Action → Prop
  | .exec ticket (.call true _) => ∀ task, w.tasks ticket = some task → task.pc = .setRunning →
      ∀ row ∈ w.db.jobs, row.id = task.job.id → row.workerId ≠ none
  | _ => True

/-- The invariant behind recovery. -/
structure RunningOwned (w : World) : Prop where
  wellFormed : WellFormed w
  owned : ∀ row ∈ w.db.jobs, row.status = .running → row.workerId ≠ none

namespace RunningOwned

variable {cron : CronParser} {w w' : World} {a : Action}

theorem recoverable (inv : RunningOwned w) : RunningRecoverable w := by
  intro row member running
  have owned := inv.owned row member running
  refine ⟨owned, ?_⟩
  have leased := inv.wellFormed.leased row member
  rw [Option.isSome_iff_ne_none.mpr owned] at leased
  obtain ⟨lease, set⟩ := Option.isSome_iff_exists.mp leased.symm
  refine ⟨lease, set, fun now passed => ?_⟩
  have orphaned : row.Orphaned now := ⟨.inr running, lease, set, passed⟩
  exact List.mem_map.mpr ⟨row, List.mem_filter.mpr ⟨member, decide_eq_true orphaned⟩, rfl⟩

/-- A row becomes running only by `SetJobRunning`. -/
theorem row_step (inv : RunningOwned w) (owns : RunsOwnedJob w a) {row row' : Job}
    (member : row ∈ w.db.jobs) (change : World.RowStep w a row row')
    (running : row'.status = .running) : row'.workerId ≠ none := by
  cases change with
  | kept => exact inv.owned row member running
  | renewed => exact inv.owned row member running
  | @written _ _ task rewrite _ taken live writes own =>
      obtain ⟨point, rfl⟩ := Pc.setRunning_of_rewrite writes (.inr running)
      exact owns task taken point row member own
  | claimed => cases running
  | released => cases running
  | reclaimed => cases running
  | retried => cases running

theorem step (inv : RunningOwned w) (moves : World.Moves cron w a w')
    (owns : RunsOwnedJob w a) : RunningOwned w' where
  wellFormed := World.wellFormed_step moves inv.wellFormed
  owned row' member running := by
    rcases World.step_rows moves inv.wellFormed.ids member with ⟨row, rowMember, change⟩ | new
    · exact inv.row_step owns rowMember change running
    · exact absurd running (new.waiting.status_ne (by decide))

/-- A `SetJobRunning` on a row without a worker leaves a row that cannot be recovered. -/
theorem owns_of_recoverable (moves : World.Moves cron w a w')
    (after : RunningRecoverable w') : RunsOwnedJob w a := by
  cases moves with
  | exec ticket response task engine db pc event taken found alive permitted advances =>
      cases response with
      | call succeeds draw =>
          cases succeeds with
          | false => trivial
          | true =>
              intro task' taken' pc' row member own unowned
              rw [taken] at taken'
              cases taken'
              rw [pc'] at advances
              cases advance_effect advances with
              | spared same missing =>
                  obtain ⟨errMsg, clash, _⟩ := missing draw rfl (by simp [Pc.rewrite])
                  cases clash
              | written writes =>
                  cases writes
                  have set : row.setRunning w.now ∈
                      update (·.id = task.job.id) (Job.setRunning w.now) w.db.jobs :=
                    mem_update_of_selects member own
                  exact (after _ set rfl).1 unowned
      | starts => trivial
      | returns => trivial
  | _ => trivial

end RunningOwned

/-- **Recovery, exactly.** The running rows of a run can all be recovered if and only if no
`SetJobRunning` of the run hits a row without a worker. -/
theorem running_recoverable_iff (cron : CronParser) (trace : List (World × Action)) (w : World)
    (run : Run (scheduler cron) trace w) :
    Throughout RunningRecoverable trace w ↔ Meets RunsOwnedJob trace := by
  refine Run.throughout_iff_meets (fun _ _ => True) RunningOwned run (fun _ _ => trivial)
    ?_ ?_ ?_ ?_
  · rintro s ⟨now, policies, rfl⟩
    exact ⟨World.wellFormed_start now policies, fun _ member => by cases member⟩
  · intro s a s' taken _ owns inv
    exact inv.step (World.step_moves taken) owns
  · exact fun s inv => inv.recoverable
  · intro s a s' taken _ _ after
    exact RunningOwned.owns_of_recoverable (World.step_moves taken) after

/-- A worker claims a job and starts it at once. -/
def promptStart : List Action :=
  Scenario.deployed ++ Scenario.take 5 ++ [.exec 0 (.call true 0)]

theorem running_recoverable_promptStart :
    ∃ trace w, Run (scheduler Scenario.cron) trace w ∧
      (∃ row ∈ w.db.jobs, row.status = .running) ∧ Throughout RunningRecoverable trace w := by
  obtain ⟨trace, w, run, running, owned⟩ :=
    exists_run_of_execute (scheduler Scenario.cron) promptStart (World.start 0 [])
      (fun trace w => (∃ row ∈ w.db.jobs, row.status = .running) ∧
        ∀ entry ∈ trace, entry.2.isExec → ∀ row ∈ entry.1.db.jobs, row.workerId ≠ none)
      ⟨0, [], rfl⟩ (by decide)
  refine ⟨trace, w, run, running, (running_recoverable_iff _ trace w run).mpr ?_⟩
  intro entry member
  unfold RunsOwnedJob
  split
  next ticket draw executes =>
    intro task _ _ row rowMember _
    exact owned entry member (by rw [executes]; rfl) row rowMember
  · trivial

/-- A worker claims a job and stalls past its lease, a sweep requeues the job, and the
worker goes on to `SetJobRunning`. -/
def stalledStart : List Action :=
  Scenario.deployed ++ Scenario.take 5 ++
    ([.tick 31000000, .sweep, .exec 0 (.call true 0)] : List Action)

/-- The stalled worker's job ends up running without a worker and without a lease. -/
theorem running_unleased_reachable :
    ¬ ∀ (cron : CronParser) (trace : List (World × Action)) (w : World),
      Run (scheduler cron) trace w → RunningRecoverable w := by
  intro always
  obtain ⟨trace, w, run, row, member, running, unowned⟩ :=
    exists_run_of_execute (scheduler Scenario.cron) stalledStart (World.start 0 [])
      (fun _ w => ∃ row ∈ w.db.jobs, row.status = .running ∧ row.workerId = none)
      ⟨0, [], rfl⟩ (by decide)
  exact (always _ trace w run row member running).1 unowned

end JobScheduler
