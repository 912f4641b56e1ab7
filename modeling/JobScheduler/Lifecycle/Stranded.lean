import JobScheduler.Lifecycle.CrashRecovery
import JobScheduler.Lifecycle.Ownership

/-!
# Stranded jobs

`executeJob` and `handleFailure` issue their store calls one by one, and each is a point to
crash at or to fail. Every status they can leave behind is acted on by a later claim or
sweep, except one: `FailJob` sets the status to failed, and only the `RequeueForRetry` of
the same execution gets the job out of it. A timely run strands no job exactly when none of
its engines stops, and none of its `RequeueForRetry` calls fails, in between
(`unstranded_iff`).
-/

set_option autoImplicit false

namespace JobScheduler

open Relational Transition

/-- Some execution of a live engine holds the job. -/
def World.HasHolder (w : World) (jobId : UUID) : Prop :=
  ∃ ticket task, w.tasks ticket = some task ∧ w.Holds task ∧ task.job.id = jobId

/-- Every job that nobody holds is finished, waits for a claim, or has a lease for the
reaper to act on. -/
def Unstranded (w : World) : Prop :=
  ∀ row ∈ w.db.jobs, ¬ w.HasHolder row.id → row.status ≠ .completed →
    row.status ≠ .deadLetter →
    row.status = .queued ∨ row.status = .scheduled ∨
      row.status.Active ∧ row.leaseExpiresAt ≠ none

/-- The rows of the jobs that an engine holds are not failed. -/
def World.HoldsUnfailed (w : World) (worker : UUID) : Prop :=
  ∀ ticket task, w.tasks ticket = some task → w.Holds task → task.worker = worker →
    ∀ row ∈ w.db.jobs, row.id = task.job.id → row.status ≠ .failed

/-- No engine stops, and no `RequeueForRetry` of a live engine fails, while the row of the
job at stake is failed. -/
def LeavesNoneFailed (w : World) : Action → Prop
  | .crash worker => w.HoldsUnfailed worker
  | .cancel worker => w.HoldsUnfailed worker
  | .exec ticket (.call false _) => ∀ task nextRunAt, w.tasks ticket = some task →
      w.Live task.worker → task.pc = .requeueForRetry nextRunAt →
      ∀ row ∈ w.db.jobs, row.id = task.job.id → row.status ≠ .failed
  | _ => True

/-- The invariant: failed rows are held, running rows are owned. -/
structure Recovering (w : World) : Prop where
  undisturbed : w.Undisturbed
  running : RunningOwned w
  failed : ∀ row ∈ w.db.jobs, row.status = .failed → w.HasHolder row.id

namespace World

variable {cron : CronParser} {w w' : World} {a : Action}

/-- In a timely run `SetJobRunning` finds the worker's own row. -/
theorem Undisturbed.runsOwnedJob (inv : Undisturbed w) (moves : Moves cron w a w') :
    RunsOwnedJob w a := by
  cases moves with
  | exec ticket response task engine db pc event taken found alive permitted advances =>
      cases response with
      | call succeeds draw =>
          cases succeeds with
          | false => trivial
          | true =>
              intro task' taken' starts row member own
              rw [taken] at taken'
              cases taken'
              have live : w.Live task.worker := ⟨engine, found, permitted draw rfl⟩
              have holds : w.Holds task := ⟨by rw [starts]; rfl, live⟩
              rw [(inv.possesses taken holds member own).owner]
              exact Option.some_ne_none _
      | starts => trivial
      | returns => trivial
  | _ => trivial

/-- The holder of a failed row is between `FailJob` and `RequeueForRetry`. -/
theorem Undisturbed.requeues (inv : Undisturbed w) {ticket : Nat} {task : Task}
    (taken : w.tasks ticket = some task) (holds : w.Holds task) {row : Job}
    (member : row ∈ w.db.jobs) (own : row.id = task.job.id) (failed : row.status = .failed) :
    ∃ nextRunAt, task.pc = .requeueForRetry nextRunAt := by
  have has := inv.possesses taken holds member own
  rcases has.fits.counted holds.1 with ⟨claimed | running, _⟩ | ⟨_, point, _⟩
  · rw [failed] at claimed
    cases claimed
  · rw [failed] at running
    cases running
  · exact point

/-- The holder of a failed row that a step spares holds it afterwards. -/
theorem holder_after (moves : Moves cron w a w') (inv : Undisturbed w)
    (leaves : LeavesNoneFailed w a) {row : Job} (member : row ∈ w.db.jobs)
    (failed : row.status = .failed) (spared : w.Spares row a) (holder : w.HasHolder row.id) :
    w'.HasHolder row.id := by
  obtain ⟨ticket, task, taken, holds, own⟩ := holder
  obtain ⟨nextRunAt, point⟩ := inv.requeues taken holds member own.symm failed
  have live : w'.Live task.worker := by
    refine live_after moves holds.2 ⟨?_, ?_⟩
    · rintro rfl
      exact leaves ticket task taken holds rfl row member own.symm failed
    · rintro rfl
      exact leaves ticket task taken holds rfl row member own.symm failed
  have old := ticket_lt inv.exclusive.wellFormed taken
  rcases task_after moves old taken with ⟨task', taken', job, worker, counter, _⟩ | returned
  · refine ⟨ticket, task', taken', ⟨?_, by rw [worker]; exact live⟩, by rw [job, own]⟩
    generalize task'.pc = pc' at counter
    cases counter with
    | kept => exact holds.1
    | dispatched => exact Pc.holds_entry _
    | @advanced response engine pc event executes found permitted advances =>
        -- a success would have rewritten the row, a failure is excluded
        subst executes
        have next := advance_next advances
        rw [point] at next
        cases next with
        | @requeued _ succeeds draw =>
            cases succeeds with
            | false =>
                exact absurd failed
                  (leaves task nextRunAt taken holds.2 point row member own.symm)
            | true =>
                obtain ⟨errMsg, clash, _⟩ :=
                  spared task taken own.symm (by rw [point]; simp [Pc.rewrite])
                rw [point] at clash
                cases clash
  · rw [point] at returned
    cases returned

/-- Failed rows stay held. -/
theorem step_failed (moves : Moves cron w a w') (inv : Recovering w)
    (leaves : LeavesNoneFailed w a) {row' : Job} (member' : row' ∈ w'.db.jobs)
    (failed : row'.status = .failed) : w'.HasHolder row'.id := by
  have wf := inv.undisturbed.exclusive.wellFormed
  rcases step_rows moves wf.ids member' with ⟨row, member, change⟩ | new
  · cases change with
    | kept spared =>
        exact holder_after moves inv.undisturbed leaves member failed spared
          (inv.failed row' member failed)
    | @written ticket draw task rewrite _ taken live writes own =>
        have held := Pc.holds_of_rewrite writes
        cases pc : task.pc with
        | failJob errMsg nextRunAt =>
            rw [pc] at writes
            cases writes
            have old := ticket_lt wf taken
            rcases task_after moves old taken with
              ⟨task', taken', job, worker, counter, _⟩ | returned
            · have live' := live_after moves live ⟨by simp, by simp⟩
              refine ⟨ticket, task', taken', ⟨?_, by rw [worker]; exact live'⟩, ?_⟩
              · generalize task'.pc = pc' at counter
                cases counter with
                | kept idle => exact absurd rfl (idle _)
                | dispatched => exact Pc.holds_entry _
                | advanced executes found permitted advances =>
                    have next := advance_next advances
                    rw [pc] at next
                    cases next
                    rfl
              · rw [job]
                exact own.symm
            · rw [pc] at returned
              cases returned
        | _ =>
            rw [pc] at writes
            cases writes <;> cases failed
    | renewed _ _ renews =>
        have unfailed : row.status ≠ .failed := renews.2.ne (by decide)
        exact absurd failed unfailed
    | claimed => cases failed
    | released => cases failed
    | reclaimed => cases failed
    | retried => cases failed
  · exact absurd failed (new.waiting.status_ne (by decide))

/-- **Failed rows stay held** in every timely step that leaves none behind. -/
theorem recovering_step (moves : Moves cron w a w') (timely : Timely w a)
    (leaves : LeavesNoneFailed w a) (inv : Recovering w) : Recovering w' where
  undisturbed := undisturbed_step moves timely inv.undisturbed
  running := inv.running.step moves (inv.undisturbed.runsOwnedJob moves)
  failed _ member' failed := step_failed moves inv leaves member' failed

theorem unstranded_of_recovering (inv : Recovering w) : Unstranded w := by
  intro row member unheld incomplete alive
  have wf := inv.undisturbed.exclusive.wellFormed
  have leased : row.workerId.isSome → row.leaseExpiresAt ≠ none := by
    intro owned
    rw [wf.leased row member] at owned
    exact Option.isSome_iff_ne_none.mp owned
  cases status : row.status with
  | queued => exact .inl rfl
  | scheduled => exact .inr (.inl rfl)
  | claimed => exact .inr (.inr ⟨.inl rfl, leased (wf.claimed row member status)⟩)
  | running =>
      have owned := inv.running.owned row member status
      exact .inr (.inr ⟨.inr rfl, leased (Option.isSome_iff_ne_none.mpr owned)⟩)
  | completed => exact absurd status incomplete
  | deadLetter => exact absurd status alive
  | failed => exact absurd (inv.failed row member status) unheld

/-- A failed row that loses its holder is stranded. -/
theorem stranded_of_lost (moves : Moves cron w a w') (inv : Undisturbed w)
    (inv' : Undisturbed w') (after : Unstranded w') {ticket : Nat} {task : Task}
    (taken : w.tasks ticket = some task) (holds : w.Holds task) {row : Job}
    (own : row.id = task.job.id) (failed : row.status = .failed) (member' : row ∈ w'.db.jobs)
    (noClaim : ∀ worker tie emit, a ≠ .claim worker tie emit true)
    (lost : ∀ task', w'.tasks ticket = some task' → ¬ w'.Holds task') : False := by
  have unheld : ¬ w'.HasHolder row.id := by
    rintro ⟨other, task', taken', holds', own'⟩
    have wf := inv.exclusive.wellFormed
    have origin := step_tasks moves wf.ids taken'
    rcases origin.owner moves wf (inv'.owns taken' holds') with
      ⟨_, _, _, claims, _⟩ | ⟨task₀, taken₀, owns₀, job, _⟩
    · exact noClaim _ _ _ claims
    · have same := inv.exclusive.unique other ticket task₀ task taken₀ taken owns₀
        (inv.owns taken holds) (by rw [job, own', own])
      subst same
      exact lost task' taken' holds'
  rcases after row member' unheld (by rw [failed]; simp) (by rw [failed]; simp) with
    status | status | ⟨status | status, _⟩ <;> rw [failed] at status <;> cases status

/-- An engine that stops holds nothing afterwards. -/
theorem not_live_stopped {worker : UUID} {engine : Engine} (stopped : engine.status ≠ .running)
    {task : Task} (own : task.worker = worker) : ¬ (w.setEngine worker engine).Holds task := by
  rintro ⟨_, after, found, running⟩
  rw [own] at found
  simp only [setEngine, Function.update_self] at found
  cases found
  exact stopped running

/-- A step after which no job is stranded left no failed row behind. -/
theorem leavesNoneFailed_of_unstranded (moves : Moves cron w a w') (timely : Timely w a)
    (inv : Undisturbed w) (after : Unstranded w') : LeavesNoneFailed w a := by
  have inv' := undisturbed_step moves timely inv
  have steps := moves
  cases moves with
  | crash worker engine found =>
      intro ticket task taken holds own row member same failed
      refine stranded_of_lost steps inv inv' after taken holds same failed member (by simp) ?_
      intro task' taken'
      rw [show w.tasks ticket = some task' from taken'] at taken
      cases taken
      exact not_live_stopped (by simp) own
  | cancel worker engine found running =>
      intro ticket task taken holds own row member same failed
      refine stranded_of_lost steps inv inv' after taken holds same failed member (by simp) ?_
      intro task' taken'
      rw [show w.tasks ticket = some task' from taken'] at taken
      cases taken
      exact not_live_stopped (by simp) own
  | exec ticket response task engine db pc event taken found alive permitted advances =>
      cases response with
      | call succeeds draw =>
          cases succeeds with
          | true => trivial
          | false =>
              intro task₀ nextRunAt taken₀ live point row member own failed
              rw [taken] at taken₀
              cases taken₀
              have held : task.pc.holds = true := by
                rw [point]
                rfl
              have same : db.jobs = w.db.jobs := by
                cases advance_effect advances with
                | spared same => exact same.jobs
              have next := advance_next advances
              rw [point] at next
              cases next with
              | requeued =>
                  refine stranded_of_lost steps inv inv' after taken ⟨held, live⟩ own failed ?_
                    (by simp) ?_
                  · change row ∈ db.jobs
                    rw [same]
                    exact member
                  · intro task' taken' holds'
                    simp only [setTask, Function.update_self] at taken'
                    cases taken'
                    cases holds'.1
      | starts => trivial
      | returns => trivial
  | _ => trivial

end World

/-- **Stranding, exactly.** A timely run strands no job if and only if no engine stops, and
no `RequeueForRetry` fails, while the row of the job at stake is failed. -/
theorem unstranded_iff (cron : CronParser) (trace : List (World × Action)) (w : World)
    (run : Run (scheduler cron) trace w) (timely : Meets Timely trace) :
    Throughout Unstranded trace w ↔ Meets LeavesNoneFailed trace := by
  refine Run.throughout_iff_meets Timely Recovering run timely ?_ ?_ ?_ ?_
  · rintro s ⟨now, policies, rfl⟩
    refine ⟨World.undisturbed_start now policies, ⟨World.wellFormed_start now policies, ?_⟩, ?_⟩
    · intro _ member
      cases member
    · intro _ member
      cases member
  · intro s a s' taken timely leaves inv
    exact World.recovering_step (World.step_moves taken) timely leaves inv
  · exact fun s inv => World.unstranded_of_recovering inv
  · intro s a s' taken timely inv after
    exact World.leavesNoneFailed_of_unstranded (World.step_moves taken) timely inv.undisturbed
      after

/-- A worker whose handler fails stops before `FailJob`. -/
def earlyCrash : List Action :=
  Scenario.deployed ++ Scenario.take 5 ++
    ([.exec 0 (.call true 0), .exec 0 (.call true 0), .exec 0 .starts,
      .exec 0 (.returns (some "boom")), .exec 0 (.call true 0), .crash 5] : List Action)

theorem unstranded_earlyCrash :
    ∃ trace w, Run (scheduler Scenario.cron) trace w ∧
      (∃ row ∈ w.db.jobs, row.status = .running) ∧ Throughout Unstranded trace w := by
  obtain ⟨trace, w, run, running, idle, unfailed⟩ :=
    exists_run_of_execute (scheduler Scenario.cron) earlyCrash (World.start 0 [])
      (fun trace w => (∃ row ∈ w.db.jobs, row.status = .running) ∧
        (∀ entry ∈ trace, entry.2.isSweep → ∀ row ∈ entry.1.db.jobs,
          ¬ row.Orphaned entry.1.now) ∧
        ∀ entry ∈ trace, ∀ row ∈ entry.1.db.jobs, row.status ≠ .failed)
      ⟨0, [], rfl⟩ (by decide)
  refine ⟨trace, w, run, running,
    (unstranded_iff _ trace w run (timely_of_idle_sweeps idle)).mpr ?_⟩
  intro entry member
  unfold LeavesNoneFailed
  split
  · intro _ _ _ _ _ row rowMember _
    exact unfailed entry member row rowMember
  · intro _ _ _ _ _ row rowMember _
    exact unfailed entry member row rowMember
  · intro _ _ _ _ _ row rowMember _
    exact unfailed entry member row rowMember
  · trivial

/-- A worker stops between `FailJob` and `RequeueForRetry`. -/
def crashAfterFail : List Action :=
  Scenario.deployed ++ Scenario.take 5 ++
    ([.exec 0 (.call true 0), .exec 0 (.call true 0), .exec 0 .starts,
      .exec 0 (.returns (some "boom")), .exec 0 (.call true 0), .exec 0 (.call true 0),
      .exec 0 (.call true 0), .crash 5] : List Action)

/-- The job of the stopped worker stays failed, and no claim or sweep selects it. -/
theorem failed_stranded :
    ¬ ∀ (cron : CronParser) (trace : List (World × Action)) (w : World),
      Run (scheduler cron) trace w → Meets Timely trace → Throughout Unstranded trace w := by
  intro always
  obtain ⟨trace, w, run, ⟨row, member, failed⟩, single, stopped, idle⟩ :=
    exists_run_of_execute (scheduler Scenario.cron) crashAfterFail (World.start 0 [])
      (fun trace w => (∃ row ∈ w.db.jobs, row.status = .failed) ∧ w.nextTicket = 1 ∧
        (∀ task ∈ w.tasks 0, ∀ engine ∈ w.engines task.worker, engine.status ≠ .running) ∧
        ∀ entry ∈ trace, entry.2.isSweep → ∀ row ∈ entry.1.db.jobs, ¬ row.Orphaned entry.1.now)
      ⟨0, [], rfl⟩ (by decide)
  have unheld : ¬ w.HasHolder row.id := by
    rintro ⟨ticket, task, taken, ⟨_, engine, found, running⟩, _⟩
    have first : ticket = 0 := by
      have bound := World.ticket_lt (wellFormed_throughout run).2 taken
      omega
    subst first
    exact stopped task taken engine found running
  have after := (always _ trace w run (timely_of_idle_sweeps idle)).2 row member unheld
  rw [failed] at after
  rcases after (by simp) (by simp) with status | status | ⟨status | status, _⟩ <;> cases status

end JobScheduler
