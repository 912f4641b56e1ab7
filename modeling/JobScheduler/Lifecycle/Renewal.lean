import JobScheduler.Lifecycle.Attempts

/-!
# Leases of work in progress

`Heartbeat` renews by columns: every claimed or running row with the worker's id. The work
in progress is elsewhere, in the worker's goroutines. The two part when the last
jobs-table write of an execution fails: the error is logged, `executeJob` returns, and the
row is renewed for as long as the worker lives (`abandoned_job_renewed`).

In runs without stale writes in which no last write fails on a row that is still the
worker's, a heartbeat renews the leases of jobs in flight and no others.
-/

set_option autoImplicit false

namespace JobScheduler

open Relational Transition

/-- The calls after which, when they fail, `executeJob` makes no further jobs-table
write. -/
def Pc.isLastWrite : Pc → Bool
  | .completeIdempotent | .setRunning | .complete .. | .moveToDLQ _ | .requeueForRetry _ => true
  | _ => false

/-- No last write of a live engine fails while the row is still active under its id. -/
def LastWriteLands (w : World) : Action → Prop
  | .exec ticket (.call false _) => ∀ task, w.tasks ticket = some task → w.Live task.worker →
      task.pc.isLastWrite = true → ∀ row ∈ w.db.jobs, row.id = task.job.id →
      ¬ row.RenewedBy task.worker
  | _ => True

/-- A heartbeat renews only the leases of jobs that the worker's engine has in flight: claimed
by it, with an execution that has not returned. -/
def RenewsInFlight (w : World) : Action → Prop
  | .heartbeat worker => ∀ row ∈ w.db.jobs, row.RenewedBy worker →
      ∃ ticket task, w.tasks ticket = some task ∧ task.worker = worker ∧
        task.job.id = row.id ∧ task.pc ≠ .returned
  | _ => True

/-- The job of a row is owned by an execution of the given worker. -/
def World.HasOwner (w : World) (worker : UUID) (jobId : UUID) : Prop :=
  ∃ ticket task, w.tasks ticket = some task ∧ w.Owns task ∧ task.worker = worker ∧
    task.job.id = jobId

/-- The active rows of live workers are owned. -/
structure InFlight (w : World) : Prop where
  accounts : Accounts w
  owned : ∀ row ∈ w.db.jobs, ∀ worker, row.RenewedBy worker → w.Live worker →
    w.HasOwner worker row.id

/-- An execution keeps its job unless it writes or its last write fails. -/
theorem Next.still_holds {workerId : UUID} {now : Timestamptz} {job : Job} {db : Database}
    {pc pc' : Pc} {response : Response} {event : Option Event}
    (next : Next workerId now job db pc response pc' event)
    (held : pc.holds = true)
    (unwritten : ∀ draw, response = .call true draw → pc.rewrite now job = none)
    (lands : ∀ draw, response = .call false draw → pc.isLastWrite = false) :
    pc'.holds = true := by
  cases next with
  | @completedIdempotent succeeds draw | @completed _ _ succeeds draw | @moved _ succeeds draw
  | @requeued _ succeeds draw =>
      cases succeeds with
      | true => cases unwritten draw rfl
      | false => cases lands draw rfl
  | notRunning => cases lands _ rfl
  | loggedCompleted | recordedCompleted => cases held
  | _ => rfl

namespace World

variable {cron : CronParser} {w w' : World} {a : Action}

/-- The engine named by a row does not come back to life. -/
theorem live_before_of_owned (moves : Moves cron w a w') (wf : WellFormed w) {row : Job}
    {worker : UUID} (member : row ∈ w.db.jobs) (owner : row.workerId = some worker)
    (live : w'.Live worker) : w.Live worker := by
  rcases step_live moves live with live | ⟨_, _, fresh⟩
  · exact live
  · obtain ⟨engine, found⟩ := wf.owned row member worker owner
    exact absurd (wf.enrolled _ _ found) fresh

/-- Every row that a claim rewrites gets a task. -/
theorem claim_opens {worker : UUID} {tie emit : UUID → Nat}
    (moves : Moves cron w (.claim worker tie emit true) w') (wf : WellFormed w)
    {row : Job} {queueId : UUID} {leaseSeconds : Int} (member : row ∈ w.db.jobs)
    (claimable : row.Claimable queueId w.now)
    (member' : row.claim w.now worker leaseSeconds ∈ w'.db.jobs) :
    ∃ ticket task, w'.tasks ticket = some task ∧ task.pc = .pending ∧ task.reclaimed = false ∧
      task.worker = worker ∧ task.job.id = row.id := by
  have changed : row.claim w.now worker leaseSeconds ∉ w.db.jobs := by
    intro old
    have eq := eq_of_key_eq wf.ids old member rfl
    have status : JobStatus.claimed = row.status := congrArg Job.status eq
    rw [claimable.2.1] at status
    cases status
  cases moves with
  | claim _ _ _ engine queue queues db jobs found running phase claims =>
      obtain ⟨targets, _, rfl, returned⟩ := w.db.claimJobs_spec claims
      rcases cases_mem_update member' with ⟨old, _⟩ | ⟨target, targetMember, selected, same⟩
      · exact absurd old changed
      · have listed : target.claim w.now worker engine.cfg.leaseSeconds ∈ jobs := by
          rw [returned.mem_iff]
          exact List.mem_map_of_mem
            (List.mem_filter.mpr ⟨targetMember, decide_eq_true selected⟩)
        obtain ⟨index, at_⟩ := List.mem_iff_getElem?.mp listed
        refine ⟨w.nextTicket + index,
          ⟨worker, target.claim w.now worker engine.cfg.leaseSeconds, .pending, false, false⟩, ?_,
          rfl, rfl, rfl, (congrArg Job.id same).symm⟩
        change w.tasksAfterClaim worker jobs (w.nextTicket + index) = _
        rw [tasksAfterClaim, if_pos (Nat.le_add_right _ _), Nat.add_sub_cancel_left, at_]
        rfl
  | claimFailed => exact absurd member' changed

/-- An owner outlasts a step that neither stops its engine, nor takes its claim, nor ends
its execution. -/
theorem owner_stays (moves : Moves cron w a w') (wf : WellFormed w) {ticket : Nat} {task : Task}
    (taken : w.tasks ticket = some task) (owns : w.Owns task) (live' : w'.Live task.worker)
    (unswept : a = .sweep → ¬ w.LosesClaim task)
    (continues : ∀ response pc event, a = .exec ticket response →
      Next task.worker w.now task.job w.db task.pc response pc event → pc.holds = true) :
    w'.HasOwner task.worker task.job.id := by
  rcases task_after moves (ticket_lt wf taken) taken with
    ⟨task', taken', job, worker, counter, reclaims⟩ | returned
  · refine ⟨ticket, task', taken', ⟨⟨?_, by rw [worker]; exact live'⟩, ?_⟩, worker, by rw [job]⟩
    · generalize task'.pc = pc' at counter
      cases counter with
      | kept => exact owns.1.1
      | dispatched => exact Pc.holds_entry _
      | advanced executes found permitted advances =>
          exact continues _ _ _ executes (advance_next advances)
    · cases flag : task'.reclaimed with
      | false => rfl
      | true =>
          rcases reclaims flag with before | ⟨sweeps, loses⟩
          · rw [owns.2] at before
            cases before
          · exact absurd loses (unswept sweeps)
  · have held := owns.1.1
    rw [returned] at held
    cases held

/-- The owner of a row outlasts a step that leaves the row active under its id. -/
theorem owner_after (moves : Moves cron w a w') (inv : InFlight w) (lands : LastWriteLands w a)
    {row : Job} {worker : UUID} (member : row ∈ w.db.jobs) (renews : row.RenewedBy worker)
    (live' : w'.Live worker) (unswept : a = .sweep → ¬ row.Orphaned w.now)
    (unwritten : ∀ ticket draw, a = .exec ticket (.call true draw) → ∀ task,
      w.tasks ticket = some task → row.id = task.job.id →
      task.pc.rewrite w.now task.job = none) : w'.HasOwner worker row.id := by
  have wf := inv.accounts.exclusive.wellFormed
  have live := live_before_of_owned moves wf member renews.1 live'
  obtain ⟨ticket, task, taken, owns, rfl, own⟩ := inv.owned row member worker renews live
  rw [← own]
  refine owner_stays moves wf taken owns live' ?_ ?_
  · rintro sweeps ⟨found, foundMember, foundOwn, _, orphaned⟩
    have eq := eq_of_key_eq wf.ids foundMember member (foundOwn.trans own)
    rw [eq] at orphaned
    exact unswept sweeps orphaned
  · rintro response pc event rfl next
    refine next.still_holds owns.1.1 ?_ ?_
    · rintro draw rfl
      exact unwritten ticket draw rfl task taken own.symm
    · rintro draw rfl
      cases last : task.pc.isLastWrite with
      | false => rfl
      | true => exact absurd renews (lands task taken live last row member own.symm)

/-- A spared row that is active is not written. -/
theorem rewrite_eq_none_of_spares (inv : Accounts w) {ticket : Nat} {draw : Int} {task : Task}
    {row : Job} (member : row ∈ w.db.jobs) (active : row.status.Active)
    (spared : w.Spares row (.exec ticket (.call true draw)))
    (taken : w.tasks ticket = some task) (own : row.id = task.job.id) :
    task.pc.rewrite w.now task.job = none := by
  by_contra due
  obtain ⟨_, _, entry, entryMember, letter⟩ := spared task taken own due
  have alive : row.status ≠ .deadLetter := by
    rcases active with status | status <;> rw [status] <;> simp
  have listed : entry ∈ w.db.lettersOf row.id :=
    List.mem_filter.mpr ⟨entryMember, decide_eq_true (letter.trans own.symm)⟩
  rw [((inv.rows row member).unlettered alive).2.2] at listed
  cases listed

/-- The active rows of live workers stay owned. -/
theorem step_owned (moves : Moves cron w a w') (fresh : NoStaleWrite w a) (inv : InFlight w)
    (lands : LastWriteLands w a) {row' : Job} {worker : UUID} (member' : row' ∈ w'.db.jobs)
    (renews : row'.RenewedBy worker) (live' : w'.Live worker) :
    w'.HasOwner worker row'.id := by
  have wf := inv.accounts.exclusive.wellFormed
  rcases step_rows moves wf.ids member' with ⟨row, member, change⟩ | new
  · cases change with
    | kept spared =>
        refine owner_after moves inv lands member renews live' ?_ ?_
        · rintro rfl
          exact spared
        · rintro ticket draw rfl task taken own
          exact rewrite_eq_none_of_spares inv.accounts member renews.2 spared taken own
    | claimed found running claimable =>
        obtain ⟨ticket, task, taken', pending, current, worker', own⟩ :=
          claim_opens moves wf member claimable member'
        have same := Option.some.inj renews.1
        rw [← same] at live' ⊢
        refine ⟨ticket, task, taken', ⟨⟨by rw [pending]; rfl, ?_⟩, current⟩, worker', own⟩
        rw [worker']
        exact live'
    | @written ticket draw task rewrite _ taken live writes own =>
        have owns := writer_owns fresh taken live writes
        have has := inv.accounts.exclusive.possesses ticket task taken owns row member own
        obtain ⟨point, rfl⟩ := Pc.setRunning_of_rewrite writes renews.2
        have same : task.worker = worker := Option.some.inj (has.owner.symm.trans renews.1)
        subst same
        have stays : w'.HasOwner task.worker task.job.id := by
          refine owner_stays moves wf taken owns live' (by simp) ?_
          intro response pc' event executes next
          cases executes
          rw [point] at next
          cases next <;> rfl
        rw [← own] at stays
        exact stays
    | renewed found running renewed =>
        have stays : w'.HasOwner worker row.id := by
          refine owner_after moves inv lands member ⟨renews.1, renewed.2⟩ live' ?_ ?_
          · intro sweeps
            cases sweeps
          · intro ticket draw executes
            cases executes
        exact stays
    | released => cases renews.1
    | reclaimed => cases renews.1
    | retried => cases renews.1
  · have owner := renews.1
    rw [new.waiting.unowned] at owner
    cases owner

/-- **Ownership of active rows is kept** by every step without a stale write or a lost last
write. -/
theorem inFlight_step (moves : Moves cron w a w') (fresh : NoStaleWrite w a)
    (lands : LastWriteLands w a) (inv : InFlight w) : InFlight w' where
  accounts := accounts_step moves fresh inv.accounts
  owned _ member' _ renews live' := step_owned moves fresh inv lands member' renews live'

theorem renewsInFlight_of_inFlight (moves : Moves cron w a w') (inv : InFlight w) :
    RenewsInFlight w a := by
  cases moves with
  | heartbeat worker engine found running =>
      intro row member renews
      obtain ⟨ticket, task, taken, owns, worker', own⟩ :=
        inv.owned row member worker renews ⟨engine, found, running⟩
      refine ⟨ticket, task, taken, worker', own, ?_⟩
      intro returned
      have held := owns.1.1
      rw [returned] at held
      cases held
  | _ => trivial

end World

/-- **Heartbeats renew work in progress and nothing else**, in runs without stale writes
whose last writes land. -/
theorem renews_in_flight (cron : CronParser) (trace : List (World × Action)) (w : World)
    (run : Run (scheduler cron) trace w) (fresh : Meets NoStaleWrite trace)
    (lands : Meets LastWriteLands trace) : Meets RenewsInFlight trace := by
  rintro ⟨s, a⟩ member
  have inv : InFlight s := by
    refine run.invariant_before (fresh.and lands) ?_ ?_ member
    · rintro s ⟨now, policies, rfl⟩
      exact ⟨accounts_start now policies, fun _ member => by cases member⟩
    · rintro s a s' taken ⟨fresh, lands⟩ inv
      exact World.inFlight_step (World.step_moves taken) fresh lands inv
  obtain ⟨_, _, _, s', taken⟩ := run.before member
  exact World.renewsInFlight_of_inFlight (World.step_moves taken) inv

/-- A worker heartbeats while its handler runs. -/
def steadyHeartbeat : List Action :=
  Scenario.deployed ++ Scenario.take 5 ++
    ([.exec 0 (.call true 0), .exec 0 (.call true 0), .exec 0 .starts, .tick 10000000,
      .heartbeat 5] : List Action)

theorem renews_in_flight_steadyHeartbeat :
    ∃ trace w, Run (scheduler Scenario.cron) trace w ∧
      (∃ row ∈ w.db.jobs, row.leaseExpiresAt = some (intervalSeconds 40)) ∧
      Meets RenewsInFlight trace := by
  obtain ⟨trace, w, run, renewed, idle, succeed⟩ :=
    exists_run_of_execute (scheduler Scenario.cron) steadyHeartbeat (World.start 0 [])
      (fun trace w => (∃ row ∈ w.db.jobs, row.leaseExpiresAt = some (intervalSeconds 40)) ∧
        (∀ entry ∈ trace, entry.2.isSweep → ∀ row ∈ entry.1.db.jobs,
          ¬ row.Orphaned entry.1.now) ∧
        ∀ entry ∈ trace, entry.2.isFailure = false)
      ⟨0, [], rfl⟩ (by decide)
  refine ⟨trace, w, run, renewed, renews_in_flight _ trace w run
    (noStaleWrite_of_timely run (timely_of_idle_sweeps idle)) ?_⟩
  intro entry member
  have success := succeed entry member
  unfold LastWriteLands
  split
  next fails =>
    rw [fails] at success
    cases success
  · trivial

/-- A worker's `SetJobRunning` fails and the execution ends; the worker goes on. -/
def abandonedStart : List Action :=
  Scenario.deployed ++ Scenario.take 5 ++
    ([.exec 0 (.call false 0), .finish 0, .tick 10000000] : List Action)

/-- The next heartbeat renews the lease of a job that nobody is executing. -/
theorem abandoned_job_renewed :
    ¬ ∀ (cron : CronParser) (trace : List (World × Action)) (w : World),
      Run (scheduler cron) trace w → Meets RenewsInFlight trace := by
  intro always
  obtain ⟨trace, w, run, ⟨row, member, renews⟩, ⟨engine, found, running⟩, single, ended⟩ :=
    exists_run_of_execute (scheduler Scenario.cron) abandonedStart (World.start 0 [])
      (fun _ w => (∃ row ∈ w.db.jobs, row.RenewedBy 5) ∧
        (∃ engine ∈ w.engines 5, engine.status = .running) ∧ w.nextTicket = 1 ∧
        (w.tasks 0).isNone)
      ⟨0, [], rfl⟩ (by decide)
  have beats : (scheduler Scenario.cron).step w (.heartbeat 5) =
      some { w.setEngine 5 { engine with lastBeat := w.now } with
        db := w.db.heartbeat w.now 5 engine.cfg.leaseSeconds } := by
    simp only [scheduler, World.step, Option.mem_def.mp found, if_pos running]
  have inFlight := always _ _ _ (run.next (.heartbeat 5) beats) _ List.mem_cons_self
  obtain ⟨ticket, task, taken, _⟩ := inFlight row member renews
  have bound := World.ticket_lt (wellFormed_throughout run).2 taken
  have first : ticket = 0 := by omega
  rw [first, Option.isNone_iff_eq_none.mp ended] at taken
  cases taken

end JobScheduler
