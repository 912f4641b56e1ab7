import JobScheduler.Lifecycle.Terminal

/-!
# Graceful shutdown

`shutdown` waits for the executions and then releases the jobs that are still claimed. The
executions, however, go on with the context that was cancelled: their store calls fail, and
a job that was running stays running under the worker's id, even when its handler returns
nil in time (`running_job_left_behind`).

What is left behind is decided at the cancellation: in timely runs whose other store calls
succeed, an engine none of whose jobs is running when its context is cancelled leaves
nothing to the reaper when `Run` returns.
-/

set_option autoImplicit false

namespace JobScheduler

open Relational Transition

/-- Store calls only fail for executions of engines that are no longer live. -/
def CallsSucceed (w : World) (a : Action) : Prop :=
  a.isFailure = true → ∃ ticket ∈ a.ticket?, ∀ task ∈ w.tasks ticket, ¬ w.Live task.worker

instance (w : World) : DecidablePred (CallsSucceed w) :=
  fun a => inferInstanceAs (Decidable (a.isFailure = true →
    ∃ ticket ∈ a.ticket?, ∀ task ∈ w.tasks ticket, ¬ w.Live task.worker))

/-- `shutdown` goes on only once all executions have ended, not by the drain timeout. -/
def DrainsInTime (w : World) (a : Action) : Prop :=
  ∀ worker ∈ a.proceeding?, ∀ engine ∈ w.engines worker, engine.phase.isDraining = true →
    engine.waitGroup = 0

instance (w : World) : DecidablePred (DrainsInTime w) :=
  fun a => inferInstanceAs (Decidable (∀ worker ∈ a.proceeding?,
    ∀ engine ∈ w.engines worker, engine.phase.isDraining = true → engine.waitGroup = 0))

/-- No job of the engine is running when its context is cancelled. -/
def CancelsUnstarted (w : World) : Action → Prop
  | .cancel worker => ∀ row ∈ w.db.jobs, row.workerId = some worker → row.status ≠ .running
  | _ => True

/-- The worker leaves no active row, and the jobs its handlers finished are completed. -/
structure HandedBack (w : World) (worker : UUID) : Prop where
  inactive : ∀ row ∈ w.db.jobs, row.workerId = some worker → ¬ row.status.Active
  completed : ∀ row ∈ w.db.jobs, Event.handlerReturnedNil row.id worker ∈ w.events →
    row.status = .completed

/-- The jobs of every engine whose `Run` has returned are handed back. -/
def ShutsDownCleanly (w : World) : Prop :=
  ∀ worker engine, w.engines worker = some engine → engine.phase = .stopped →
    HandedBack w worker

/-- The program points of jobs that have not started or whose row needs no further
write to leave the running status. -/
def Pc.Quiet : Pc → Prop
  | .pending | .gate _ | .completeIdempotent | .setRunning | .requeueForRetry _
  | .logCompleted .. | .recordCompleted .. | .returned => True
  | _ => False

/-- Outside the running status an execution is quiet. -/
theorem Pc.Matches.quiet {job row : Job} {pc : Pc} (fits : pc.Matches job row)
    (unstarted : row.status ≠ .running) : pc.Quiet := by
  cases pc with
  | pending | gate | completeIdempotent | setRunning | requeueForRetry | logCompleted
  | recordCompleted | returned => trivial
  | _ => exact absurd fits.1 unstarted

theorem Pc.quiet_of_not_holds {pc : Pc} (behind : pc.holds = false) : pc.Quiet := by
  cases pc with
  | logCompleted | recordCompleted | returned => trivial
  | _ => cases behind

theorem Pc.quiet_entry (job : Job) : (Pc.entry job).Quiet := by
  unfold Pc.entry
  split <;> trivial

/-- Without successful store calls an execution stays quiet. -/
theorem Next.quiet {workerId : UUID} {now : Timestamptz} {job : Job} {db : Database}
    {pc pc' : Pc} {response : Response} {event : Option Event}
    (next : Next workerId now job db pc response pc' event) (before : pc.Quiet)
    (fails : ∀ draw, response ≠ .call true draw) : pc'.Quiet := by
  cases next with
  | resolved | unresolved => exact absurd rfl (fails _)
  | gateHit | gateMiss | completedIdempotent | notRunning | loggedCompleted
  | recordedCompleted | moved | requeued => trivial
  | _ => cases before

/-- An execution of a live engine is about to complete the job. -/
def World.Completing (w : World) (jobId worker : UUID) : Prop :=
  ∃ ticket task start finish, w.tasks ticket = some task ∧ w.Holds task ∧
    task.pc = .complete start finish ∧ task.job.id = jobId ∧ task.worker = worker

/-- The engine has crashed before its `ReleaseJobs`. -/
def World.CrashedEarly (w : World) (worker : UUID) : Prop :=
  ∃ engine, w.engines worker = some engine ∧ engine.status = .crashed ∧
    engine.phase.released = false

/-- The invariant behind a clean shutdown. -/
structure Orderly (w : World) : Prop where
  undisturbed : w.Undisturbed
  /-- A live engine is not past `ReleaseJobs`. -/
  unreleased : ∀ worker engine, w.engines worker = some engine → engine.status = .running →
    engine.phase.released = false
  unstarted : ∀ worker engine, w.engines worker = some engine → engine.status = .cancelled →
    ∀ row ∈ w.db.jobs, row.workerId = some worker → row.status ≠ .running
  inactive : ∀ worker engine, w.engines worker = some engine → engine.phase.released = true →
    ∀ row ∈ w.db.jobs, ¬ row.RenewedBy worker
  quiet : ∀ ticket task engine, w.tasks ticket = some task →
    w.engines task.worker = some engine → engine.status = .cancelled →
    ∀ row ∈ w.db.jobs, row.id = task.job.id → task.pc.Quiet
  served : ∀ jobId worker, Event.handlerReturnedNil jobId worker ∈ w.events →
    ∀ row ∈ w.db.jobs, row.id = jobId →
    row.status = .completed ∨ w.Completing jobId worker ∨ w.CrashedEarly worker
  recorded : ∀ jobId worker, Event.handlerReturnedNil jobId worker ∈ w.events →
    jobId ∈ w.issued

namespace World

variable {cron : CronParser} {w w' : World} {a : Action}

theorem orderly_start (now : Timestamptz) (policies : List RetryPolicy) :
    Orderly (World.start now policies) where
  undisturbed := undisturbed_start now policies
  unreleased _ _ found := by cases found
  unstarted _ _ found := by cases found
  inactive _ _ found := by cases found
  quiet _ _ _ taken := by cases taken
  served _ _ member := by cases member
  recorded _ _ member := by cases member

/-! ## Engines that stop -/

theorem step_unreleased (moves : Moves cron w a w') (inv : Orderly w) {worker : UUID}
    {engine' : Engine} (found' : w'.engines worker = some engine')
    (running : engine'.status = .running) : engine'.phase.released = false := by
  cases step_engines moves found' with
  | registered => rfl
  | kept found cfg status beat phase =>
      have before := inv.unreleased _ _ found (status.alive running)
      rcases phase with same | ⟨_, open_ | ⟨cancelled, _⟩⟩
      · rw [same]
        exact before
      · exact open_
      · rw [status.alive running] at cancelled
        cases cancelled

/-- A cancelled engine gets no running row. -/
theorem step_unstarted (moves : Moves cron w a w') (cancels : CancelsUnstarted w a)
    (inv : Orderly w) {worker : UUID} {engine' : Engine}
    (found' : w'.engines worker = some engine') (cancelled : engine'.status = .cancelled)
    {row' : Job} (member' : row' ∈ w'.db.jobs) (owner : row'.workerId = some worker) :
    row'.status ≠ .running := by
  have wf := inv.undisturbed.exclusive.wellFormed
  intro running
  rcases cancelled_before moves found' cancelled with ⟨engine, found, before⟩ | ⟨rfl, _⟩
  · rcases step_rows moves wf.ids member' with ⟨row, member, change⟩ | new
    · cases change with
      | kept => exact inv.unstarted worker engine found before row' member owner running
      | renewed => exact inv.unstarted worker engine found before row member owner running
      | @written ticket draw task rewrite _ taken live writes own =>
          have has := inv.undisturbed.writer_possesses taken live writes member own
          obtain ⟨_, rfl⟩ := Pc.setRunning_of_rewrite writes (.inr running)
          -- the writer is live, the engine that the row names is not
          have same : task.worker = worker := Option.some.inj (has.owner.symm.trans owner)
          rw [same] at live
          have alive := live.running found
          rw [before] at alive
          cases alive
      | claimed => cases running
      | released => cases running
      | reclaimed => cases running
      | retried => cases running
    · rw [new.waiting.unowned] at owner
      cases owner
  · cases moves
    exact cancels row' member' owner running

/-- No active row appears under the id of an engine past `ReleaseJobs`. -/
theorem RowStep.not_renewed (inv : Orderly w) {row row' : Job} (member : row ∈ w.db.jobs)
    (change : RowStep w a row row') {worker : UUID} {engine : Engine}
    (found : w.engines worker = some engine) (past : engine.phase.released = true) :
    ¬ row'.RenewedBy worker := by
  have absent := inv.inactive worker engine found past row member
  intro renews
  cases change with
  | kept => exact absent renews
  | claimed claimer running =>
      cases renews.1
      rw [found] at claimer
      cases claimer
      rw [inv.unreleased worker engine found running] at past
      cases past
  | @written ticket draw task rewrite _ taken live writes own =>
      have has := inv.undisturbed.writer_possesses taken live writes member own
      obtain ⟨point, rfl⟩ := Pc.setRunning_of_rewrite writes renews.2
      have fits := has.fits
      rw [point] at fits
      exact absent ⟨renews.1, .inl fits.1⟩
  | renewed _ _ renewed => exact absent ⟨renews.1, renewed.2⟩
  | released => cases renews.1
  | reclaimed => cases renews.1
  | retried => cases renews.1

/-- `ReleaseJobs` leaves no active row, and none appears afterwards. -/
theorem step_inactive (moves : Moves cron w a w') (succeed : CallsSucceed w a) (inv : Orderly w)
    {worker : UUID} {engine' : Engine} (found' : w'.engines worker = some engine')
    (released : engine'.phase.released = true) {row' : Job} (member' : row' ∈ w'.db.jobs) :
    ¬ row'.RenewedBy worker := by
  have wf := inv.undisturbed.exclusive.wellFormed
  intro renews
  rcases step_rows moves wf.ids member' with ⟨row, member, change⟩ | new
  · cases step_engines moves found' with
    | registered => cases released
    | @kept engine _ found cfg status beat phase =>
        have before : engine.phase.released = true ∨ ∃ succeeds, a = .release worker succeeds ∧
            engine.status = .cancelled := by
          rcases phase with same | ⟨_, open_ | ⟨cancelled, past | ⟨succeeds, releases⟩⟩⟩
          · rw [same] at released
            exact .inl released
          · rw [open_] at released
            cases released
          · exact .inl past
          · exact .inr ⟨succeeds, releases, cancelled⟩
        rcases before with past | ⟨succeeds, rfl, cancelled⟩
        · exact change.not_renewed inv member found past renews
        · cases succeeds with
          | false =>
              obtain ⟨_, impossible, _⟩ := succeed rfl
              cases impossible
          | true =>
              cases change with
              | kept spared =>
                  rcases renews.2 with status | status
                  · exact spared ⟨renews.1, status⟩
                  · exact inv.unstarted worker engine found cancelled row' member renews.1 status
              | released => cases renews.1
  · have owner := renews.1
    rw [new.waiting.unowned] at owner
    cases owner

/-! ## Executions of a cancelled engine -/

/-- The executions of a cancelled engine are quiet. -/
theorem step_quiet (moves : Moves cron w a w') (cancels : CancelsUnstarted w a)
    (inv : Orderly w) {ticket : Nat} {task' : Task} {engine' : Engine}
    (taken' : w'.tasks ticket = some task') (found' : w'.engines task'.worker = some engine')
    (cancelled : engine'.status = .cancelled) {row' : Job} (member' : row' ∈ w'.db.jobs)
    (own' : row'.id = task'.job.id) : task'.pc.Quiet := by
  have wf := inv.undisturbed.exclusive.wellFormed
  have origin := step_tasks moves wf.ids taken'
  have before := cancelled_before moves found' cancelled
  obtain ⟨row, member, same⟩ : ∃ row ∈ w.db.jobs, row.id = row'.id := by
    rcases step_rows moves wf.ids member' with ⟨row, member, change⟩ | new
    · exact ⟨row, member, change.id.symm⟩
    · exact absurd own' (new.ne_task wf origin)
  have own := same.trans own'
  cases origin with
  | opened claims _ found running =>
      rcases before with ⟨engine, found₀, cancelled₀⟩ | ⟨cancelling, _⟩
      · replace found₀ : w.engines _ = some engine := found₀
        rw [found] at found₀
        cases found₀
        rw [running] at cancelled₀
        cases cancelled₀
      · rw [claims] at cancelling
        cases cancelling
  | @kept task reclaimed superseded taken =>
      rcases before with ⟨engine, found, cancelled₀⟩ | ⟨rfl, live⟩
      · have quiet := inv.quiet ticket task engine taken found cancelled₀ row member own
        exact quiet
      · change task.pc.Quiet
        cases held : task.pc.holds with
        | true =>
            have has := inv.undisturbed.possesses taken ⟨held, live⟩ member own
            exact has.fits.quiet (cancels row member has.owner)
        | false => exact Pc.quiet_of_not_holds held
  | dispatched => exact Pc.quiet_entry _
  | @advanced task response engine pc event executes taken found permitted advances =>
      rcases before with ⟨engine₀, found₀, cancelled₀⟩ | ⟨cancelling, _⟩
      · replace found₀ : w.engines task.worker = some engine₀ := found₀
        rw [found] at found₀
        cases found₀
        have quiet := inv.quiet ticket task engine taken found cancelled₀ row member own
        refine (advance_next advances).quiet quiet ?_
        rintro draw rfl
        rw [permitted draw rfl] at cancelled₀
        cases cancelled₀
      · rw [executes] at cancelling
        cases cancelling

/-! ## Jobs whose handler returned nil -/

/-- A live engine that crashes has not reached `ReleaseJobs`. -/
theorem crashedEarly_of_crash {worker : UUID} (moves : Moves cron w (.crash worker) w')
    (inv : Orderly w) (live : w.Live worker) : w'.CrashedEarly worker := by
  cases moves with
  | crash _ engine found =>
      have phase := inv.unreleased _ _ found (live.running found)
      exact ⟨_, Function.update_self .., rfl, phase⟩

/-- The row after the `CompleteJob` of a finished handler. -/
theorem RowStep.completed_by {ticket : Nat} {draw : Int} {task : Task} {start finish : Time}
    {row row' : Job} (change : RowStep w (.exec ticket (.call true draw)) row row')
    (taken : w.tasks ticket = some task) (point : task.pc = .complete start finish)
    (own : row.id = task.job.id) : row'.status = .completed := by
  cases change with
  | kept spared =>
      obtain ⟨errMsg, clash, _⟩ := spared task taken own (by rw [point]; simp [Pc.rewrite])
      rw [point] at clash
      cases clash
  | written taken₀ _ writes =>
      rw [taken] at taken₀
      cases taken₀
      rw [point] at writes
      cases writes
      rfl

/-- An execution about to complete its job completes it, or its engine crashes. -/
theorem completing_after (moves : Moves cron w a w') (succeed : CallsSucceed w a)
    (cancels : CancelsUnstarted w a) (inv : Orderly w) {jobId worker : UUID}
    (completing : w.Completing jobId worker) {row row' : Job} (member : row ∈ w.db.jobs)
    (same : row.id = jobId) (change : RowStep w a row row') :
    row'.status = .completed ∨ w'.Completing jobId worker ∨ w'.CrashedEarly worker := by
  have wf := inv.undisturbed.exclusive.wellFormed
  obtain ⟨ticket, task, start, finish, taken, holds, point, own, rfl⟩ := completing
  have has := inv.undisturbed.possesses taken holds member (same.trans own.symm)
  by_cases crashes : a = .crash task.worker
  · subst crashes
    exact .inr (.inr (crashedEarly_of_crash moves inv holds.2))
  · have live' : w'.Live task.worker := by
      refine live_after moves holds.2 ⟨crashes, ?_⟩
      rintro rfl
      have fits := has.fits
      rw [point] at fits
      exact cancels row member has.owner fits.1
    rcases task_after moves (ticket_lt wf taken) taken with
      ⟨task', taken', job, worker, counter, _⟩ | returned
    · generalize pc : task'.pc = pc' at counter
      cases counter with
      | kept =>
          refine .inr (.inl ⟨ticket, task', start, finish, taken', ⟨?_, ?_⟩, ?_, ?_, worker⟩)
          · rw [pc]
            exact holds.1
          · rw [worker]
            exact live'
          · rw [pc, point]
          · rw [job, own]
      | dispatched pending =>
          rw [point] at pending
          cases pending
      | @advanced response engine _ event executes found permitted advances =>
          subst executes
          have next := advance_next advances
          rw [point] at next
          cases next with
          | @completed _ _ succeeds draw =>
              cases succeeds with
              | false =>
                  obtain ⟨ticket', listed, stopped⟩ := succeed rfl
                  cases listed
                  exact absurd holds.2 (stopped task taken)
              | true => exact .inl (change.completed_by taken point (same.trans own.symm))
    · rw [point] at returned
      cases returned

theorem crashedEarly_after (moves : Moves cron w a w') (wf : WellFormed w) {worker : UUID}
    (crashed : w.CrashedEarly worker) : w'.CrashedEarly worker := by
  obtain ⟨engine, found, status, phase⟩ := crashed
  obtain ⟨engine', found', status', phase'⟩ :=
    crashed_after moves found status (wf.enrolled worker engine found)
  exact ⟨engine', found', status', by rw [phase', phase]⟩

/-- The jobs whose handlers returned nil stay served. -/
theorem step_served (moves : Moves cron w a w') (succeed : CallsSucceed w a)
    (cancels : CancelsUnstarted w a) (inv : Orderly w) {jobId worker : UUID}
    (returned : Event.handlerReturnedNil jobId worker ∈ w'.events) {row' : Job}
    (member' : row' ∈ w'.db.jobs) (same' : row'.id = jobId) :
    row'.status = .completed ∨ w'.Completing jobId worker ∨ w'.CrashedEarly worker := by
  have wf := inv.undisturbed.exclusive.wellFormed
  rcases returnedNil_before moves returned with old |
    ⟨ticket, task, engine, start, finish, nanos, rfl, taken, own, rfl, point, found, alive,
      taken'⟩
  · rcases step_rows moves wf.ids member' with ⟨row, member, change⟩ | ⟨_, _, _, fresh, _⟩
    · have same : row.id = jobId := change.id.symm.trans same'
      rcases inv.served jobId worker old row member same with completed | completing | crashed
      · exact .inl (change.completed inv.undisturbed.exclusive
          (inv.undisturbed.noStaleWrite moves) member completed)
      · exact completing_after moves succeed cancels inv completing member same change
      · exact .inr (.inr (crashedEarly_after moves wf crashed))
    · rw [same'] at fresh
      exact absurd (inv.recorded jobId worker old) fresh
  · cases status : engine.status with
    | running =>
        have live' := live_after moves ⟨engine, found, status⟩ ⟨by simp, by simp⟩
        exact .inr (.inl ⟨ticket, _, start, finish, taken', ⟨rfl, live'⟩, rfl, own, rfl⟩)
    | cancelled =>
        -- no execution of a cancelled engine is in its handler
        rcases step_rows moves wf.ids member' with ⟨row, member, change⟩ | new
        · have same : row.id = task.job.id := (change.id.symm.trans same').trans own.symm
          have quiet := inv.quiet ticket task engine taken found status row member same
          rw [point] at quiet
          cases quiet
        · have clash := new.ne_task wf (step_tasks moves wf.ids taken')
          exact absurd (same'.trans own.symm) clash
    | crashed => exact absurd status alive

/-- **Order is kept** by every timely step in which the calls of live engines succeed and no
engine with a running job is cancelled. -/
theorem orderly_step (moves : Moves cron w a w') (timely : Timely w a)
    (succeed : CallsSucceed w a) (cancels : CancelsUnstarted w a) (inv : Orderly w) :
    Orderly w' where
  undisturbed := undisturbed_step moves timely inv.undisturbed
  unreleased _ _ found' running := step_unreleased moves inv found' running
  unstarted _ _ found' cancelled _ member' owner :=
    step_unstarted moves cancels inv found' cancelled member' owner
  inactive _ _ found' released _ member' :=
    step_inactive moves succeed inv found' released member'
  quiet _ _ _ taken' found' cancelled _ member' own' :=
    step_quiet moves cancels inv taken' found' cancelled member' own'
  served _ _ returned _ member' same' :=
    step_served moves succeed cancels inv returned member' same'
  recorded jobId worker returned := by
    refine issued_mono moves ?_
    rcases returnedNil_before moves returned with old |
      ⟨ticket, task, _, _, _, _, _, taken, own, _⟩
    · exact inv.recorded jobId worker old
    · rw [← own]
      exact inv.undisturbed.exclusive.wellFormed.issuedTasks ticket task taken

theorem shutsDownCleanly_of_orderly (inv : Orderly w) : ShutsDownCleanly w := by
  intro worker engine found stopped
  have past : engine.phase.released = true := by
    rw [stopped]
    rfl
  refine ⟨fun row member owner active => ?_, fun row member returned => ?_⟩
  · exact inv.inactive worker engine found past row member ⟨owner, active⟩
  · rcases inv.served row.id worker returned row member rfl with
      completed | ⟨_, task, _, _, _, holds, _, _, rfl⟩ | ⟨engine', found', _, early⟩
    · exact completed
    · rw [inv.unreleased _ _ found (holds.2.running found)] at past
      cases past
    · rw [found] at found'
      cases found'
      rw [past] at early
      cases early

end World

/-- **Graceful shutdown.** In a timely run in which the store calls of live engines and of
`shutdown` succeed, and no engine with a running job is cancelled, every engine whose `Run`
has returned leaves nothing to the reaper. -/
theorem shuts_down_cleanly (cron : CronParser) (trace : List (World × Action)) (w : World)
    (run : Run (scheduler cron) trace w) (timely : Meets Timely trace)
    (succeed : Meets CallsSucceed trace) (cancels : Meets CancelsUnstarted trace) :
    Throughout ShutsDownCleanly trace w := by
  have all : Throughout Orderly trace w := by
    refine run.throughout (timely.and (succeed.and cancels)) ?_ ?_
    · rintro s ⟨now, policies, rfl⟩
      exact World.orderly_start now policies
    · rintro s a s' taken ⟨timely, succeed, cancels⟩ inv
      exact World.orderly_step (World.step_moves taken) timely succeed cancels inv
  exact ⟨fun entry member => World.shutsDownCleanly_of_orderly (all.1 entry member),
    World.shutsDownCleanly_of_orderly all.2⟩

/-- The goroutine of `Run` after the cancellation: out of `pollOnce` and `pollLoop`, past the
wait, and through `shutdown`. -/
def orderlyExit (worker : UUID) : List Action :=
  [.proceed worker, .proceed worker, .proceed worker, .proceed worker, .release worker true,
    .deregister worker true]

/-- A worker is cancelled between the claim and `SetJobRunning`. -/
def cancelledBeforeStart : List Action :=
  Scenario.deployed ++ Scenario.take 5 ++
    ([.cancel 5, .exec 0 (.call false 0), .finish 0] : List Action) ++ orderlyExit 5

theorem shuts_down_cleanly_cancelledBeforeStart :
    ∃ trace w, Run (scheduler Scenario.cron) trace w ∧
      (∃ engine ∈ w.engines 5, engine.phase = .stopped) ∧
      Throughout ShutsDownCleanly trace w := by
  obtain ⟨trace, w, run, stopped, idle, succeed, unstarted⟩ :=
    exists_run_of_execute (scheduler Scenario.cron) cancelledBeforeStart (World.start 0 [])
      (fun trace w => (∃ engine ∈ w.engines 5, engine.phase = .stopped) ∧
        (∀ entry ∈ trace, entry.2.isSweep → ∀ row ∈ entry.1.db.jobs,
          ¬ row.Orphaned entry.1.now) ∧
        (∀ entry ∈ trace, CallsSucceed entry.1 entry.2) ∧
        ∀ entry ∈ trace, ∀ row ∈ entry.1.db.jobs, row.status ≠ .running)
      ⟨0, [], rfl⟩ (by decide)
  refine ⟨trace, w, run, stopped,
    shuts_down_cleanly _ trace w run (timely_of_idle_sweeps idle) succeed ?_⟩
  intro entry member
  unfold CancelsUnstarted
  split
  · intro row rowMember _
    exact unstarted entry member row rowMember
  · trivial

/-- A worker is cancelled while its handler runs. The handler returns nil at once, and the
store calls that follow fail with the cancelled context. -/
def cancelledInHandler : List Action :=
  Scenario.deployed ++ Scenario.take 5 ++
    ([.exec 0 (.call true 0), .exec 0 (.call true 0), .exec 0 .starts, .cancel 5,
      .exec 0 (.returns none), .exec 0 (.call false 0), .exec 0 (.call false 0),
      .exec 0 (.call false 0), .finish 0] : List Action) ++ orderlyExit 5

/-- The finished job is left running under the id of a worker whose `Run` has returned. -/
theorem running_job_left_behind :
    ¬ ∀ (cron : CronParser) (trace : List (World × Action)) (w : World),
      Run (scheduler cron) trace w → Meets CallsSucceed trace → Meets DrainsInTime trace →
      Throughout ShutsDownCleanly trace w := by
  intro always
  obtain ⟨trace, w, run, ⟨engine, found, stopped⟩, ⟨row, member, owner, running⟩, succeed,
      drains⟩ :=
    exists_run_of_execute (scheduler Scenario.cron) cancelledInHandler (World.start 0 [])
      (fun trace w => (∃ engine ∈ w.engines 5, engine.phase = .stopped) ∧
        (∃ row ∈ w.db.jobs, row.workerId = some 5 ∧ row.status = .running) ∧
        (∀ entry ∈ trace, CallsSucceed entry.1 entry.2) ∧
        ∀ entry ∈ trace, DrainsInTime entry.1 entry.2)
      ⟨0, [], rfl⟩ (by decide)
  have clean := (always _ trace w run succeed drains).2 5 engine found stopped
  exact clean.inactive row member owner (.inr running)

end JobScheduler
