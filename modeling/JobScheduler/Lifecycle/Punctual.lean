import JobScheduler.Lifecycle.Starts
import JobScheduler.Lifecycle.LeaseColumns

/-!
# No handler starts early

Four store methods write `next_run_at`: `Create`, `RequeueForRetry`, `RequeueOrphanedJobs` and
`RetryDLQJob`. Only the claim reads it. Between the claim and the call of the handler the job
travels through the pool as a copy, and the row may be rewritten meanwhile.

What is carried along a run is the instant written last (`LatestRunAt`): the row has it, and
every execution of a live engine with the handler still ahead is past it (`Settled`). A sweep
and a manual retry write the present instant. Of the two that write a later one, `Create` makes
a job nobody has yet, and `RequeueForRetry` is the last write of the only live execution that
holds the job.
-/

set_option autoImplicit false

namespace JobScheduler

open Relational Transition

/-- The step writes the instant to the job's `next_run_at`. -/
inductive WritesRunAt (cron : CronParser) (w : World) : Action → UUID → Timestamptz → Prop where
  | create {request : Request} {w' : World} {row : Job} {instant : Timestamptz}
      (taken : w.step cron (.api request) = some w') (member : row ∈ w'.db.jobs)
      (new : ∀ old ∈ w.db.jobs, old.id ≠ row.id) (dated : row.nextRunAt = some instant) :
      WritesRunAt cron w (.api request) row.id instant
  | requeueForRetry {ticket : Nat} {draw : Int} {task : Task} {nextRunAt : Time}
      (taken : w.tasks ticket = some task) (point : task.pc = .requeueForRetry nextRunAt)
      (found : ∃ row ∈ w.db.jobs, row.id = task.job.id) :
      WritesRunAt cron w (.exec ticket (.call true draw)) task.job.id nextRunAt.toTimestamptz
  | requeueOrphanedJobs {row : Job} (member : row ∈ w.db.jobs) (orphaned : row.Orphaned w.now) :
      WritesRunAt cron w .sweep row.id w.now
  | retryDLQJob {id orgId : UUID} : WritesRunAt cron w (.api (.retryDLQJob id orgId)) id w.now

/-- The instant written last to the job's `next_run_at` in a trace. -/
inductive LatestRunAt (cron : CronParser) (id : UUID) (instant : Timestamptz) :
    List (World × Action) → Prop where
  | here {w : World} {a : Action} {trace : List (World × Action)}
      (writes : WritesRunAt cron w a id instant) : LatestRunAt cron id instant ((w, a) :: trace)
  | earlier {w : World} {a : Action} {trace : List (World × Action)}
      (silent : ∀ other, ¬ WritesRunAt cron w a id other)
      (latest : LatestRunAt cron id instant trace) : LatestRunAt cron id instant ((w, a) :: trace)

namespace World

/-- The rows of the job have the instant, and every execution of a live engine that has the
handler ahead is past it. -/
structure Settled (w : World) (id : UUID) (instant : Timestamptz) : Prop where
  issued : id ∈ w.issued
  rows : ∀ row ∈ w.db.jobs, row.id = id → row.nextRunAt = some instant
  past : ∀ ticket task, w.tasks ticket = some task → task.job.id = id → w.MayStart task →
    w.Live task.worker → instant ≤ w.now

variable {cron : CronParser} {w w' : World} {a : Action} {id : UUID} {instant : Timestamptz}

/-- A treatment that keeps the instant, unless the step writes one. -/
theorem RowStep.nextRunAt {row row' : Job} (change : RowStep w a row row')
    (member : row ∈ w.db.jobs) (silent : ∀ other, ¬ WritesRunAt cron w a row.id other) :
    row'.nextRunAt = row.nextRunAt := by
  cases change with
  | kept | claimed | renewed | released => rfl
  | @written ticket draw task rewrite _ taken live writes own =>
      cases point : task.pc with
      | requeueForRetry nextRunAt =>
          rw [own] at silent
          exact absurd (.requeueForRetry taken point ⟨row, member, own⟩) (silent _)
      | setRunning | completeIdempotent | complete | failJob | moveToDLQ =>
          rw [point] at writes
          cases writes
          rfl
      | _ =>
          rw [point] at writes
          cases writes
  | reclaimed orphaned => exact absurd (.requeueOrphanedJobs member orphaned) (silent _)
  | retried => exact absurd .retryDLQJob (silent _)

/-- **A step that writes no instant keeps the latest one settled.** -/
theorem settled_step (moves : Moves cron w a w') (wf : WellFormed w)
    (silent : ∀ other, ¬ WritesRunAt cron w a id other) (settled : w.Settled id instant) :
    w'.Settled id instant where
  issued := issued_mono moves settled.issued
  rows row' member' same := by
    rcases step_rows moves wf.ids member' with ⟨row, member, change⟩ | ⟨_, _, _, fresh, _⟩
    · have own : row.id = id := change.id.symm.trans same
      rw [change.nextRunAt member (by rwa [own])]
      exact settled.rows row member own
    · rw [same] at fresh
      exact absurd settled.issued fresh
  past ticket task' taken' own may' live' := by
    have origin := step_tasks moves wf.ids taken'
    have before : ∀ task, w.tasks ticket = some task → w.MayStart task :=
      fun _ taken => (origin.mayStart_before moves wf may' taken).1
    cases origin with
    | @opened worker tie emit engine queueId row claims fresh found running member claimable =>
        -- the claim query checks the instant
        obtain ⟨due, dated, reached⟩ := claimable.2.2
        have latest := settled.rows row member own
        rw [latest] at dated
        cases dated
        exact le_trans reached (now_mono moves)
    | kept taken | dispatched _ taken | advanced _ taken =>
        have live := live_before moves wf taken live'
        exact le_trans (settled.past ticket _ taken own (before _ taken) live) (now_mono moves)

/-! ## The four writers -/

/-- An execution that may start its handler holds its job, if its engine is live. -/
theorem MayStart.holds {task : Task} (may : w.MayStart task) (live : w.Live task.worker) :
    w.Holds task := by
  rcases may.engaged with holds | starting
  · exact holds
  · exact ⟨Pc.holds_of_starting starting, live⟩

theorem settled_create {request : Request} {row : Job} (moves : Moves cron w (.api request) w')
    (wf : WellFormed w) (member : row ∈ w'.db.jobs) (new : ∀ old ∈ w.db.jobs, old.id ≠ row.id)
    (dated : row.nextRunAt = some instant) : w'.Settled row.id instant := by
  have wf' := wellFormed_step moves wf
  refine ⟨wf'.issuedRows row member, ?_, ?_⟩
  · intro other otherMember same
    rw [eq_of_key_eq wf'.ids otherMember member same]
    exact dated
  · intro ticket task' taken' own
    -- nobody has a task of a new job
    have origin := step_tasks moves wf.ids taken'
    rcases step_rows moves wf.ids member with ⟨old, oldMember, change⟩ | fresh
    · exact absurd change.id.symm (new old oldMember)
    · exact absurd own.symm (fresh.ne_task wf origin)

theorem settled_requeueForRetry {ticket : Nat} {draw : Int} {task : Task} {nextRunAt : Time}
    (moves : Moves cron w (.exec ticket (.call true draw)) w') (inv : Undisturbed w)
    (taken : w.tasks ticket = some task) (point : task.pc = .requeueForRetry nextRunAt) :
    w'.Settled task.job.id nextRunAt.toTimestamptz := by
  have wf := inv.exclusive.wellFormed
  have live : w.Live task.worker := by
    cases moves with
    | exec _ _ task₀ engine db pc event taken₀ found alive permitted =>
        rw [taken] at taken₀
        cases taken₀
        exact ⟨engine, found, permitted draw rfl⟩
  have owns := inv.owns taken ⟨by rw [point]; rfl, live⟩
  refine ⟨issued_mono moves (wf.issuedTasks ticket task taken), ?_, ?_⟩
  · intro row' member' same
    rcases step_rows moves wf.ids member' with ⟨row, member, change⟩ | ⟨_, api, _⟩
    · have own : row.id = task.job.id := change.id.symm.trans same
      cases change with
      | kept spared =>
          obtain ⟨_, moving, _⟩ := spared task taken own (by rw [point]; simp [Pc.rewrite])
          rw [point] at moving
          cases moving
      | written taken₀ _ writes _ =>
          rw [taken] at taken₀
          cases taken₀
          rw [point] at writes
          cases writes
          rfl
    · cases api
  · intro ticket' task' taken' own may' live'
    have origin := step_tasks moves wf.ids taken'
    have before : ∀ task₀, w.tasks ticket' = some task₀ → task₀.job.id = task.job.id →
        w.Live task₀.worker → False := by
      intro task₀ taken₀ same live₀
      have may := (origin.mayStart_before moves wf may' taken₀).1
      have owns₀ := inv.owns taken₀ (may.holds live₀)
      -- the writer is the only live execution that holds the job, and its handler is behind
      have ticketEq := inv.exclusive.unique ticket' ticket task₀ task taken₀ taken owns₀ owns same
      subst ticketEq
      rw [taken] at taken₀
      cases taken₀
      unfold MayStart at may
      rw [point] at may
      rcases may with starting | ⟨unstarted, _⟩
      · cases starting
      · cases unstarted
    cases origin with
    | opened claims => cases claims
    | kept taken₀ | dispatched _ taken₀ | advanced _ taken₀ =>
        exact (before _ taken₀ own (live_before moves wf taken₀ live')).elim

theorem settled_requeueOrphanedJobs {row : Job} (moves : Moves cron w .sweep w')
    (wf : WellFormed w) (member : row ∈ w.db.jobs) (orphaned : row.Orphaned w.now) :
    w'.Settled row.id w.now := by
  refine ⟨issued_mono moves (wf.issuedRows row member), ?_, fun _ _ _ _ _ _ => now_mono moves⟩
  intro row' member' same
  have change := step_row moves wf member member' same
  cases change with
  | kept spared => exact absurd orphaned spared
  | reclaimed => rfl

theorem settled_retryDLQJob {orgId : UUID} (moves : Moves cron w (.api (.retryDLQJob id orgId)) w')
    (wf : WellFormed w) : w'.Settled id w.now := by
  have issued : id ∈ w.issued := by
    cases moves with
    | api _ db _ _ performs =>
        cases perform_effect performs with
        | retried _ _ retries dead =>
            cases retries
            obtain ⟨old, member, rfl, _⟩ := dead
            exact wf.issuedRows old member
        | configured _ _ _ _ _ other => exact absurd rfl (other id orgId)
        | deleted _ _ _ _ other => exact absurd rfl (other id orgId)
        | inserted _ _ _ _ _ other => exact absurd rfl (other id orgId)
  refine ⟨issued_mono moves issued, ?_, fun _ _ _ _ _ _ => now_mono moves⟩
  intro row' member' same
  rcases step_rows moves wf.ids member' with ⟨row, member, change⟩ | ⟨_, api, drawn, _⟩
  · cases change with
    | kept spared => exact absurd same spared
    | retried => rfl
  · cases api
    cases drawn

/-- **A write settles its instant.** -/
theorem settled_of_write (taken : w.step cron a = some w') (inv : Undisturbed w)
    (writes : WritesRunAt cron w a id instant) : w'.Settled id instant := by
  have wf := inv.exclusive.wellFormed
  have moves := step_moves taken
  cases writes with
  | create taken₀ member new dated =>
      rw [taken] at taken₀
      cases taken₀
      exact settled_create moves wf member new dated
  | requeueForRetry found point => exact settled_requeueForRetry moves inv found point
  | requeueOrphanedJobs member orphaned => exact settled_requeueOrphanedJobs moves wf member orphaned
  | retryDLQJob => exact settled_retryDLQJob moves wf

end World

section Runs

variable {cron : CronParser} {trace : List (World × Action)} {w : World} {id : UUID}
  {instant : Timestamptz}

/-- The instant written last is settled. -/
theorem settled_of_latest (run : Run (scheduler cron) trace w) (timely : Meets Timely trace)
    (latest : LatestRunAt cron id instant trace) : w.Settled id instant := by
  induction run with
  | start => cases latest
  | next a previous taken ih =>
      rw [meets_cons] at timely
      have inv := (undisturbed_throughout previous timely.2).2
      cases latest with
      | here writes => exact World.settled_of_write taken inv writes
      | earlier silent latest =>
          exact World.settled_step (World.step_moves taken) inv.exclusive.wellFormed silent
            (ih timely.2 latest)

/-- A job that has a row or a task has been written an instant. -/
theorem exists_latest (run : Run (scheduler cron) trace w)
    (present : (∃ row ∈ w.db.jobs, row.id = id) ∨
      ∃ ticket task, w.tasks ticket = some task ∧ task.job.id = id) :
    ∃ instant, LatestRunAt cron id instant trace := by
  induction run with
  | start initial =>
      obtain ⟨now, policies, rfl⟩ := initial
      rcases present with ⟨row, member, _⟩ | ⟨ticket, task, taken, _⟩
      · cases member
      · cases taken
  | @next trace s s' a previous taken ih =>
      by_cases writes : ∃ instant, WritesRunAt cron s a id instant
      · obtain ⟨instant, writes⟩ := writes
        exact ⟨instant, .here writes⟩
      have silent : ∀ instant, ¬ WritesRunAt cron s a id instant :=
        fun instant writes' => writes ⟨instant, writes'⟩
      have inv := (columned_throughout previous).2
      have moves := World.step_moves taken
      suffices earlier : (∃ row ∈ s.db.jobs, row.id = id) ∨
          ∃ ticket task, s.tasks ticket = some task ∧ task.job.id = id by
        obtain ⟨instant, latest⟩ := ih earlier
        exact ⟨instant, .earlier silent latest⟩
      rcases present with ⟨row', member', own⟩ | ⟨ticket, task', taken', own⟩
      · rcases World.step_rows moves inv.wellFormed.ids member' with ⟨row, member, change⟩ | new
        · exact .inl ⟨row, member, change.id.symm.trans own⟩
        · -- a new row is dated
          obtain ⟨instant, dated⟩ := Option.ne_none_iff_exists'.mp new.columns.dated
          obtain ⟨request, rfl, _, fresh, _⟩ := new
          refine absurd (.create taken member' ?_ dated) (own ▸ silent instant)
          intro old oldMember same
          rw [← same] at fresh
          exact fresh (inv.wellFormed.issuedRows old oldMember)
      · cases World.step_tasks moves inv.wellFormed.ids taken' with
        | opened _ _ _ _ member => exact .inl ⟨_, member, own⟩
        | kept found | dispatched _ found | advanced _ found => exact .inr ⟨ticket, _, found, own⟩

end Runs

/-- **No handler starts early.** When an execution of a live engine starts its handler in a
timely run, an instant has been written to the job's `next_run_at`, and the one written last
is not after the start. -/
theorem never_early (cron : CronParser) (trace : List (World × Action)) (w w' : World)
    (ticket : Nat) (nanos : Fin 1000) (task : Task)
    (run : Run (scheduler cron) ((w, .exec ticket (.starts nanos)) :: trace) w')
    (timely : Meets Timely ((w, .exec ticket (.starts nanos)) :: trace))
    (taken : w.tasks ticket = some task) (live : w.Live task.worker) :
    (∃ instant, LatestRunAt cron task.job.id instant trace) ∧
      ∀ instant, LatestRunAt cron task.job.id instant trace → instant ≤ w.now := by
  rw [meets_cons] at timely
  cases run with
  | next _ previous starts =>
      refine ⟨exists_latest previous (.inr ⟨ticket, task, taken, rfl⟩), ?_⟩
      intro instant latest
      have settled := settled_of_latest previous timely.2 latest
      refine settled.past ticket task taken rfl ?_ live
      -- only the point before the handler's call admits this response
      have moves : World.Moves cron w (.exec ticket (.starts nanos)) w' := World.step_moves starts
      cases moves with
      | exec _ _ task₀ engine db pc event taken₀ found alive permitted advances =>
          rw [taken] at taken₀
          cases taken₀
          have next := advance_next advances
          generalize before : task.pc = point at next
          cases next with
          | started =>
              refine .inl ?_
              rw [before]
              rfl

/-- The execution whose handler the step starts. -/
def Action.starts? : Action → Option Nat
  | .exec ticket (.starts _) => some ticket
  | _ => none

theorem Action.eq_starts {a : Action} {ticket : Nat} (starts : a.starts? = some ticket) :
    ∃ nanos, a = .exec ticket (.starts nanos) := by
  cases a with
  | exec other response =>
      cases response with
      | starts nanos =>
          cases starts
          exact ⟨nanos, rfl⟩
      | _ => cases starts
  | _ => cases starts

/-- A job delayed by ten seconds, which is claimed and started when it is due. -/
def delayedStart : List Action :=
  ([.api (.createOrg 1 "org" "org"), .api (.createProject 2 1 "project" "project" none),
    .api (.createQueue (Scenario.queue 3)),
    .api (.createJob 4 { Scenario.request none with delaySeconds := some 10 } (Scenario.queue 3)),
    .register 5 Scenario.config, .tick 10000000] : List Action) ++ Scenario.take 5 ++
    ([.exec 0 (.call true 0), .exec 0 (.call true 0), .exec 0 .starts] : List Action)

theorem never_early_delayedStart :
    ∃ trace w w' nanos,
      Run (scheduler Scenario.cron) ((w, .exec 0 (.starts nanos)) :: trace) w' ∧
      (∃ instant, LatestRunAt Scenario.cron 4 instant trace) ∧
      ∀ instant, LatestRunAt Scenario.cron 4 instant trace → instant ≤ w.now := by
  obtain ⟨trace, w', run, ⟨⟨w, a⟩, last, starts, task, taken, own, engine, found, running⟩, idle⟩ :=
    exists_run_of_execute (scheduler Scenario.cron) delayedStart (World.start 0 [])
      (fun trace _ => (∃ entry ∈ trace.head?, entry.2.starts? = some 0 ∧
          ∃ task ∈ entry.1.tasks 0, task.job.id = 4 ∧
            ∃ engine ∈ entry.1.engines task.worker, engine.status = .running) ∧
        ∀ entry ∈ trace, entry.2.isSweep → ∀ row ∈ entry.1.db.jobs, ¬ row.Orphaned entry.1.now)
      ⟨0, [], rfl⟩ (by decide)
  cases run with
  | start => cases last
  | next a' previous steps =>
      cases last
      obtain ⟨nanos, rfl⟩ := Action.eq_starts starts
      have run := previous.next _ steps
      have punctual := never_early _ _ w w' 0 nanos task run (timely_of_idle_sweeps idle) taken
        ⟨engine, found, running⟩
      rw [own] at punctual
      exact ⟨_, w, w', nanos, run, punctual⟩

end JobScheduler
