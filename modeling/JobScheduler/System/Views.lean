import JobScheduler.System.Moves
import JobScheduler.System.Requests

/-!
# How a step changes rows, tasks and engines

Three readings of a step. Every row after it is new, or an old row treated in one of the
ways `RowStep` lists (`step_rows`). Every task after it is opened by a claim, dispatched,
advanced, or kept up to its history flags (`step_tasks`). Every engine after it is newly
registered, or an old one that has kept its configuration and has not come back to life
(`step_engines`).
-/

set_option autoImplicit false

namespace JobScheduler

open Relational

namespace World

variable {cron : CronParser} {w w' : World} {a : Action}

/-! ## Rows -/

/-- Why a row that could have been written was not. -/
def Spares (w : World) (row : Job) : Action → Prop
  | .heartbeat worker => ¬ row.RenewedBy worker
  | .sweep => ¬ row.Orphaned w.now
  | .release worker true => ¬ row.ReleasedBy worker
  | .api (.retryDLQJob id _) => row.id ≠ id
  | .exec ticket (.call true _) => ∀ task, w.tasks ticket = some task →
      row.id = task.job.id → task.pc.rewrite w.now task.job ≠ none →
      ∃ errMsg, task.pc = .moveToDLQ errMsg ∧
        ∃ entry ∈ w.db.deadLetterQueue, entry.jobId = task.job.id
  | _ => True

/-- The treatments of a row by a step. -/
inductive RowStep (w : World) : Action → Job → Job → Prop where
  | kept {a : Action} {row : Job} (spared : w.Spares row a) : RowStep w a row row
  | claimed {worker : UUID} {tie emit : UUID → Nat} {engine : Engine} {queueId : UUID}
      {row : Job} (found : w.engines worker = some engine)
      (running : engine.status = .running) (claimable : row.Claimable queueId w.now) :
      RowStep w (.claim worker tie emit true) row
        (row.claim w.now worker engine.cfg.leaseSeconds)
  | written {ticket : Nat} {draw : Int} {task : Task} {rewrite : Job → Job} {row : Job}
      (taken : w.tasks ticket = some task) (live : w.Live task.worker)
      (writes : task.pc.rewrite w.now task.job = some rewrite)
      (own : row.id = task.job.id) :
      RowStep w (.exec ticket (.call true draw)) row (rewrite row)
  | renewed {worker : UUID} {engine : Engine} {row : Job}
      (found : w.engines worker = some engine) (running : engine.status = .running)
      (renews : row.RenewedBy worker) :
      RowStep w (.heartbeat worker) row (row.renewLease w.now engine.cfg.leaseSeconds)
  | released {worker : UUID} {engine : Engine} {row : Job}
      (found : w.engines worker = some engine) (cancelled : engine.status = .cancelled)
      (releases : row.ReleasedBy worker) :
      RowStep w (.release worker true) row (row.release w.now)
  | reclaimed {row : Job} (orphaned : row.Orphaned w.now) :
      RowStep w .sweep row (row.requeueOrphaned w.now)
  | retried {row : Job} {orgId : UUID} (dead : row.status = .deadLetter) :
      RowStep w (.api (.retryDLQJob row.id orgId)) row (row.retryDLQ w.now)

/-- No treatment changes the columns fixed at creation. -/
theorem RowStep.fixed {row row' : Job} (change : RowStep w a row row') :
    row'.fixed = row.fixed := by
  cases change with
  | written _ _ writes _ => exact Pc.fixed_rewrite writes
  | kept | claimed | renewed | released | reclaimed | retried => rfl

theorem RowStep.id {row row' : Job} (change : RowStep w a row row') : row'.id = row.id :=
  Job.id_eq_of_fixed change.fixed

/-- A row inserted by the step. -/
def NewRow (w : World) (a : Action) (row : Job) : Prop :=
  ∃ request, a = .api request ∧ row.id ∈ request.drawn ∧ row.id ∉ w.issued ∧
    InsertedRow w.now w.db row

/-- An execution step without effect on jobs spares every row. -/
theorem spares_of_missing {ticket : Nat} {task : Task} {response : Response} {row : Job}
    (taken : w.tasks ticket = some task)
    (missing : ∀ draw, response = .call true draw → task.pc.rewrite w.now task.job ≠ none →
      ∃ errMsg, task.pc = .moveToDLQ errMsg ∧
        ∃ entry ∈ w.db.deadLetterQueue, entry.jobId = task.job.id) :
    w.Spares row (.exec ticket response) := by
  cases response with
  | call succeeds draw =>
      cases succeeds with
      | false => trivial
      | true =>
          intro other taken' _ due
          rw [taken] at taken'
          cases taken'
          exact missing draw rfl due
  | starts => trivial
  | returns => trivial

/-- A request that is no retry spares every row. -/
theorem spares_of_other {request : Request} {row : Job}
    (other : ∀ id orgId, request ≠ .retryDLQJob id orgId) : w.Spares row (.api request) := by
  cases request with
  | retryDLQJob id orgId => exact absurd rfl (other id orgId)
  | _ => trivial

/-- **The rows after a step.** -/
theorem step_rows (moves : Moves cron w a w') (ids : (w.db.jobs.map (·.id)).Nodup)
    {row' : Job} (member : row' ∈ w'.db.jobs) :
    (∃ row ∈ w.db.jobs, RowStep w a row row') ∨ NewRow w a row' := by
  cases moves with
  | api request db nodup fresh performs =>
      cases perform_effect performs with
      | configured jobs _ _ _ _ other =>
          rw [show db.jobs = w.db.jobs from jobs] at member
          exact .inl ⟨row', member, .kept (spares_of_other other)⟩
      | deleted gone jobs _ _ other =>
          rw [show db.jobs = _ from jobs] at member
          exact .inl ⟨row', List.mem_of_mem_filter member, .kept (spares_of_other other)⟩
      | inserted rows result drawn made _ other =>
          subst result
          rcases List.mem_append.mp member with member | member
          · exact .inl ⟨row', member, .kept (spares_of_other other)⟩
          · have new := drawn.subset (List.mem_map_of_mem member)
            exact .inr ⟨request, rfl, new, fresh _ new, made row' member⟩
      | retried id orgId retries dead result =>
          subst retries
          subst result
          rcases cases_mem_update member with ⟨old, spared⟩ | ⟨row, rowMember, rfl, rfl⟩
          · exact .inl ⟨row', old, .kept spared⟩
          · -- the status was checked on the row found by id, and the id is unique
            obtain ⟨old, oldMember, same, status⟩ := dead
            have eq := eq_of_key_eq ids oldMember rowMember same
            subst eq
            exact .inl ⟨old, oldMember, .retried status⟩
  | sweep =>
      rcases cases_mem_update member with ⟨old, spared⟩ | ⟨row, old, orphaned, rfl⟩
      · exact .inl ⟨row', old, .kept spared⟩
      · exact .inl ⟨row, old, .reclaimed orphaned⟩
  | heartbeat worker engine found running =>
      rcases cases_mem_update member with ⟨old, spared⟩ | ⟨row, old, renews, rfl⟩
      · exact .inl ⟨row', old, .kept spared⟩
      · exact .inl ⟨row, old, .renewed found running renews⟩
  | claim worker tie emit engine queueId queues db jobs found running phase claims =>
      obtain ⟨targets, claimable, rfl, _⟩ := w.db.claimJobs_spec claims
      rcases cases_mem_update member with ⟨old, _⟩ | ⟨row, rowMember, target, rfl⟩
      · exact .inl ⟨row', old, .kept trivial⟩
      · obtain ⟨old, oldMember, same, eligible⟩ := claimable row.id target
        have eq := eq_of_key_eq ids oldMember rowMember same
        subst eq
        exact .inl ⟨old, oldMember, .claimed found running eligible⟩
  | release worker succeeds engine found cancelled phase =>
      cases succeeds with
      | false => exact .inl ⟨row', member, .kept trivial⟩
      | true =>
          rcases cases_mem_update member with ⟨old, spared⟩ | ⟨row, old, releases, rfl⟩
          · exact .inl ⟨row', old, .kept spared⟩
          · exact .inl ⟨row, old, .released found cancelled releases⟩
  | deregister worker succeeds engine found cancelled phase =>
      cases succeeds with
      | false => exact .inl ⟨row', member, .kept trivial⟩
      | true => exact .inl ⟨row', member, .kept trivial⟩
  | exec ticket response task engine db pc event taken found alive permitted advances =>
      cases advance_effect advances with
      | spared same missing =>
          rw [show db.jobs = w.db.jobs from same.jobs] at member
          exact .inl ⟨row', member, .kept (spares_of_missing taken missing)⟩
      | written writes free =>
          have live : w.Live task.worker := ⟨engine, found, permitted _ rfl⟩
          rcases cases_mem_update member with ⟨old, other⟩ | ⟨row, old, own, rfl⟩
          · refine .inl ⟨row', old, .kept ?_⟩
            intro task' taken' own
            rw [taken] at taken'
            cases taken'
            exact absurd own other
          · exact .inl ⟨row, old, .written taken live writes own⟩
  | tick | markDead | register | cancel | crash | poll | claimFailed | dispatch | proceed
  | finish => exact .inl ⟨row', member, .kept trivial⟩

/-! ## Identities -/

/-- **The jobs and queues after a step.** Only a request adds or removes jobs and queues;
any other step keeps the jobs in place and the queues as they are. -/
theorem step_tables (moves : Moves cron w a w') :
    (∃ request, a = .api request ∧ request.drawn.Nodup ∧
      (∀ id ∈ request.drawn, id ∉ w.issued) ∧ w'.issued = request.drawn ++ w.issued ∧
      RequestEffect w.now w.db request w'.db) ∨
    (w'.db.jobs.map (·.id) = w.db.jobs.map (·.id) ∧ w'.db.queues = w.db.queues) := by
  cases moves with
  | api request db nodup fresh performs =>
      exact .inl ⟨request, rfl, nodup, fresh, rfl, perform_effect performs⟩
  | sweep => exact .inr ⟨map_update fun _ => rfl, rfl⟩
  | heartbeat => exact .inr ⟨map_update fun _ => rfl, rfl⟩
  | claim worker tie emit engine queueId queues db jobs found running phase claims =>
      obtain ⟨targets, _, rfl, _⟩ := w.db.claimJobs_spec claims
      exact .inr ⟨map_update fun _ => rfl, rfl⟩
  | release worker succeeds =>
      cases succeeds with
      | false => exact .inr ⟨rfl, rfl⟩
      | true => exact .inr ⟨map_update fun _ => rfl, rfl⟩
  | deregister worker succeeds =>
      cases succeeds with
      | false => exact .inr ⟨rfl, rfl⟩
      | true => exact .inr ⟨rfl, rfl⟩
  | exec ticket response task engine db pc event taken found alive permitted advances =>
      cases advance_effect advances with
      | spared same => exact .inr ⟨congrArg _ same.jobs, same.queues⟩
      | written writes =>
          exact .inr ⟨map_update fun _ => Job.id_eq_of_fixed (Pc.fixed_rewrite writes), rfl⟩
  | tick | markDead | register | cancel | crash | poll | claimFailed | dispatch | proceed
  | finish => exact .inr ⟨rfl, rfl⟩

/-! ## Tasks -/

/-- The origins of a task after a step. -/
inductive TaskStep (w w' : World) (a : Action) (ticket : Nat) : Task → Prop where
  | opened {worker : UUID} {tie emit : UUID → Nat} {engine : Engine} {queueId : UUID}
      {row : Job} (claims : a = .claim worker tie emit true) (fresh : w.nextTicket ≤ ticket)
      (found : w.engines worker = some engine) (running : engine.status = .running)
      (member : row ∈ w.db.jobs) (claimable : row.Claimable queueId w.now)
      (written : row.claim w.now worker engine.cfg.leaseSeconds ∈ w'.db.jobs) :
      TaskStep w w' a ticket
        ⟨worker, row.claim w.now worker engine.cfg.leaseSeconds, .pending, false, false⟩
  | kept {task : Task} {reclaimed superseded : Bool} (taken : w.tasks ticket = some task)
      (idle : ∀ response, a ≠ .exec ticket response)
      (keeps : task.reclaimed = true → reclaimed = true)
      (loses : reclaimed = true → task.reclaimed = true ∨ a = .sweep ∧ w.LosesClaim task)
      (swept : a = .sweep → w.LosesClaim task → reclaimed = true)
      (supersedes : superseded = true → task.superseded = true ∨ task.reclaimed = true) :
      TaskStep w w' a ticket { task with reclaimed := reclaimed, superseded := superseded }
  | dispatched {task : Task} {worker : UUID} (dispatches : a = .dispatch worker)
      (taken : w.tasks ticket = some task) (pending : task.pc = .pending) :
      TaskStep w w' a ticket { task with pc := Pc.entry task.job }
  | advanced {task : Task} {response : Response} {engine : Engine} {pc : Pc}
      {event : Option Event} (executes : a = .exec ticket response)
      (taken : w.tasks ticket = some task) (found : w.engines task.worker = some engine)
      (permitted : ∀ draw, response = .call true draw → engine.status = .running)
      (advances : advance engine.cfg.handlers task.worker w.now task.job w.db task.pc response =
        some (w'.db, pc, event))
      (recorded : w'.events = event.toList ++ w.events) :
      TaskStep w w' a ticket { task with pc := pc }

/-- A task the step does not touch. -/
theorem TaskStep.same {ticket : Nat} {task : Task} (taken : w.tasks ticket = some task)
    (idle : ∀ response, a ≠ .exec ticket response) (noSweep : a ≠ .sweep) :
    TaskStep w w' a ticket task :=
  .kept taken idle id (fun flagged => .inl flagged) (fun sweeps => absurd sweeps noSweep)
    (fun flagged => .inl flagged)

/-- **The tasks after a step.** -/
theorem step_tasks (moves : Moves cron w a w') (ids : (w.db.jobs.map (·.id)).Nodup)
    {ticket : Nat} {task' : Task}
    (taken' : w'.tasks ticket = some task') : TaskStep w w' a ticket task' := by
  cases moves with
  | sweep =>
      obtain ⟨task, taken, rfl⟩ := Option.map_eq_some_iff.mp taken'
      split
      next loses =>
        exact .kept taken (by simp) (fun _ => rfl) (fun _ => .inr ⟨rfl, loses⟩)
          (fun _ _ => rfl) (fun flagged => .inl flagged)
      next keeps =>
        exact .kept taken (by simp) id (fun flagged => .inl flagged)
          (fun _ loses => absurd loses keeps) (fun flagged => .inl flagged)
  | claim worker tie emit engine queueId queues db jobs found running phase claims =>
      replace taken' : w.tasksAfterClaim worker jobs ticket = some task' := taken'
      unfold tasksAfterClaim at taken'
      split at taken'
      next fresh =>
        obtain ⟨job, listed, rfl⟩ := Option.map_eq_some_iff.mp taken'
        obtain ⟨targets, claimable, rfl, returned⟩ := w.db.claimJobs_spec claims
        have member := returned.mem_iff.mp (List.mem_of_getElem? listed)
        obtain ⟨row, rowMember, rfl⟩ := List.mem_map.mp member
        rw [List.mem_filter, decide_eq_true_eq] at rowMember
        obtain ⟨old, oldMember, same, eligible⟩ := claimable row.id rowMember.2
        have eq := eq_of_key_eq ids oldMember rowMember.1 same
        subst eq
        exact .opened rfl fresh found running oldMember eligible
          (mem_update_of_selects oldMember rowMember.2)
      next old =>
        obtain ⟨task, taken, rfl⟩ := Option.map_eq_some_iff.mp taken'
        unfold supersede
        split
        next superseded =>
          exact .kept taken (by simp) id (fun flagged => .inl flagged)
            (fun sweeps => by cases sweeps) (fun _ => .inr superseded.1)
        · exact .same taken (by simp) (by simp)
  | dispatch worker engine ticket' tickets queues task found alive phase taken pending free =>
      by_cases same : ticket = ticket'
      · subst same
        simp only [setTask, Function.update_self] at taken'
        cases taken'
        exact .dispatched rfl taken pending
      · simp only [setTask, Function.update_of_ne same] at taken'
        exact .same taken' (by simp) (by simp)
  | exec ticket' response task engine db pc event taken found alive permitted advances =>
      by_cases same : ticket = ticket'
      · subst same
        simp only [setTask, Function.update_self] at taken'
        cases taken'
        exact .advanced rfl taken found permitted advances rfl
      · simp only [setTask, Function.update_of_ne same] at taken'
        refine .same taken' ?_ (by simp)
        intro other clash
        cases clash
        exact same rfl
  | finish ticket' task engine taken returned found alive =>
      by_cases same : ticket = ticket'
      · subst same
        simp only [setTask, Function.update_self] at taken'
        cases taken'
      · simp only [setTask, Function.update_of_ne same] at taken'
        exact .same taken' (by simp) (by simp)
  | tick | api | markDead | register | heartbeat | cancel | crash | poll | claimFailed
  | proceed | release | deregister => exact .same taken' (by simp) (by simp)

/-! ## Engines -/

/-- The status of an engine changes by its own cancellation or crash only. -/
def StatusStep (a : Action) (worker : UUID) (before after : EngineStatus) : Prop :=
  after = before ∨ a = .cancel worker ∧ before = .running ∧ after = .cancelled ∨
    a = .crash worker ∧ after = .crashed

/-- The goroutine of `Run` stays where it is or goes on, not in a crashed engine, and past
`ReleaseJobs` only in a cancelled one. -/
def PhaseStep (a : Action) (worker : UUID) (engine : Engine) (after : PollPhase) : Prop :=
  after = engine.phase ∨ engine.status ≠ .crashed ∧
    (after.released = false ∨ engine.status = .cancelled ∧
      (engine.phase.released = true ∨ ∃ succeeds, a = .release worker succeeds))

/-- The origins of an engine after a step. -/
inductive EngineStep (w : World) (a : Action) (worker : UUID) : Engine → Prop where
  | registered {cfg : Config} (registers : a = .register worker cfg)
      (fresh : worker ∉ w.issued) :
      EngineStep w a worker ⟨cfg, .running, .idle, [], 0, w.now⟩
  | kept {engine engine' : Engine} (found : w.engines worker = some engine)
      (cfg : engine'.cfg = engine.cfg)
      (status : StatusStep a worker engine.status engine'.status)
      (beat : engine'.lastBeat = engine.lastBeat ∧ a ≠ .heartbeat worker ∨
        engine'.lastBeat = w.now ∧ a = .heartbeat worker)
      (phase : PhaseStep a worker engine engine'.phase) :
      EngineStep w a worker engine'

/-- An engine does not come back to life. -/
theorem StatusStep.alive {worker : UUID} {before after : EngineStatus}
    (change : StatusStep a worker before after) (running : after = .running) :
    before = .running := by
  rcases change with same | ⟨_, _, cancelled⟩ | ⟨_, crashed⟩
  · rw [← same, running]
  · rw [cancelled] at running
    cases running
  · rw [crashed] at running
    cases running

/-- Another engine than the one a step replaces. -/
theorem EngineStep.same {worker : UUID} {engine : Engine}
    (found : w.engines worker = some engine) (noBeat : a ≠ .heartbeat worker) :
    EngineStep w a worker engine :=
  .kept found rfl (.inl rfl) (.inl ⟨rfl, noBeat⟩) (.inl rfl)

/-- Replacing one engine by a later state of itself. -/
theorem EngineStep.replace {worker other : UUID} {engine engine' found' : Engine}
    (found : w.engines worker = some engine)
    (after : Function.update w.engines worker (some engine') other = some found')
    (cfg : engine'.cfg = engine.cfg)
    (status : StatusStep a worker engine.status engine'.status)
    (beat : engine'.lastBeat = engine.lastBeat) (noBeat : ∀ id, a ≠ .heartbeat id)
    (phase : PhaseStep a worker engine engine'.phase) : EngineStep w a other found' := by
  by_cases same : other = worker
  · subst same
    rw [Function.update_self] at after
    cases after
    exact .kept found cfg status (.inl ⟨beat, noBeat _⟩) phase
  · rw [Function.update_of_ne same] at after
    exact .same after (noBeat _)

/-- The moves of `Run` without a store call do not get past `ReleaseJobs`. -/
theorem released_nextPhase {engine : Engine} {phase : PollPhase}
    (next : w.nextPhase engine = some phase) : phase.released = false := by
  unfold nextPhase at next
  split at next
  · cases next
    rfl
  · cases next
    rfl
  · split at next
    · cases next
      rfl
    · cases next
  · split at next
    · cases next
      rfl
    · cases next
  · split at next
    · cases next
      rfl
    · cases next
  · cases next

/-- **The engines after a step.** -/
theorem step_engines (moves : Moves cron w a w') {worker : UUID} {engine' : Engine}
    (found' : w'.engines worker = some engine') : EngineStep w a worker engine' := by
  cases moves with
  | register other cfg fresh =>
      by_cases same : worker = other
      · subst same
        simp only [setEngine, Function.update_self] at found'
        cases found'
        exact .registered rfl fresh
      · simp only [setEngine, Function.update_of_ne same] at found'
        exact .same found' (by simp)
  | heartbeat other engine found running =>
      by_cases same : worker = other
      · subst same
        simp only [setEngine, Function.update_self] at found'
        cases found'
        exact .kept found rfl (.inl rfl) (.inr ⟨rfl, rfl⟩) (.inl rfl)
      · simp only [setEngine, Function.update_of_ne same] at found'
        refine .same found' ?_
        intro clash
        cases clash
        exact same rfl
  | cancel other engine found running =>
      exact .replace found found' rfl (.inr (.inl ⟨rfl, running, rfl⟩)) rfl (by simp) (.inl rfl)
  | crash other engine found =>
      exact .replace found found' rfl (.inr (.inr ⟨rfl, rfl⟩)) rfl (by simp) (.inl rfl)
  | poll other emit engine found running =>
      exact .replace found found' rfl (.inl rfl) rfl (by simp)
        (.inr ⟨by simp [running], .inl rfl⟩)
  | claim other tie emit engine queueId queues db jobs found running =>
      exact .replace found found' rfl (.inl rfl) rfl (by simp)
        (.inr ⟨by simp [running], .inl rfl⟩)
  | claimFailed other tie emit succeeds engine queueId queues found running =>
      exact .replace found found' rfl (.inl rfl) rfl (by simp)
        (.inr ⟨by simp [running], .inl rfl⟩)
  | dispatch other engine ticket tickets queues task found alive =>
      exact .replace found found' rfl (.inl rfl) rfl (by simp) (.inr ⟨alive, .inl rfl⟩)
  | proceed other engine phase found alive next =>
      exact .replace found found' rfl (.inl rfl) rfl (by simp)
        (.inr ⟨alive, .inl (released_nextPhase next)⟩)
  | release other succeeds engine found cancelled phase =>
      exact .replace found found' rfl (.inl rfl) rfl (by simp)
        (.inr ⟨by simp [cancelled], .inr ⟨cancelled, .inr ⟨succeeds, rfl⟩⟩⟩)
  | deregister other succeeds engine found cancelled phase =>
      exact .replace found found' rfl (.inl rfl) rfl (by simp)
        (.inr ⟨by simp [cancelled], .inr ⟨cancelled, .inl (by rw [phase]; rfl)⟩⟩)
  | finish ticket task engine taken returned found =>
      exact .replace found found' rfl (.inl rfl) rfl (by simp) (.inl rfl)
  | tick | api | sweep | markDead | exec => exact .same found' (by simp)

/-- An engine that replaces one under the same id stays registered. -/
theorem update_employs {worker other : UUID} {engine engine' : Engine}
    (found : w.engines worker = some engine) :
    ∃ after, Function.update w.engines other (some engine') worker = some after := by
  by_cases same : worker = other
  · subst same
    exact ⟨engine', Function.update_self ..⟩
  · exact ⟨engine, by rw [Function.update_of_ne same, found]⟩

/-- Engines never disappear. -/
theorem step_employs (moves : Moves cron w a w') {worker : UUID} {engine : Engine}
    (found : w.engines worker = some engine) : ∃ engine', w'.engines worker = some engine' := by
  cases moves with
  | tick | api | sweep | markDead | exec => exact ⟨engine, found⟩
  | _ => exact update_employs found

/-- An engine that is live after a step was live before or has just registered. -/
theorem step_live (moves : Moves cron w a w') {worker : UUID} (live : w'.Live worker) :
    w.Live worker ∨ ∃ cfg, a = .register worker cfg ∧ worker ∉ w.issued := by
  obtain ⟨engine', found', running⟩ := live
  cases step_engines moves found' with
  | registered registers fresh => exact .inr ⟨_, registers, fresh⟩
  | kept found cfg status => exact .inl ⟨_, found, status.alive running⟩

/-- A live engine stays live unless it crashes or is cancelled. -/
theorem live_after (moves : Moves cron w a w') {worker : UUID} (live : w.Live worker)
    (spared : a ≠ .crash worker ∧ a ≠ .cancel worker) : w'.Live worker := by
  obtain ⟨engine, found, running⟩ := live
  obtain ⟨engine', found'⟩ := step_employs moves found
  refine ⟨engine', found', ?_⟩
  cases step_engines moves found' with
  | registered => rfl
  | kept found₀ cfg status =>
      rw [found] at found₀
      cases found₀
      rcases status with same | ⟨cancels, _⟩ | ⟨crashes, _⟩
      · rw [same, running]
      · exact absurd cancels spared.2
      · exact absurd crashes spared.1

/-- A cancelled engine was cancelled before or is being cancelled. -/
theorem cancelled_before (moves : Moves cron w a w') {worker : UUID} {engine' : Engine}
    (found' : w'.engines worker = some engine') (cancelled : engine'.status = .cancelled) :
    (∃ engine, w.engines worker = some engine ∧ engine.status = .cancelled) ∨
      a = .cancel worker ∧ w.Live worker := by
  cases step_engines moves found' with
  | registered => cases cancelled
  | kept found cfg status =>
      rcases status with same | ⟨cancels, running, _⟩ | ⟨_, crashed⟩
      · exact .inl ⟨_, found, by rw [← same, cancelled]⟩
      · exact .inr ⟨cancels, _, found, running⟩
      · rw [crashed] at cancelled
        cases cancelled

/-- A crashed engine stays as it is. -/
theorem crashed_after (moves : Moves cron w a w') {worker : UUID} {engine : Engine}
    (found : w.engines worker = some engine) (crashed : engine.status = .crashed)
    (enrolled : worker ∈ w.issued) :
    ∃ engine', w'.engines worker = some engine' ∧ engine'.status = .crashed ∧
      engine'.phase = engine.phase := by
  obtain ⟨engine', found'⟩ := step_employs moves found
  refine ⟨engine', found', ?_⟩
  cases step_engines moves found' with
  | registered _ fresh => exact absurd enrolled fresh
  | kept found₀ cfg status _ phase =>
      rw [found] at found₀
      cases found₀
      constructor
      · rcases status with same | ⟨_, running, _⟩ | ⟨_, after⟩
        · rw [same, crashed]
        · rw [crashed] at running
          cases running
        · exact after
      · rcases phase with same | ⟨alive, _⟩
        · exact same
        · exact absurd crashed alive

/-- What becomes of the counter of a task in a step. -/
inductive CounterStep (w w' : World) (a : Action) (ticket : Nat) (task : Task) : Pc → Prop where
  | kept (idle : ∀ response, a ≠ .exec ticket response) :
      CounterStep w w' a ticket task task.pc
  | dispatched (pending : task.pc = .pending) :
      CounterStep w w' a ticket task (Pc.entry task.job)
  | advanced {response : Response} {engine : Engine} {pc : Pc} {event : Option Event}
      (executes : a = .exec ticket response) (found : w.engines task.worker = some engine)
      (permitted : ∀ draw, response = .call true draw → engine.status = .running)
      (advances : advance engine.cfg.handlers task.worker w.now task.job w.db task.pc response =
        some (w'.db, pc, event)) :
      CounterStep w w' a ticket task pc

/-- **The future of a task.** A task stays, with its job and its worker, until its
goroutine ends. -/
theorem task_after (moves : Moves cron w a w') {ticket : Nat} {task : Task}
    (old : ticket < w.nextTicket) (taken : w.tasks ticket = some task) :
    (∃ task', w'.tasks ticket = some task' ∧ task'.job = task.job ∧
      task'.worker = task.worker ∧ CounterStep w w' a ticket task task'.pc ∧
      (task'.reclaimed = true → task.reclaimed = true ∨ a = .sweep ∧ w.LosesClaim task)) ∨
    task.pc = .returned := by
  cases moves with
  | sweep =>
      refine .inl ⟨if w.LosesClaim task then { task with reclaimed := true } else task, ?_, ?_⟩
      · change (w.tasks ticket).map _ = _
        rw [taken]
        rfl
      · split
        next loses => exact ⟨rfl, rfl, .kept (by simp), fun _ => .inr ⟨rfl, loses⟩⟩
        · exact ⟨rfl, rfl, .kept (by simp), .inl⟩
  | claim worker tie emit engine queueId queues db jobs found running phase claims =>
      refine .inl ⟨supersede worker jobs task, ?_, ?_⟩
      · change w.tasksAfterClaim worker jobs ticket = _
        rw [tasksAfterClaim, if_neg (by omega), taken]
        rfl
      · unfold supersede
        split
        · exact ⟨rfl, rfl, .kept (by simp), .inl⟩
        · exact ⟨rfl, rfl, .kept (by simp), .inl⟩
  | dispatch worker engine ticket' tickets queues task' found alive phase taken' pending free =>
      by_cases same : ticket = ticket'
      · subst same
        rw [taken] at taken'
        cases taken'
        exact .inl ⟨_, Function.update_self .., rfl, rfl, .dispatched pending, .inl⟩
      · refine .inl ⟨task, ?_, rfl, rfl, .kept (by simp), .inl⟩
        rw [← taken]
        exact Function.update_of_ne same ..
  | exec ticket' response task' engine db pc event taken' found alive permitted advances =>
      by_cases same : ticket = ticket'
      · subst same
        rw [taken] at taken'
        cases taken'
        exact .inl
          ⟨_, Function.update_self .., rfl, rfl, .advanced rfl found permitted advances, .inl⟩
      · refine .inl ⟨task, ?_, rfl, rfl, .kept ?_, .inl⟩
        · rw [← taken]
          exact Function.update_of_ne same ..
        · intro other clash
          cases clash
          exact same rfl
  | finish ticket' task' engine taken' returned found alive =>
      by_cases same : ticket = ticket'
      · subst same
        rw [taken] at taken'
        cases taken'
        exact .inr returned
      · refine .inl ⟨task, ?_, rfl, rfl, .kept (by simp), .inl⟩
        rw [← taken]
        exact Function.update_of_ne same ..
  | tick | api | markDead | register | heartbeat | cancel | crash | poll | claimFailed
  | proceed | release | deregister => 
    exact .inl ⟨task, taken, rfl, rfl, .kept (by simp), .inl⟩

/-! ## The clock and the events -/

/-- The clock never goes back. -/
theorem now_mono (moves : Moves cron w a w') : w.now ≤ w'.now := by
  cases moves with
  | tick micros =>
      exact Int.le_add_of_nonneg_right (Int.natCast_nonneg micros)
  | _ => exact le_rfl

/-- Events are never forgotten. -/
theorem events_mono (moves : Moves cron w a w') {event : Event} (member : event ∈ w.events) :
    event ∈ w'.events := by
  cases moves with
  | api => exact List.mem_append_right _ member
  | exec => exact List.mem_append_right _ member
  | _ => exact member

/-- A handler's nil return is recorded when it happens, by the execution that goes on to
`CompleteJob`. -/
theorem returnedNil_before (moves : Moves cron w a w') {jobId worker : UUID}
    (member : Event.handlerReturnedNil jobId worker ∈ w'.events) :
    Event.handlerReturnedNil jobId worker ∈ w.events ∨
      ∃ ticket task engine start finish nanos, a = .exec ticket (.returns none nanos) ∧
        w.tasks ticket = some task ∧ task.job.id = jobId ∧ task.worker = worker ∧
        task.pc = .handling start ∧ w.engines worker = some engine ∧
        engine.status ≠ .crashed ∧
        w'.tasks ticket = some { task with pc := .complete start finish } := by
  cases moves with
  | api request db nodup fresh performs =>
      rcases List.mem_append.mp member with new | old
      · cases request with
        | retryDLQJob id orgId =>
            simp only [Request.events, List.mem_singleton] at new
            cases new
        | _ => cases new
      · exact .inl old
  | exec ticket response task engine db pc event taken found alive permitted advances =>
      rcases List.mem_append.mp member with new | old
      · have next := advance_next advances
        rw [Option.mem_toList] at new
        generalize before : task.pc = pc₀ at next
        cases next with
        | @succeeded start nanos =>
            cases new
            exact .inr ⟨ticket, task, engine, start, _, nanos, rfl, taken, rfl, rfl, before, found, alive,
              Function.update_self ..⟩
        | _ => cases new
      · exact .inl old
  | _ => exact .inl member

end World

end JobScheduler
