import JobScheduler.System.World
import JobScheduler.Engine.Writes

/-!
# What one step of the system can do

`Moves` lists the outcomes of a step, each with its guard and the state it leads to.
`step_moves` reads the step function backwards into this list; every invariant is proved
by cases on it.
-/

set_option autoImplicit false

namespace JobScheduler

open Relational

namespace World

/-- An engine is live when it has neither crashed nor been cancelled. -/
def Live (w : World) (worker : UUID) : Prop :=
  ∃ engine, w.engines worker = some engine ∧ engine.status = .running

instance (w : World) : DecidablePred w.Live :=
  fun worker => inferInstanceAs (Decidable (∃ engine ∈ w.engines worker, _))

theorem Live.running {w : World} {worker : UUID} {engine : Engine} (live : w.Live worker)
    (found : w.engines worker = some engine) : engine.status = .running := by
  obtain ⟨engine', found', running⟩ := live
  rw [found] at found'
  cases found'
  exact running

/-- The outcomes of a step. -/
inductive Moves (cron : CronParser) (w : World) : Action → World → Prop where
  | tick (micros : Nat) : Moves cron w (.tick micros) { w with now := w.now + micros }
  | api (request : Request) (db : Database) (nodup : request.drawn.Nodup)
      (fresh : ∀ id ∈ request.drawn, id ∉ w.issued)
      (performs : request.perform cron w.now w.db = some db) :
      Moves cron w (.api request)
        { w with
          db := db
          issued := request.drawn ++ w.issued
          events := request.events ++ w.events }
  | sweep : Moves cron w .sweep w.sweep
  | markDead (staleThreshold : Int) :
      Moves cron w (.markDead staleThreshold)
        { w with db := w.db.markDeadWorkers w.now staleThreshold }
  | register (worker : UUID) (cfg : Config) (fresh : worker ∉ w.issued) :
      Moves cron w (.register worker cfg)
        { w.setEngine worker ⟨cfg, .running, .idle, [], 0, w.now⟩ with
          db := w.db.registerWorker w.now worker cfg.workerName
          issued := worker :: w.issued }
  | heartbeat (worker : UUID) (engine : Engine) (found : w.engines worker = some engine)
      (running : engine.status = .running) :
      Moves cron w (.heartbeat worker)
        { w.setEngine worker { engine with lastBeat := w.now } with
          db := w.db.heartbeat w.now worker engine.cfg.leaseSeconds }
  | cancel (worker : UUID) (engine : Engine) (found : w.engines worker = some engine)
      (running : engine.status = .running) :
      Moves cron w (.cancel worker) (w.setEngine worker { engine with status := .cancelled })
  | crash (worker : UUID) (engine : Engine) (found : w.engines worker = some engine) :
      Moves cron w (.crash worker) (w.setEngine worker { engine with status := .crashed })
  | poll (worker : UUID) (emit : UUID → Nat) (engine : Engine)
      (found : w.engines worker = some engine) (running : engine.status = .running)
      (idle : engine.phase = .idle) :
      Moves cron w (.poll worker emit) (w.setEngine worker { engine with
        phase := .claiming ((w.db.listActiveQueues emit).map (·.id)) })
  | claim (worker : UUID) (tie emit : UUID → Nat) (engine : Engine) (queueId : UUID)
      (queues : List UUID) (db : Database) (jobs : List Job)
      (found : w.engines worker = some engine) (running : engine.status = .running)
      (phase : engine.phase = .claiming (queueId :: queues))
      (claims : w.db.claimJobs w.now tie emit worker queueId engine.cfg.leaseSeconds =
        .ok (db, jobs)) :
      Moves cron w (.claim worker tie emit true)
        { w.setEngine worker
          { engine with
            phase := .dispatching (List.range' w.nextTicket jobs.length) queues } with
          db := db
          tasks := w.tasksAfterClaim worker jobs
          nextTicket := w.nextTicket + jobs.length }
  | claimFailed (worker : UUID) (tie emit : UUID → Nat) (succeeds : Bool) (engine : Engine)
      (queueId : UUID) (queues : List UUID) (found : w.engines worker = some engine)
      (running : engine.status = .running)
      (phase : engine.phase = .claiming (queueId :: queues)) :
      Moves cron w (.claim worker tie emit succeeds)
        (w.setEngine worker { engine with phase := .claiming queues })
  | dispatch (worker : UUID) (engine : Engine) (ticket : Nat) (tickets : List Nat)
      (queues : List UUID) (task : Task) (found : w.engines worker = some engine)
      (alive : engine.status ≠ .crashed)
      (phase : engine.phase = .dispatching (ticket :: tickets) queues)
      (taken : w.tasks ticket = some task) (pending : task.pc = .pending)
      (free : engine.slots.length < engine.cfg.maxConcurrency) :
      Moves cron w (.dispatch worker)
        ((w.setEngine worker
          { engine with
            phase := .dispatching tickets queues
            slots := ticket :: engine.slots
            waitGroup := engine.waitGroup + 1 }).setTask ticket
              (some { task with pc := Pc.entry task.job }))
  | proceed (worker : UUID) (engine : Engine) (phase : PollPhase)
      (found : w.engines worker = some engine) (alive : engine.status ≠ .crashed)
      (next : w.nextPhase engine = some phase) :
      Moves cron w (.proceed worker) (w.setEngine worker { engine with phase := phase })
  | release (worker : UUID) (succeeds : Bool) (engine : Engine)
      (found : w.engines worker = some engine) (cancelled : engine.status = .cancelled)
      (phase : engine.phase = .releasing) :
      Moves cron w (.release worker succeeds)
        { w.setEngine worker { engine with phase := .deregistering } with
          db := if succeeds then w.db.releaseJobs w.now worker else w.db }
  | deregister (worker : UUID) (succeeds : Bool) (engine : Engine)
      (found : w.engines worker = some engine) (cancelled : engine.status = .cancelled)
      (phase : engine.phase = .deregistering) :
      Moves cron w (.deregister worker succeeds)
        { w.setEngine worker { engine with phase := .stopped } with
          db := if succeeds then w.db.deregisterWorker w.now worker else w.db }
  | exec (ticket : Nat) (response : Response) (task : Task) (engine : Engine) (db : Database)
      (pc : Pc) (event : Option Event) (taken : w.tasks ticket = some task)
      (found : w.engines task.worker = some engine) (alive : engine.status ≠ .crashed)
      (permitted : ∀ draw, response = .call true draw → engine.status = .running)
      (advances : advance engine.cfg.handlers task.worker w.now task.job w.db task.pc response =
        some (db, pc, event)) :
      Moves cron w (.exec ticket response)
        { w.setTask ticket (some { task with pc := pc }) with
          db := db
          events := event.toList ++ w.events }
  | finish (ticket : Nat) (task : Task) (engine : Engine) (taken : w.tasks ticket = some task)
      (returned : task.pc = .returned) (found : w.engines task.worker = some engine)
      (alive : engine.status ≠ .crashed) :
      Moves cron w (.finish ticket)
        ((w.setEngine task.worker
          { engine with
            slots := engine.slots.erase ticket
            waitGroup := engine.waitGroup - 1 }).setTask ticket none)

variable {cron : CronParser} {w w' : World} {a : Action}

theorem claim_moves {worker : UUID} {tie emit : UUID → Nat} {succeeds : Bool}
    (claims : w.claim worker tie emit succeeds = some w') :
    Moves cron w (.claim worker tie emit succeeds) w' := by
  unfold claim at claims
  split at claims
  · cases claims
  next engine found =>
    split at claims
    next queueId queues running phase =>
      split at claims
      next db jobs answers =>
        cases claims
        exact .claim worker tie emit engine queueId queues db jobs found running phase answers
      · cases claims
        exact .claimFailed worker tie emit _ engine queueId queues found running phase
    · cases claims

theorem dispatch_moves {worker : UUID} (dispatches : w.dispatch worker = some w') :
    Moves cron w (.dispatch worker) w' := by
  unfold dispatch at dispatches
  split at dispatches
  · cases dispatches
  next engine found =>
    split at dispatches
    · cases dispatches
    next alive =>
      split at dispatches
      next ticket tickets queues phase =>
        split at dispatches
        next owner job reclaimed superseded taken =>
          split at dispatches
          next free =>
            cases dispatches
            exact .dispatch worker engine ticket tickets queues _ found alive phase taken rfl free
          · cases dispatches
        · cases dispatches
      · cases dispatches

theorem exec_moves {ticket : Nat} {response : Response}
    (executes : w.exec ticket response = some w') :
    Moves cron w (.exec ticket response) w' := by
  unfold exec at executes
  split at executes
  · cases executes
  next task taken =>
    split at executes
    · cases executes
    next engine found =>
      split at executes
      next permitted =>
        split at executes
        · cases executes
        next db pc event advances =>
          cases executes
          refine .exec ticket response task engine db pc event taken found
            (EngineStatus.alive_of_permits permitted) ?_ advances
          rintro draw rfl
          exact EngineStatus.running_of_permits permitted
      · cases executes

theorem finish_moves {ticket : Nat} (finishes : w.finish ticket = some w') :
    Moves cron w (.finish ticket) w' := by
  unfold finish at finishes
  split at finishes
  next worker job reclaimed superseded taken =>
    split at finishes
    · cases finishes
    next engine found =>
      split at finishes
      · cases finishes
      next alive =>
        cases finishes
        exact .finish ticket _ engine taken rfl found alive
  · cases finishes

/-- **The step function only moves as listed.** -/
theorem step_moves (taken : w.step cron a = some w') : Moves cron w a w' := by
  cases a with
  | tick micros =>
      cases taken
      exact .tick micros
  | api request =>
      simp only [step] at taken
      split at taken
      next fresh =>
        obtain ⟨db, performs, rfl⟩ := Option.map_eq_some_iff.mp taken
        exact .api request db fresh.1 fresh.2 performs
      · cases taken
  | sweep =>
      cases taken
      exact .sweep
  | markDead staleThreshold =>
      cases taken
      exact .markDead staleThreshold
  | register worker cfg =>
      simp only [step] at taken
      split at taken
      · cases taken
      next fresh =>
        cases taken
        exact .register worker cfg fresh
  | heartbeat worker =>
      simp only [step] at taken
      split at taken
      · cases taken
      next engine found =>
        split at taken
        next running =>
          cases taken
          exact .heartbeat worker engine found running
        · cases taken
  | cancel worker =>
      simp only [step] at taken
      split at taken
      · cases taken
      next engine found =>
        split at taken
        next running =>
          cases taken
          exact .cancel worker engine found running
        · cases taken
  | crash worker =>
      simp only [step] at taken
      split at taken
      · cases taken
      next engine found =>
        split at taken
        · cases taken
        · cases taken
          exact .crash worker engine found
  | poll worker emit =>
      simp only [step] at taken
      split at taken
      · cases taken
      next engine found =>
        split at taken
        next running idle =>
          split at taken
          · cases taken
            exact .poll worker emit engine found running idle
          · cases taken
        · cases taken
  | claim worker tie emit succeeds => exact claim_moves taken
  | dispatch worker => exact dispatch_moves taken
  | proceed worker =>
      simp only [step, proceed] at taken
      split at taken
      · cases taken
      next engine found =>
        split at taken
        · cases taken
        next alive =>
          obtain ⟨phase, next, rfl⟩ := Option.map_eq_some_iff.mp taken
          exact .proceed worker engine phase found alive next
  | release worker succeeds =>
      simp only [step] at taken
      split at taken
      · cases taken
      next engine found =>
        split at taken
        next cancelled phase =>
          cases taken
          exact .release worker succeeds engine found cancelled phase
        · cases taken
  | deregister worker succeeds =>
      simp only [step] at taken
      split at taken
      · cases taken
      next engine found =>
        split at taken
        next cancelled phase =>
          cases taken
          exact .deregister worker succeeds engine found cancelled phase
        · cases taken
  | exec ticket response => exact exec_moves taken
  | finish ticket => exact finish_moves taken

end World

end JobScheduler
