import JobScheduler.Engine.Execute
import JobScheduler.Api.JobInput
import JobScheduler.Transition.Run

/-!
# The whole system

One database and one clock, any number of worker engines with any number of executions,
reapers, and API requests. Every store method is one atomic step; the parties interleave
at store calls in any order.

An engine is its poll loop, its pool and its executions. Once its context is cancelled its
store calls fail, except those of `shutdown`, which use a context of their own. A crashed
engine takes no further step. Requests and sweeps that fail change nothing and are not
steps. An API request is taken at its writing repository call; the queue it read before is
part of the action, so a request may act on a reading that has gone stale.

Each job returned by a `ClaimJobs` call gets a ticket, and the execution of that entry is
the task of the ticket. The fields `reclaimed`, `superseded`, `lastBeat` and `events` are
read by no step: they record the history that the properties speak about.
-/

set_option autoImplicit false

namespace JobScheduler

open Relational

/-! ## Engines -/

/-- The part of `Config` that bears on the order of the store calls, with the registered
handler types. -/
structure Config where
  workerName : String
  maxConcurrency : Nat
  leaseSeconds : Int
  drainTimeout : Int
  handlers : List String

inductive EngineStatus where
  | running
  | cancelled
  | crashed
deriving DecidableEq, Repr

/-- What an execution may still see: nothing once the engine has crashed, and no successful
store call once its context is cancelled. -/
def EngineStatus.permits : EngineStatus → Response → Bool
  | .crashed, _ => false
  | .cancelled, .call true _ => false
  | _, _ => true

theorem EngineStatus.alive_of_permits {status : EngineStatus} {response : Response}
    (permits : status.permits response = true) : status ≠ .crashed := by
  rintro rfl
  cases permits

theorem EngineStatus.running_of_permits {status : EngineStatus} {draw : Int}
    (permits : status.permits (.call true draw) = true) : status = .running := by
  cases status with
  | running => rfl
  | cancelled => cases permits
  | crashed => cases permits

/-- Where the goroutine of `Run` is. -/
inductive PollPhase where
  /-- In the `select` of `pollLoop`. -/
  | idle
  /-- In `pollOnce`, with these queues still to claim from. -/
  | claiming (queues : List UUID)
  /-- In `pollOnce`, with these tickets still to dispatch before going on. -/
  | dispatching (tickets : List Nat) (queues : List UUID)
  /-- In `shutdown`, waiting for the executions since the given instant. -/
  | draining (since : Timestamptz)
  /-- In `shutdown`, before `ReleaseJobs`. -/
  | releasing
  /-- In `shutdown`, before `DeregisterWorker`. -/
  | deregistering
  /-- `Run` has returned. -/
  | stopped
deriving DecidableEq

/-- Past the `ReleaseJobs` of `shutdown`. -/
def PollPhase.released : PollPhase → Bool
  | .deregistering | .stopped => true
  | _ => false

/-- Waiting in `shutdown` for the executions. -/
def PollPhase.isDraining : PollPhase → Bool
  | .draining _ => true
  | _ => false

/-- A registered engine: `slots` is the buffer of `sem`, `waitGroup` the counter of
`wg`. -/
structure Engine where
  cfg : Config
  status : EngineStatus
  phase : PollPhase
  slots : List Nat
  waitGroup : Nat
  lastBeat : Timestamptz

/-- The entry of a claimed job, from the claim to the return of its `executeJob`. -/
structure Task where
  worker : UUID
  job : Job
  pc : Pc
  reclaimed : Bool
  superseded : Bool

/-- The state of the system. -/
structure World where
  now : Timestamptz
  issued : List UUID
  db : Database
  engines : UUID → Option Engine
  tasks : Nat → Option Task
  nextTicket : Nat
  events : List Event

/-- The start: migrated tables, no engine. -/
def World.start (now : Timestamptz) (policies : List RetryPolicy) : World where
  now := now
  issued := []
  db := Database.migrated policies
  engines := fun _ => none
  tasks := fun _ => none
  nextTicket := 0
  events := []

/-! ## API requests -/

/-- The writing repository calls of the API. -/
inductive Request where
  | createOrg (id : UUID) (name slug : String)
  | updateOrg (id : UUID) (name slug : String)
  | deleteOrg (id : UUID)
  | createProject (id orgId : UUID) (name slug : String) (description : Option String)
  | updateProject (id orgId : UUID) (name slug : String) (description : Option String)
  | deleteProject (id orgId : UUID)
  | createQueue (queue : Queue)
  | updateQueue (queue : Queue) (orgId : UUID)
  | deleteQueue (id orgId : UUID)
  | setPaused (id orgId : UUID) (paused : Bool)
  | createJob (id : UUID) (req : CreateJobRequest) (queue : Queue)
  | createBatch (batchId : UUID) (jobs : List (UUID × CreateJobRequest)) (queue : Queue)
  | retryDLQJob (id orgId : UUID)

/-- The identifiers a request draws with `uuid.New`. -/
def Request.drawn : Request → List UUID
  | .createOrg id .. => [id]
  | .createProject id .. => [id]
  | .createQueue queue => [queue.id]
  | .createJob id .. => [id]
  | .createBatch batchId jobs _ => batchId :: jobs.map (·.1)
  | _ => []

/-- The database after a request that succeeds. -/
def Request.perform (cron : CronParser) (now : Timestamptz) (db : Database) :
    Request → Option Database
  | .createOrg id name slug => (db.createOrg now id name slug).toOption
  | .updateOrg id name slug => (db.updateOrg now id name slug).toOption
  | .deleteOrg id => (db.deleteOrg id).toOption
  | .createProject id orgId name slug description =>
      (db.createProject now id orgId name slug description).toOption
  | .updateProject id orgId name slug description =>
      (db.updateProject now id orgId name slug description).toOption
  | .deleteProject id orgId => (db.deleteProject id orgId).toOption
  | .createQueue queue => (db.createQueue now queue).toOption
  | .updateQueue queue orgId => (db.updateQueue now queue orgId).toOption
  | .deleteQueue id orgId => (db.deleteQueue id orgId).toOption
  | .setPaused id orgId paused => (db.setPaused now id orgId paused).toOption
  | .createJob id req queue =>
      match buildJobInput cron now.toTime req queue with
      | .error _ => none
      | .ok input => (db.createJob now id input).toOption.map (·.1)
  | .createBatch batchId jobs queue =>
      if jobs = [] ∨ 1000 < jobs.length then none
      else
        match buildBatch cron now.toTime queue batchId jobs with
        | none => none
        | some inputs => (Database.createJobBatch now inputs db).toOption.map (·.1)
  | .retryDLQJob id orgId => (db.retryDLQJob now id orgId).toOption.map (·.1)

/-- The events of a request. -/
def Request.events : Request → List Event
  | .retryDLQJob id _ => [.dlqRetried id]
  | _ => []

/-! ## Actions -/

/-- The steps of the system. -/
inductive Action where
  /-- The clock goes on. -/
  | tick (micros : Nat)
  | api (request : Request)
  /-- `RequeueOrphanedJobs` of some reaper. -/
  | sweep
  /-- `MarkDeadWorkers` of some reaper. -/
  | markDead (staleThreshold : Int)
  /-- An engine starts: `RegisterWorker` succeeds. -/
  | register (worker : UUID) (cfg : Config)
  /-- `Heartbeat` succeeds. -/
  | heartbeat (worker : UUID)
  /-- The engine's context is cancelled. -/
  | cancel (worker : UUID)
  | crash (worker : UUID)
  /-- `pollOnce` starts: there is a free slot and `ListActiveQueues` succeeds. -/
  | poll (worker : UUID) (emit : UUID → Nat)
  /-- `ClaimJobs` on the next queue returns. -/
  | claim (worker : UUID) (tie emit : UUID → Nat) (succeeds : Bool)
  /-- `dispatch` gets a slot for the next entry and starts its goroutine. -/
  | dispatch (worker : UUID)
  /-- The goroutine of `Run` goes on without a store call. -/
  | proceed (worker : UUID)
  /-- `ReleaseJobs` of `shutdown` returns. -/
  | release (worker : UUID) (succeeds : Bool)
  /-- `DeregisterWorker` of `shutdown` returns. -/
  | deregister (worker : UUID) (succeeds : Bool)
  /-- The pending call of an execution returns. -/
  | exec (ticket : Nat) (response : Response)
  /-- The goroutine of a returned execution gives its slot back. -/
  | finish (ticket : Nat)

/-- The steps of executions. -/
def Action.isExec : Action → Bool
  | .exec .. => true
  | _ => false

/-- The store calls of `executeJob` and `shutdown` that fail. -/
def Action.isFailure : Action → Bool
  | .exec _ (.call false _) => true
  | .release _ false => true
  | .deregister _ false => true
  | _ => false

/-- The ticket of an execution's step. -/
def Action.ticket? : Action → Option Nat
  | .exec ticket _ => some ticket
  | _ => none

/-- The worker whose `Run` goes on without a store call. -/
def Action.proceeding? : Action → Option UUID
  | .proceed worker => some worker
  | _ => none

/-- The steps of reapers that requeue jobs. -/
def Action.isSweep : Action → Bool
  | .sweep => true
  | _ => false

namespace World

variable (w : World)

/-- Replace an engine. -/
def setEngine (worker : UUID) (engine : Engine) : World :=
  { w with engines := Function.update w.engines worker (some engine) }

/-- Replace or remove a task. -/
def setTask (ticket : Nat) (task : Option Task) : World :=
  { w with tasks := Function.update w.tasks ticket task }

/-- A sweep takes the claim of a task away when it reclaims the job's row while the row
names the task's worker. -/
def LosesClaim (task : Task) : Prop :=
  ∃ row ∈ w.db.jobs, row.id = task.job.id ∧ row.workerId = some task.worker ∧
    row.Orphaned w.now

instance (task : Task) : Decidable (w.LosesClaim task) :=
  inferInstanceAs (Decidable (∃ row ∈ w.db.jobs, _ ∧ _ ∧ row.Orphaned w.now))

/-- `RequeueOrphanedJobs`. -/
def sweep : World :=
  { w with
    db := (w.db.requeueOrphanedJobs w.now).1
    tasks := fun ticket => (w.tasks ticket).map fun task =>
      if w.LosesClaim task then { task with reclaimed := true } else task }

/-- A claim by another engine supersedes a claim the reaper took away. -/
def supersede (worker : UUID) (jobs : List Job) (task : Task) : Task :=
  if task.reclaimed ∧ task.worker ≠ worker ∧ ∃ job ∈ jobs, job.id = task.job.id then
    { task with superseded := true }
  else task

/-- The tasks after a claim: one new task for each returned job. -/
def tasksAfterClaim (worker : UUID) (jobs : List Job) (ticket : Nat) : Option Task :=
  if w.nextTicket ≤ ticket then
    (jobs[ticket - w.nextTicket]?).map fun job => ⟨worker, job, .pending, false, false⟩
  else (w.tasks ticket).map (supersede worker jobs)

/-- `ClaimJobs` on the next queue of the poll loop. -/
def claim (worker : UUID) (tie emit : UUID → Nat) (succeeds : Bool) : Option World :=
  match w.engines worker with
  | none => none
  | some engine =>
      match engine.status, engine.phase with
      | .running, .claiming (queueId :: queues) =>
          match succeeds,
            w.db.claimJobs w.now tie emit worker queueId engine.cfg.leaseSeconds with
          | true, .ok (db, jobs) =>
              some { w.setEngine worker
                { engine with
                  phase := .dispatching (List.range' w.nextTicket jobs.length) queues } with
                db := db
                tasks := w.tasksAfterClaim worker jobs
                nextTicket := w.nextTicket + jobs.length }
          | _, _ => some (w.setEngine worker { engine with phase := .claiming queues })
      | _, _ => none

/-- `dispatch` gets a pool slot for the next entry. -/
def dispatch (worker : UUID) : Option World :=
  match w.engines worker with
  | none => none
  | some engine =>
      if engine.status = .crashed then none
      else
        match engine.phase with
        | .dispatching (ticket :: tickets) queues =>
            match w.tasks ticket with
            | some ⟨owner, job, .pending, reclaimed, superseded⟩ =>
                if engine.slots.length < engine.cfg.maxConcurrency then
                  some ((w.setEngine worker
                    { engine with
                      phase := .dispatching tickets queues
                      slots := ticket :: engine.slots
                      waitGroup := engine.waitGroup + 1 }).setTask ticket
                        (some ⟨owner, job, Pc.entry job, reclaimed, superseded⟩))
                else none
            | _ => none
        | _ => none

/-- The moves of the goroutine of `Run` between store calls: to the next queue, out of
`pollOnce` (early when the context is cancelled), out of `pollLoop` into `shutdown`, and
past the wait for the executions, by their end or by the drain timeout. -/
def nextPhase (engine : Engine) : Option PollPhase :=
  match engine.phase with
  | .dispatching [] queues => some (.claiming queues)
  | .claiming [] => some .idle
  | .claiming _ => if engine.status = .cancelled then some .idle else none
  | .idle => if engine.status = .cancelled then some (.draining w.now) else none
  | .draining since =>
      if engine.waitGroup = 0 ∨ since.toTime + engine.cfg.drainTimeout ≤ w.now.toTime then
        some .releasing
      else none
  | _ => none

/-- A step of the goroutine of `Run` without a store call. -/
def proceed (worker : UUID) : Option World :=
  match w.engines worker with
  | none => none
  | some engine =>
      if engine.status = .crashed then none
      else (w.nextPhase engine).map fun phase => w.setEngine worker { engine with phase := phase }

/-- The pending call of an execution returns. The store calls of a cancelled engine
fail. -/
def exec (ticket : Nat) (response : Response) : Option World :=
  match w.tasks ticket with
  | none => none
  | some task =>
      match w.engines task.worker with
      | none => none
      | some engine =>
          if engine.status.permits response then
            match advance engine.cfg.handlers task.worker w.now task.job w.db task.pc
                response with
            | none => none
            | some (db, pc, event) =>
                some { w.setTask ticket (some { task with pc := pc }) with
                  db := db
                  events := event.toList ++ w.events }
          else none

/-- A returned execution gives its slot back. -/
def finish (ticket : Nat) : Option World :=
  match w.tasks ticket with
  | some ⟨worker, _, .returned, _, _⟩ =>
      match w.engines worker with
      | none => none
      | some engine =>
          if engine.status = .crashed then none
          else some ((w.setEngine worker
            { engine with
              slots := engine.slots.erase ticket
              waitGroup := engine.waitGroup - 1 }).setTask ticket none)
  | _ => none

/-- The step function. -/
def step (cron : CronParser) : Action → Option World
  | .tick micros => some { w with now := w.now + micros }
  | .api request =>
      if request.drawn.Nodup ∧ ∀ id ∈ request.drawn, id ∉ w.issued then
        (request.perform cron w.now w.db).map fun db =>
          { w with
            db := db
            issued := request.drawn ++ w.issued
            events := request.events ++ w.events }
      else none
  | .sweep => some w.sweep
  | .markDead staleThreshold =>
      some { w with db := w.db.markDeadWorkers w.now staleThreshold }
  | .register worker cfg =>
      if worker ∈ w.issued then none
      else some { w.setEngine worker ⟨cfg, .running, .idle, [], 0, w.now⟩ with
        db := w.db.registerWorker w.now worker cfg.workerName
        issued := worker :: w.issued }
  | .heartbeat worker =>
      match w.engines worker with
      | none => none
      | some engine =>
          if engine.status = .running then
            some { w.setEngine worker { engine with lastBeat := w.now } with
              db := w.db.heartbeat w.now worker engine.cfg.leaseSeconds }
          else none
  | .cancel worker =>
      match w.engines worker with
      | none => none
      | some engine =>
          if engine.status = .running then
            some (w.setEngine worker { engine with status := .cancelled })
          else none
  | .crash worker =>
      match w.engines worker with
      | none => none
      | some engine =>
          if engine.status = .crashed then none
          else some (w.setEngine worker { engine with status := .crashed })
  | .poll worker emit =>
      match w.engines worker with
      | none => none
      | some engine =>
          match engine.status, engine.phase with
          | .running, .idle =>
              if engine.slots.length < engine.cfg.maxConcurrency then
                some (w.setEngine worker { engine with
                  phase := .claiming ((w.db.listActiveQueues emit).map (·.id)) })
              else none
          | _, _ => none
  | .claim worker tie emit succeeds => w.claim worker tie emit succeeds
  | .dispatch worker => w.dispatch worker
  | .proceed worker => w.proceed worker
  | .release worker succeeds =>
      match w.engines worker with
      | none => none
      | some engine =>
          match engine.status, engine.phase with
          | .cancelled, .releasing =>
              some { w.setEngine worker { engine with phase := .deregistering } with
                db := if succeeds then w.db.releaseJobs w.now worker else w.db }
          | _, _ => none
  | .deregister worker succeeds =>
      match w.engines worker with
      | none => none
      | some engine =>
          match engine.status, engine.phase with
          | .cancelled, .deregistering =>
              some { w.setEngine worker { engine with phase := .stopped } with
                db := if succeeds then w.db.deregisterWorker w.now worker else w.db }
          | _, _ => none
  | .exec ticket response => w.exec ticket response
  | .finish ticket => w.finish ticket

end World

/-- The scheduler as a transition system, for a given cron library. -/
def scheduler (cron : CronParser) : Transition.System World Action where
  initial w := ∃ now policies, w = World.start now policies
  step w a := w.step cron a

/-! ## A small deployment

One queue, one sleeping job and one worker with the default lease of thirty seconds; the
runs that show a property to fail start from here. -/

namespace Scenario

/-- No recurring job is submitted below. -/
def cron : CronParser := fun _ => .error "unsupported"

/-- The queue `id`, without a concurrency limit. -/
def queue (id : UUID) : Queue where
  id := id
  projectId := 2
  name := "queue"
  slug := toString id
  retryPolicyId := none
  priorityDefault := 0
  concurrencyLimit := none
  paused := false
  createdAt := 0
  updatedAt := 0

/-- A request for an immediate job of type `sleep`. -/
def request (key : Option String) : CreateJobRequest where
  payload := ⟨16, some (.object [("type", .string "sleep")])⟩
  priority := none
  maxAttempts := none
  idempotencyKey := key
  delaySeconds := none
  runAt := none
  cronExpr := none

def config : Config := ⟨"worker", 10, 30, 30000000000, ["sleep"]⟩

/-- Organization `1` with project `2`, queue `3` with job `4`, and worker `5`. -/
def deployed : List Action :=
  [.api (.createOrg 1 "org" "org"), .api (.createProject 2 1 "project" "project" none),
    .api (.createQueue (queue 3)), .api (.createJob 4 (request none) (queue 3)),
    .register 5 config]

/-- One poll of a worker: it claims from the first queue and dispatches the first job. -/
def take (worker : UUID) : List Action :=
  [.poll worker fun _ => 0, .claim worker (fun _ => 0) (fun _ => 0) true, .dispatch worker]

end Scenario

end JobScheduler
