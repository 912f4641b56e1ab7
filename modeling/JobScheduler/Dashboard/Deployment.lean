import JobScheduler.Dashboard.Worker
import JobScheduler.Dashboard.Router
import JobScheduler.Transition.Run
import JobScheduler.Transition.Outcome

/-!
# Processes of the dashboard

Any number of processes serve the dashboard. A process starts ticks in three ways:
`scheduleWorkerTick` starts one unless one it started before is in flight or began less than
`MIN_INTERVAL_MS` ago, `runWorkerTickNow` and the cron route always start one. It also inserts
jobs and answers retries. Ticks and retries advance by single statements, in any order, and
they end where they are when their process is killed.

`Moves` says what each action does to what the later modules speak about, and `Effect` does so
for the steps of a tick. There is one clock. An inserted row has an unused identifier and names
a queue, as the schema demands.
-/

set_option autoImplicit false

namespace JobScheduler

open Relational Transition

namespace Dashboard

/-! ## States and actions -/

/-- `MIN_INTERVAL_MS`. -/
def minIntervalMs : Int := 2500

/-- The variables of `worker-scheduler.ts` in a process, `inFlight` as the index of the tick. -/
structure Process where
  inFlight : Option Nat
  lastRunAt : Int

/-- A call of `runWorkerTick`. -/
structure Tick where
  process : Nat
  pc : TickPc
  processed : Nat

/-- How far a retry is, with the dead letters that it deleted. -/
inductive RetryPc where
  | arrived
  | deleted (letters : List Letter)
  | answered (letters : List Letter) (response : Response)
  | killed

/-- A request `POST jobs/{id}/retry`. -/
structure Retry where
  process : Nat
  orgId : UUID
  jobId : UUID
  pc : RetryPc

/-- The tables, and what goes on in the processes. The events are listed latest first, and
`created` has the jobs that were inserted. -/
structure Deployment where
  now : Timestamptz
  site : Site
  processes : List Process
  ticks : List Tick
  retries : List Retry
  history : List Event
  created : List UUID

/-- The columns of an inserted job that come from the request. -/
structure NewJob where
  id : UUID
  queueId : UUID
  priority : Int
  payload : Json
  key : Option String
  maxAttempts : Int
  delay : Timestamptz
  cronExpr : Option String

inductive Action where
  | wait (later : Timestamptz)
  | scheduleWorkerTick (process : Nat)
  | runWorkerTickNow (process : Nat)
  | cron (process : Nat)
  /-- The next statement of a tick, or its handler. -/
  | tick (i : Nat) (choice : Choice)
  /-- A tick loses its connection. -/
  | lose (i : Nat)
  | kill (process : Nat)
  | insert (job : NewJob)
  | retry (process : Nat) (orgId jobId : UUID)
  | deleteLetters (i : Nat)
  | requeue (i : Nat)

/-- The action makes a process call `runWorkerTick`, unless it is held back. -/
def Action.starts : Action → Bool
  | .scheduleWorkerTick _ | .runWorkerTickNow _ | .cron _ => true
  | _ => false

namespace Deployment

variable (s : Deployment)

/-! ## Steps -/

/-- A call of `runWorkerTick`. -/
def runWorkerTick (p : Nat) : Deployment := { s with ticks := s.ticks ++ [⟨p, .reap, 0⟩] }

def scheduleWorkerTick (p : Nat) (process : Process) : Deployment :=
  if process.inFlight.isSome ∨ s.now / 1000 - process.lastRunAt < minIntervalMs then s
  else { s.runWorkerTick p with
    processes := s.processes.set p ⟨some s.ticks.length, s.now / 1000⟩ }

def runWorkerTickNow (p : Nat) (process : Process) : Deployment :=
  { s.runWorkerTick p with
    processes := s.processes.set p { process with lastRunAt := s.now / 1000 } }

/-- A tick is at another place; `finally` clears `inFlight` when it is over. -/
def advance (i : Nat) (tick : Tick) : Deployment :=
  { s with
    ticks := s.ticks.set i tick
    processes :=
      if tick.pc.running then s.processes
      else update (·.inFlight = some i) (fun process => { process with inFlight := none })
        s.processes }

/-- A process is killed and started again. -/
def kill (p : Nat) : Deployment :=
  { s with
    ticks := update (fun tick => tick.process = p ∧ tick.pc.running = true)
      (fun tick => { tick with pc := .killed }) s.ticks
    retries := update (fun retry => retry.process = p)
      (fun retry => match retry.pc with
        | .answered _ _ => retry
        | _ => { retry with pc := .killed }) s.retries
    processes := s.processes.set p ⟨none, 0⟩ }

variable (env : Env) (message : Json → String)

/-- What a tick meets beside the tables. -/
def tickEnv : TickEnv := ⟨env.parseJson, env.describe, message⟩

/-- The clock of the statements of a request. -/
def clock : Env := { env with now := s.now }

/-- The row that a request inserts. -/
def newRow (new : NewJob) : Job :=
  insertedJob { env with fresh := new.id, now := s.now } new.queueId new.priority new.payload
    new.key new.maxAttempts (s.now + new.delay) new.cronExpr

/-- The job that the `UPDATE` of a retry returns. -/
def retried (orgId jobId : UUID) : Option Job :=
  s.site.jobs.find? fun j => j.id = jobId ∧ s.site.QueueIdOf orgId j.queueId

/-- The response to a retry. -/
def retryResponse (orgId jobId : UUID) : Response :=
  match s.retried orgId jobId with
  | none => .failed "not found" 404
  | some job =>
      match mapJob env.parseJson (job.retryDLQ s.now) with
      | .error message => .caught message
      | .ok job => ⟨200, .job job⟩

def step : Action → Option Deployment
  | .wait later => if s.now ≤ later then some { s with now := later } else none
  | .scheduleWorkerTick p => (s.processes[p]?).map (s.scheduleWorkerTick p)
  | .runWorkerTickNow p => (s.processes[p]?).map (s.runWorkerTickNow p)
  | .cron p => (s.processes[p]?).map fun _ => s.runWorkerTick p
  | .tick i choice =>
      match s.ticks[i]? with
      | none => none
      | some tick =>
          match tick.pc.step (tickEnv env message) choice s.now s.site with
          | none => none
          | some (.error text) => some (s.advance i { tick with pc := .threw text })
          | some (.ok (site', pc, done, event)) => some
              { s.advance i ⟨tick.process, pc, if done then tick.processed + 1 else tick.processed⟩ with
                site := site'
                history := event.toList ++ s.history }
  | .lose i =>
      match s.ticks[i]? with
      | none => none
      | some tick =>
          if tick.pc.running then some (s.advance i { tick with pc := .killed }) else none
  | .kill p => (s.processes[p]?).map fun _ => s.kill p
  | .insert new =>
      if (∃ j ∈ s.site.jobs, j.id = new.id) ∨ ¬ ∃ q ∈ s.site.queues, q.id = new.queueId then none
      else
        match insertJob s.site (s.newRow env new) with
        | .error _ => some s
        | .ok site' => some
            { s with
              site := site'
              history := .reset new.id :: s.history
              created := new.id :: s.created }
  | .retry p orgId jobId => (s.processes[p]?).map fun _ =>
      { s with retries := s.retries ++ [⟨p, orgId, jobId, .arrived⟩] }
  | .deleteLetters i =>
      match s.retries[i]? with
      | some ⟨p, orgId, jobId, .arrived⟩ => some
          { s with
            site := Dashboard.deleteLetters s.site jobId
            retries := s.retries.set i
              ⟨p, orgId, jobId, .deleted (s.site.letters.filter (·.entry.jobId = jobId))⟩ }
      | _ => none
  | .requeue i =>
      match s.retries[i]? with
      | some ⟨p, orgId, jobId, .deleted letters⟩ => some
          { s with
            site := requeueJob (s.clock env) orgId s.site jobId
            retries := s.retries.set i
              ⟨p, orgId, jobId, .answered letters (s.retryResponse env orgId jobId)⟩
            history := ((s.retried orgId jobId).map fun _ => .reset jobId).toList ++ s.history }
      | _ => none

/-- A retry whose statements follow each other is the handler of the router. -/
theorem retryJob_eq {id : String} {orgId jobId : UUID} (parses : env.parseUuid id = .ok jobId) :
    let deleted : Deployment := { s with site := Dashboard.deleteLetters s.site jobId }
    retryJob (s.clock env) orgId s.site id =
      (deleted.retryResponse env orgId jobId,
        requeueJob (s.clock env) orgId deleted.site jobId) := by
  have parsed : (s.clock env).parseUuid id = .ok jobId := parses
  simp only [retryJob, attempt, parsed, retryResponse]
  change (match s.retried orgId jobId with | none => _ | some job => _) = _
  have same : { s with site := Dashboard.deleteLetters s.site jobId : Deployment }.retried
      orgId jobId = s.retried orgId jobId := rfl
  rw [same]
  cases s.retried orgId jobId with
  | none => rfl
  | some job =>
      have mapped : mapJob (s.clock env).parseJson (job.retryDLQ (s.clock env).now) =
          mapJob env.parseJson (job.retryDLQ s.now) := rfl
      simp only [mapped]
      cases mapJob env.parseJson (job.retryDLQ s.now) <;> rfl

end Deployment

/-! ## The stages of a tick -/

/-- How far an execution is, by what it did to the row of its job. -/
inductive Phase where
  | waiting
  /-- The row is `running`. -/
  | preparing
  | handling (since : Timestamptz)
  | finishing
  /-- The row has its last write. -/
  | finished

/-- The row is `running`, if nothing else wrote to it. -/
def Phase.executing : Phase → Bool
  | .preparing | .handling _ | .finishing => true
  | .waiting | .finished => false

def ExecPc.phase : ExecPc → Phase
  | .setRunning => .waiting
  | .insertExecution _ | .logStarted _ _ | .start _ _ => .preparing
  | .handling _ _ since => .handling since
  | .complete _ _ | .deadLetter _ _ _ _ | .requeue _ _ _ => .finishing
  | .recordCompleted _ _ | .logCompleted | .insertLetter _ _ _ _ | .recordFailed _ _ _
  | .logFailed _ => .finished

/-- The tick has neither a budget nor a batch. -/
def TickPc.idle : TickPc → Bool
  | .claim _ _ _ _ | .execute _ _ _ _ _ => false
  | _ => true

/-- The last write of an execution. -/
inductive Settles (now : Timestamptz) : ExecPc → (Job → Job) → Prop where
  | complete (executionId : UUID) (duration : Int) :
      Settles now (.complete executionId duration) (Job.finish now)
  | deadLetter (errMsg : String) (payload : Json) (executionId : UUID) (duration : Int) :
      Settles now (.deadLetter errMsg payload executionId duration) (Job.bury now errMsg)
  | requeue (errMsg : String) (executionId : UUID) (duration : Int) :
      Settles now (.requeue errMsg executionId duration) (Job.postpone now errMsg)

theorem Settles.id {now : Timestamptz} {pc : ExecPc} {rewrite : Job → Job}
    (settles : Settles now pc rewrite) (row : Job) : (rewrite row).id = row.id := by
  cases settles <;> rfl

/-- Everything that a step of a tick does to the jobs and queues, and where it leads. -/
inductive Effect (env : TickEnv) (choice : Choice) (now : Timestamptz) (site : Site) :
    TickPc → Site → TickPc → Option Event → Prop where
  | reap : Effect env choice now site .reap (reaper now site) .findWorker none
  | pass {pc pc' : TickPc} {site' : Site} (idle : pc.idle = true) (idle' : pc'.idle = true)
      (runs : pc.running = true) (jobs : site'.jobs = site.jobs)
      (queues : site'.queues = site.queues) :
      Effect env choice now site pc site' pc' none
  | budget {workerId queueId : UUID} {left : Int} {rest : List UUID}
      (reads : readBudget site queueId = .ok left) (positive : 0 < left) :
      Effect env choice now site (.budget workerId queueId rest) site
        (.claim workerId queueId left rest) none
  | claim {workerId queueId : UUID} {left : Int} {rest : List UUID} {site' : Site} {jobs : List Job}
      (claims : claimDue now site choice workerId queueId left = .ok (site', jobs)) :
      Effect env choice now site (.claim workerId queueId left rest) site'
        (.resume workerId jobs rest) (some (.claimed (jobs.map (·.id))))
  | setRunning {workerId : UUID} {job : Job} {jobs : List Job} {rest : List UUID} {payload : Json}
      (parses : parsePayload env.parseJson job.payload = .ok payload) :
      Effect env choice now site (.execute workerId job .setRunning jobs rest)
        (rewriteJob site job.id (Job.startAttempt now (attemptOf job)))
        (.execute workerId job (.insertExecution payload) jobs rest) none
  | prepare {workerId : UUID} {job : Job} {pc pc' : ExecPc} {jobs : List Job} {rest : List UUID}
      {site' : Site} (here : pc.phase = .preparing) (there : pc'.phase = .preparing)
      (same : site'.jobs = site.jobs) (queues : site'.queues = site.queues) :
      Effect env choice now site (.execute workerId job pc jobs rest) site'
        (.execute workerId job pc' jobs rest) none
  | start {workerId : UUID} {job : Job} {jobs : List Job} {rest : List UUID} {payload : Json}
      {executionId : UUID} :
      Effect env choice now site (.execute workerId job (.start payload executionId) jobs rest) site
        (.execute workerId job (.handling payload executionId now) jobs rest)
        (some (.executed job.id))
  | handle {workerId : UUID} {job : Job} {jobs : List Job} {rest : List UUID} {payload : Json}
      {executionId : UUID} {since : Timestamptz} {duration : Int} {error : Option String} :
      Effect env choice now site
        (.execute workerId job (.handling payload executionId since) jobs rest) site
        (.execute workerId job (afterHandler job payload executionId duration error) jobs rest) none
  | settle {workerId : UUID} {job : Job} {pc pc' : ExecPc} {jobs : List Job} {rest : List UUID}
      {rewrite : Job → Job} (settles : Settles now pc rewrite) (there : pc'.phase = .finished) :
      Effect env choice now site (.execute workerId job pc jobs rest)
        (rewriteJob site job.id rewrite) (.execute workerId job pc' jobs rest) none
  | record {workerId : UUID} {job : Job} {pc pc' : ExecPc} {jobs : List Job} {rest : List UUID}
      {site' : Site} (here : pc.phase = .finished) (there : pc'.phase = .finished)
      (same : site'.jobs = site.jobs) (queues : site'.queues = site.queues) :
      Effect env choice now site (.execute workerId job pc jobs rest) site'
        (.execute workerId job pc' jobs rest) none
  | next {workerId : UUID} {job : Job} {pc : ExecPc} {jobs : List Job} {rest : List UUID}
      {site' : Site} (here : pc.phase = .finished) (same : site'.jobs = site.jobs)
      (queues : site'.queues = site.queues) :
      Effect env choice now site (.execute workerId job pc jobs rest) site'
        (.resume workerId jobs rest) none

section Effect

variable {env : TickEnv} {choice : Choice} {now : Timestamptz} {site site' : Site}
  {pc pc' : TickPc} {done : Bool} {event : Option Event}

theorem proceed_ok {α β : Type} {result : Except StoreError α} {next : α → β} {value : β}
    (succeeds : proceed env result next = .ok value) : ∃ a, result = .ok a ∧ next a = value := by
  cases result with
  | error e => cases succeeds
  | ok a =>
      cases succeeds
      exact ⟨a, rfl, rfl⟩

theorem withJob_ok {jobId : UUID} {inserted : Site}
    (succeeds : withJob site jobId inserted = .ok site') : site' = inserted := by
  unfold withJob at succeeds
  split at succeeds
  · cases succeeds
  · cases succeeds
    rfl

theorem insertLetter_ok {fresh : UUID} {job : Job} {payload : Json} {reason : String}
    {attempt : Int}
    (succeeds : Dashboard.insertLetter now site fresh job payload reason attempt = .ok site') :
    site'.jobs = site.jobs ∧ site'.queues = site.queues := by
  unfold Dashboard.insertLetter at succeeds
  split at succeeds
  · cases succeeds
    exact ⟨rfl, rfl⟩
  · split at succeeds
    · cases succeeds
    · cases withJob_ok succeeds
      exact ⟨rfl, rfl⟩

theorem resume_idle (workerId : UUID) (queues : List UUID) :
    (TickPc.resume workerId [] queues).idle = true := by
  cases queues <;> rfl

/-- A step of an execution that does not return. -/
theorem ExecPc.step_effect {workerId : UUID} {job : Job} {pc pc' : ExecPc}
    (steps : pc.step env choice now workerId job site = .ok (site', some pc', event))
    (jobs : List Job) (rest : List UUID) :
    Effect env choice now site (.execute workerId job pc jobs rest) site'
      (.execute workerId job pc' jobs rest) event := by
  cases pc with
  | setRunning =>
      simp only [ExecPc.step] at steps
      split at steps
      · cases steps
      next payload parses =>
        cases steps
        exact .setRunning parses
  | insertExecution payload =>
      obtain ⟨site', inserts, same⟩ := proceed_ok steps
      cases same
      cases withJob_ok inserts
      exact .prepare rfl rfl rfl rfl
  | logStarted payload executionId =>
      obtain ⟨site', inserts, same⟩ := proceed_ok steps
      cases same
      cases withJob_ok inserts
      exact .prepare rfl rfl rfl rfl
  | start payload executionId =>
      cases steps
      exact .start
  | handling payload executionId since =>
      cases steps
      exact .handle
  | complete executionId duration =>
      cases steps
      exact .settle (.complete executionId duration) rfl
  | recordCompleted executionId duration =>
      cases steps
      exact .record rfl rfl rfl rfl
  | logCompleted =>
      obtain ⟨site', inserts, same⟩ := proceed_ok steps
      cases same
  | deadLetter errMsg payload executionId duration =>
      cases steps
      exact .settle (.deadLetter errMsg payload executionId duration) rfl
  | insertLetter errMsg payload executionId duration =>
      obtain ⟨site', inserts, same⟩ := proceed_ok steps
      cases same
      obtain ⟨sameJobs, sameQueues⟩ := insertLetter_ok inserts
      exact .record rfl rfl sameJobs sameQueues
  | requeue errMsg executionId duration =>
      cases steps
      exact .settle (.requeue errMsg executionId duration) rfl
  | recordFailed errMsg executionId duration =>
      cases steps
      exact .record rfl rfl rfl rfl
  | logFailed errMsg =>
      obtain ⟨site', inserts, same⟩ := proceed_ok steps
      cases same

/-- The step with which an execution returns. -/
theorem ExecPc.step_returns {workerId : UUID} {job : Job} {pc : ExecPc}
    (steps : pc.step env choice now workerId job site = .ok (site', none, event)) :
    pc.phase = .finished ∧ site'.jobs = site.jobs ∧ site'.queues = site.queues ∧ event = none := by
  cases pc with
  | setRunning =>
      simp only [ExecPc.step] at steps
      split at steps <;> cases steps
  | insertExecution payload =>
      obtain ⟨_, _, same⟩ := proceed_ok steps
      cases same
  | logStarted payload executionId =>
      obtain ⟨_, _, same⟩ := proceed_ok steps
      cases same
  | insertLetter errMsg payload executionId duration =>
      obtain ⟨_, _, same⟩ := proceed_ok steps
      cases same
  | logCompleted =>
      obtain ⟨_, inserts, same⟩ := proceed_ok steps
      cases same
      cases withJob_ok inserts
      exact ⟨rfl, rfl, rfl, rfl⟩
  | logFailed errMsg =>
      obtain ⟨_, inserts, same⟩ := proceed_ok steps
      cases same
      cases withJob_ok inserts
      exact ⟨rfl, rfl, rfl, rfl⟩
  | start payload executionId => cases steps
  | handling payload executionId since => cases steps
  | complete executionId duration => cases steps
  | recordCompleted executionId duration => cases steps
  | deadLetter errMsg payload executionId duration => cases steps
  | requeue errMsg executionId duration => cases steps
  | recordFailed errMsg executionId duration => cases steps

/-- What a step of a tick does. -/
theorem TickPc.step_effect
    (steps : pc.step env choice now site = some (.ok (site', pc', done, event))) :
    Effect env choice now site pc site' pc' event := by
  cases pc with
  | reap =>
      cases steps
      exact .reap
  | findWorker =>
      simp only [TickPc.step] at steps
      cases found : Dashboard.findWorker site choice.rank with
      | none =>
          rw [found] at steps
          cases steps
          exact .pass rfl rfl rfl rfl rfl
      | some workerId =>
          rw [found] at steps
          cases steps
          exact .pass rfl rfl rfl rfl rfl
  | beat workerId =>
      cases steps
      exact .pass rfl rfl rfl rfl rfl
  | activate workerId =>
      cases steps
      exact .pass rfl rfl rfl rfl rfl
  | insertWorker =>
      cases steps
      exact .pass rfl rfl rfl rfl rfl
  | insertBeat workerId =>
      obtain ⟨site', inserts, same⟩ := proceed_ok (Option.some.inj steps)
      cases same
      unfold Dashboard.insertBeat at inserts
      split at inserts
      · cases inserts
      · cases inserts
        exact .pass rfl rfl rfl rfl rfl
  | listQueues workerId =>
      cases steps
      exact .pass rfl (resume_idle _ _) rfl rfl rfl
  | budget workerId queueId queues =>
      obtain ⟨left, reads, same⟩ := proceed_ok (Option.some.inj steps)
      by_cases nothing : left ≤ 0
      · rw [if_pos nothing] at same
        cases same
        exact .pass rfl (resume_idle _ _) rfl rfl rfl
      · rw [if_neg nothing] at same
        cases same
        exact .budget reads (by omega)
  | claim workerId queueId left queues =>
      obtain ⟨⟨site', jobs⟩, claims, same⟩ := proceed_ok (Option.some.inj steps)
      cases same
      exact .claim claims
  | execute workerId job pc jobs rest =>
      obtain ⟨⟨site', next, event'⟩, executes, same⟩ := succeeded_of_map (Option.some.inj steps)
      cases next with
      | none =>
          obtain ⟨here, sameJobs, sameQueues, rfl⟩ := ExecPc.step_returns executes
          cases same
          exact .next here sameJobs sameQueues
      | some pc' =>
          cases same
          exact ExecPc.step_effect executes jobs rest
  | returned => cases steps
  | threw text => cases steps
  | killed => cases steps

/-- What a step of a tick writes to the jobs. -/
inductive Writes (choice : Choice) (now : Timestamptz) (site : Site) :
    TickPc → Site → TickPc → Prop where
  | nothing {pc pc' : TickPc} {site' : Site} (jobs : site'.jobs = site.jobs) :
      Writes choice now site pc site' pc'
  | reap : Writes choice now site .reap (reaper now site) .findWorker
  | claim {workerId queueId : UUID} {left : Int} {rest : List UUID} {site' : Site} {jobs : List Job}
      (claims : claimDue now site choice workerId queueId left = .ok (site', jobs)) :
      Writes choice now site (.claim workerId queueId left rest) site' (.resume workerId jobs rest)
  | setRunning {workerId : UUID} {job : Job} {jobs : List Job} {rest : List UUID} {payload : Json} :
      Writes choice now site (.execute workerId job .setRunning jobs rest)
        (rewriteJob site job.id (Job.startAttempt now (attemptOf job)))
        (.execute workerId job (.insertExecution payload) jobs rest)
  | settle {workerId : UUID} {job : Job} {pc pc' : ExecPc} {jobs : List Job} {rest : List UUID}
      {rewrite : Job → Job} (settles : Settles now pc rewrite) (there : pc'.phase = .finished) :
      Writes choice now site (.execute workerId job pc jobs rest) (rewriteJob site job.id rewrite)
        (.execute workerId job pc' jobs rest)

theorem Effect.writes (effect : Effect env choice now site pc site' pc' event) :
    Writes choice now site pc site' pc' := by
  cases effect with
  | reap => exact .reap
  | pass _ _ _ jobs _ => exact .nothing jobs
  | budget _ _ => exact .nothing rfl
  | claim claims => exact .claim claims
  | setRunning _ => exact .setRunning
  | prepare _ _ same _ => exact .nothing same
  | start => exact .nothing rfl
  | handle => exact .nothing rfl
  | settle settles there => exact .settle settles there
  | record _ _ same _ => exact .nothing same
  | next _ same _ => exact .nothing same

theorem Effect.jobIds (effect : Effect env choice now site pc site' pc' event) :
    site'.jobs.map (·.id) = site.jobs.map (·.id) := by
  cases effect.writes with
  | nothing jobs => rw [jobs]
  | reap => exact map_update fun _ => rfl
  | claim claims =>
      unfold claimDue at claims
      cases (passed_check claims).2
      exact map_update fun _ => rfl
  | setRunning => exact map_update fun _ => rfl
  | settle settles _ => exact map_update settles.id

theorem Effect.queues (effect : Effect env choice now site pc site' pc' event) :
    site'.queues = site.queues := by
  cases effect with
  | pass _ _ _ _ queues => exact queues
  | claim claims =>
      unfold claimDue at claims
      cases (passed_check claims).2
      rfl
  | prepare _ _ _ queues => exact queues
  | record _ _ _ queues => exact queues
  | next _ _ queues => exact queues
  | _ => rfl

theorem Effect.running (effect : Effect env choice now site pc site' pc' event) :
    pc.running = true := by
  cases effect with
  | pass _ _ runs _ _ => exact runs
  | _ => rfl

/-- An execution throws between its first and its last write only when the job is gone. -/
theorem ExecPc.step_throws {workerId : UUID} {job : Job} {pc : ExecPc} {text : String}
    (throws : pc.step env choice now workerId job site = .error text)
    (executing : pc.phase.executing = true) : ¬ ∃ j ∈ site.jobs, j.id = job.id := by
  have missing {inserted : Site} {next : Site → Site × Option ExecPc × Option Event}
      (rejected : proceed env (withJob site job.id inserted) next = .error text) :
      ¬ ∃ j ∈ site.jobs, j.id = job.id := by
    intro present
    rw [withJob, if_neg (not_not.mpr present)] at rejected
    cases rejected
  cases pc with
  | insertExecution payload => exact missing throws
  | logStarted payload executionId => exact missing throws
  | start payload executionId => cases throws
  | handling payload executionId since => cases throws
  | complete executionId duration => cases throws
  | deadLetter errMsg payload executionId duration => cases throws
  | requeue errMsg executionId duration => cases throws
  | setRunning => cases executing
  | recordCompleted executionId duration => cases executing
  | logCompleted => cases executing
  | insertLetter errMsg payload executionId duration => cases executing
  | recordFailed errMsg executionId duration => cases executing
  | logFailed errMsg => cases executing

theorem TickPc.step_throws {workerId : UUID} {job : Job} {pc : ExecPc} {jobs : List Job}
    {rest : List UUID} {text : String}
    (throws : (TickPc.execute workerId job pc jobs rest).step env choice now site =
      some (.error text))
    (executing : pc.phase.executing = true) : ¬ ∃ j ∈ site.jobs, j.id = job.id := by
  simp only [TickPc.step, Option.some.injEq] at throws
  cases executes : pc.step env choice now workerId job site with
  | ok value =>
      rw [executes] at throws
      cases throws
  | error text' => exact ExecPc.step_throws executes executing

end Effect

/-! ## What the actions do -/

section Moves

variable (env : Env) (message : Json → String)

/-- The action ends a tick that is not at its end. -/
inductive Stops (s : Deployment) : Action → Nat → Tick → Prop where
  | lose {i : Nat} {tick : Tick} : Stops s (.lose i) i tick
  | kill {i : Nat} {tick : Tick} : Stops s (.kill tick.process) i tick
  | throw {i : Nat} {tick : Tick} {choice : Choice} {text : String}
      (throws : tick.pc.step (Deployment.tickEnv env message) choice s.now s.site =
        some (.error text)) : Stops s (.tick i choice) i tick

/-- Everything that an action does to the clock, the jobs and queues, the ticks and the
events. -/
inductive Moves (s s' : Deployment) : Action → Prop where
  | waited {later : Timestamptz} (forward : s.now ≤ later) (same : s' = { s with now := later }) :
      Moves s s' (.wait later)
  | quiet {a : Action} (now : s'.now = s.now) (jobs : s'.site.jobs = s.site.jobs)
      (queues : s'.site.queues = s.site.queues) (ticks : s'.ticks = s.ticks)
      (history : s'.history = s.history) (created : s'.created = s.created) : Moves s s' a
  | started {a : Action} (p : Nat) (starts : a.starts = true) (now : s'.now = s.now)
      (site : s'.site = s.site) (ticks : s'.ticks = s.ticks ++ [⟨p, .reap, 0⟩])
      (history : s'.history = s.history) (created : s'.created = s.created) : Moves s s' a
  | stopped {a : Action} (now : s'.now = s.now) (site : s'.site = s.site)
      (ticks : ∀ i, s'.ticks[i]? = s.ticks[i]? ∨ ∃ tick tick', s.ticks[i]? = some tick ∧
        Stops env message s a i tick ∧ s'.ticks[i]? = some tick' ∧ tick'.pc.running = false)
      (history : s'.history = s.history) (created : s'.created = s.created) : Moves s s' a
  | ticked {i : Nat} {choice : Choice} {tick tick' : Tick} {event : Option Event}
      (found : s.ticks[i]? = some tick)
      (effect : Effect (Deployment.tickEnv env message) choice s.now s.site tick.pc s'.site
        tick'.pc event)
      (now : s'.now = s.now) (ticks : s'.ticks = s.ticks.set i tick')
      (history : s'.history = event.toList ++ s.history) (created : s'.created = s.created) :
      Moves s s' (.tick i choice)
  | inserted {new : NewJob} (unused : ∀ j ∈ s.site.jobs, j.id ≠ new.id) (now : s'.now = s.now)
      (jobs : s'.site.jobs = s.site.jobs ++ [s.newRow env new])
      (queues : s'.site.queues = s.site.queues) (ticks : s'.ticks = s.ticks)
      (history : s'.history = .reset new.id :: s.history)
      (created : s'.created = new.id :: s.created) : Moves s s' (.insert new)
  | requeued {i p : Nat} {orgId jobId : UUID} {letters : List Letter}
      (found : s.retries[i]? = some ⟨p, orgId, jobId, .deleted letters⟩) (now : s'.now = s.now)
      (site : s'.site = requeueJob (s.clock env) orgId s.site jobId) (ticks : s'.ticks = s.ticks)
      (retries : s'.retries = s.retries.set i
        ⟨p, orgId, jobId, .answered letters (s.retryResponse env orgId jobId)⟩)
      (history : s'.history = ((s.retried orgId jobId).map fun _ => Event.reset jobId).toList ++
        s.history)
      (created : s'.created = s.created) : Moves s s' (.requeue i)

variable {env message} {s s' : Deployment} {a : Action}

theorem stopped_of_advance {i : Nat} {tick tick' : Tick} (found : s.ticks[i]? = some tick)
    (stops : Stops env message s a i tick) (ended : tick'.pc.running = false) :
    Moves env message s (s.advance i tick') a := by
  refine .stopped rfl rfl (fun k => ?_) rfl rfl
  have bound : i < s.ticks.length := (List.getElem?_eq_some_iff.mp found).1
  change (s.ticks.set i tick')[k]? = s.ticks[k]? ∨ _
  by_cases same : i = k
  · subst same
    exact .inr ⟨tick, tick', found, stops, by simp [Deployment.advance, bound], ended⟩
  · rw [List.getElem?_set_ne same]
    exact .inl rfl

theorem stopped_of_kill (p : Nat) : Moves env message s (s.kill p) (.kill p) := by
  refine .stopped rfl rfl (fun i => ?_) rfl rfl
  simp only [Deployment.kill, update, List.getElem?_map]
  cases found : s.ticks[i]? with
  | none => exact .inl rfl
  | some tick =>
      by_cases dies : tick.process = p ∧ tick.pc.running = true
      · refine .inr ⟨tick, { tick with pc := .killed }, rfl, ?_, ?_, rfl⟩
        · rw [← dies.1]
          exact .kill
        · rw [Option.map_some, if_pos dies]
      · rw [Option.map_some, if_neg dies]
        exact .inl rfl

/-- **The actions.** -/
theorem Deployment.moves (taken : s.step env message a = some s') : Moves env message s s' a := by
  cases a with
  | wait later =>
      simp only [Deployment.step] at taken
      split at taken
      next forward =>
        cases taken
        exact .waited forward rfl
      · cases taken
  | scheduleWorkerTick p =>
      obtain ⟨process, _, rfl⟩ := Option.map_eq_some_iff.mp taken
      unfold Deployment.scheduleWorkerTick
      split
      · exact .quiet rfl rfl rfl rfl rfl rfl
      · exact .started p rfl rfl rfl rfl rfl rfl
  | runWorkerTickNow p =>
      obtain ⟨process, _, rfl⟩ := Option.map_eq_some_iff.mp taken
      exact .started p rfl rfl rfl rfl rfl rfl
  | cron p =>
      obtain ⟨process, _, rfl⟩ := Option.map_eq_some_iff.mp taken
      exact .started p rfl rfl rfl rfl rfl rfl
  | tick i choice =>
      simp only [Deployment.step] at taken
      cases found : s.ticks[i]? with
      | none =>
          rw [found] at taken
          cases taken
      | some tick =>
          simp only [found] at taken
          split at taken
          · cases taken
          next text throws =>
            cases taken
            exact stopped_of_advance found (.throw throws) rfl
          next site' pc done event steps =>
            cases taken
            exact .ticked found (TickPc.step_effect steps) rfl rfl rfl rfl
  | lose i =>
      simp only [Deployment.step] at taken
      cases found : s.ticks[i]? with
      | none =>
          rw [found] at taken
          cases taken
      | some tick =>
          simp only [found] at taken
          split at taken
          · cases taken
            exact stopped_of_advance found .lose rfl
          · cases taken
  | kill p =>
      obtain ⟨process, _, rfl⟩ := Option.map_eq_some_iff.mp taken
      exact stopped_of_kill p
  | insert new =>
      simp only [Deployment.step] at taken
      split at taken
      · cases taken
      next valid =>
        rw [not_or] at valid
        have unused : ∀ j ∈ s.site.jobs, j.id ≠ new.id :=
          fun j member same => valid.1 ⟨j, member, same⟩
        split at taken
        · cases taken
          exact .quiet rfl rfl rfl rfl rfl rfl
        next site' inserts =>
          cases taken
          unfold insertJob at inserts
          obtain ⟨_, inserts⟩ := passed_check inserts
          obtain ⟨_, inserts⟩ := passed_check inserts
          cases inserts
          exact .inserted unused rfl rfl rfl rfl rfl rfl
  | retry p orgId jobId =>
      obtain ⟨process, _, rfl⟩ := Option.map_eq_some_iff.mp taken
      exact .quiet rfl rfl rfl rfl rfl rfl
  | deleteLetters i =>
      simp only [Deployment.step] at taken
      split at taken
      · cases taken
        exact .quiet rfl rfl rfl rfl rfl rfl
      · cases taken
  | requeue i =>
      simp only [Deployment.step] at taken
      split at taken
      next found =>
        cases taken
        exact .requeued found rfl rfl rfl rfl rfl rfl
      · cases taken

end Moves

/-! ## Runs -/

/-- The primary keys hold, and nothing goes on yet. -/
structure Deployment.Initial (s : Deployment) : Prop where
  jobKeys : (s.site.jobs.map (·.id)).Nodup
  queueKeys : (s.site.queues.map (·.id)).Nodup
  ticks : s.ticks = []
  retries : s.retries = []
  history : s.history = []
  created : s.created = []

/-- The runs from any tables. -/
def deployments (env : Env) (message : Json → String) : System Deployment Action where
  initial := Deployment.Initial
  step s a := s.step env message a

section Runs

variable {env : Env} {message : Json → String} {s s' : Deployment} {a : Action}

/-- One tick takes a step. -/
structure Steps (env : Env) (message : Json → String) (s s' : Deployment) (a : Action) (i : Nat)
    (choice : Choice) (tick tick' : Tick) (event : Option Event) : Prop where
  action : a = .tick i choice
  found : s.ticks[i]? = some tick
  effect : Effect (Deployment.tickEnv env message) choice s.now s.site tick.pc s'.site tick'.pc
    event
  ticks : s'.ticks = s.ticks.set i tick'
  history : s'.history = event.toList ++ s.history

/-- Jobs are written by the steps of ticks, by inserts and by retries. -/
theorem Moves.jobs_cases (moves : Moves env message s s' a) :
    s'.site.jobs = s.site.jobs ∨
      (∃ i choice tick tick' event, Steps env message s s' a i choice tick tick' event) ∨
      (∃ new, (∀ j ∈ s.site.jobs, j.id ≠ new.id) ∧
        s'.site.jobs = s.site.jobs ++ [s.newRow env new]) ∨
      ∃ i retry, a = .requeue i ∧ s.retries[i]? = some retry ∧
        s'.site = requeueJob (s.clock env) retry.orgId s.site retry.jobId := by
  cases moves with
  | waited _ same => exact .inl (by rw [same])
  | quiet _ jobs _ _ _ _ => exact .inl jobs
  | started _ _ _ site _ _ _ => exact .inl (by rw [site])
  | stopped _ site _ _ _ => exact .inl (by rw [site])
  | @ticked i choice tick tick' event found effect _ ticks history _ =>
      exact .inr (.inl ⟨i, choice, tick, tick', event, rfl, found, effect, ticks, history⟩)
  | @inserted new unused _ jobs _ _ _ _ => exact .inr (.inr (.inl ⟨new, unused, jobs⟩))
  | @requeued i _ _ _ _ found _ site _ _ _ _ => exact .inr (.inr (.inr ⟨i, _, rfl, found, site⟩))

/-- Jobs are inserted and never deleted. -/
theorem Moves.jobIds (moves : Moves env message s s' a) :
    s'.site.jobs.map (·.id) = s.site.jobs.map (·.id) ∨
      ∃ new, (∀ j ∈ s.site.jobs, j.id ≠ new) ∧
        s'.site.jobs.map (·.id) = s.site.jobs.map (·.id) ++ [new] := by
  rcases moves.jobs_cases with same | ⟨_, _, _, _, _, steps⟩ | ⟨new, unused, jobs⟩ |
    ⟨_, _, _, _, site⟩
  · exact .inl (by rw [same])
  · exact .inl steps.effect.jobIds
  · refine .inr ⟨new.id, unused, ?_⟩
    rw [jobs, List.map_append]
    rfl
  · rw [site]
    exact .inl (map_update fun _ => rfl)

theorem Moves.jobKeys (moves : Moves env message s s' a)
    (unique : (s.site.jobs.map (·.id)).Nodup) : (s'.site.jobs.map (·.id)).Nodup := by
  rcases moves.jobIds with same | ⟨new, unused, more⟩
  · rw [same]
    exact unique
  · rw [more, List.nodup_append]
    refine ⟨unique, List.nodup_singleton new, ?_⟩
    intro id listed other new' same
    obtain ⟨j, member, rfl⟩ := List.mem_map.mp listed
    exact unused j member (same.trans (List.mem_singleton.mp new'))

theorem Moves.kept (moves : Moves env message s s' a) {id : UUID}
    (present : ∃ j ∈ s.site.jobs, j.id = id) : ∃ j ∈ s'.site.jobs, j.id = id := by
  have listed : id ∈ s.site.jobs.map (·.id) := List.mem_map.mpr present
  refine List.mem_map.mp ?_
  rcases moves.jobIds with same | ⟨new, _, more⟩
  · rw [same]
    exact listed
  · rw [more]
    exact List.mem_append_left _ listed

/-- The clock moves when nothing else does. -/
theorem Moves.clock (moves : Moves env message s s' a) :
    s'.now = s.now ∨ ∃ later, a = .wait later ∧ s.now ≤ later ∧ s' = { s with now := later } := by
  cases moves with
  | @waited later forward same => exact .inr ⟨later, rfl, forward, same⟩
  | quiet now _ _ _ _ _ => exact .inl now
  | started _ _ now _ _ _ _ => exact .inl now
  | stopped now _ _ _ _ => exact .inl now
  | ticked _ _ now _ _ _ => exact .inl now
  | inserted _ now _ _ _ _ _ => exact .inl now
  | requeued _ now _ _ _ _ _ => exact .inl now

/-- No tick takes a step: ticks are started or ended, and jobs are reset. -/
structure Rests (s s' : Deployment) : Prop where
  history : s'.history = s.history ∨ ∃ id, s'.history = .reset id :: s.history
  ticks : ∀ (i : Nat) tick, s'.ticks[i]? = some tick →
    s.ticks[i]? = some tick ∨ tick.pc = .reap ∨ tick.pc.running = false

theorem Moves.rests_or_steps (moves : Moves env message s s' a) :
    Rests s s' ∨
      ∃ i choice tick tick' event, Steps env message s s' a i choice tick tick' event := by
  cases moves with
  | waited _ same =>
      subst same
      exact .inl ⟨.inl rfl, fun _ _ found => .inl found⟩
  | quiet _ _ _ ticks history _ =>
      refine .inl ⟨.inl history, fun i tick found => ?_⟩
      rw [ticks] at found
      exact .inl found
  | started p _ _ _ ticks history _ =>
      refine .inl ⟨.inl history, fun i tick found => ?_⟩
      rw [ticks] at found
      by_cases old : i < s.ticks.length
      · rw [List.getElem?_append_left old] at found
        exact .inl found
      · rw [List.getElem?_append_right (Nat.le_of_not_lt old)] at found
        cases List.mem_singleton.mp (List.mem_of_getElem? found)
        exact .inr (.inl rfl)
  | stopped _ _ ticks history _ =>
      refine .inl ⟨.inl history, fun i tick found => ?_⟩
      rcases ticks i with same | ⟨_, tick', _, _, found', ended⟩
      · rw [same] at found
        exact .inl found
      · rw [found'] at found
        cases found
        exact .inr (.inr ended)
  | @ticked i choice tick tick' event found effect _ ticks history _ =>
      exact .inr ⟨i, choice, tick, tick', event, rfl, found, effect, ticks, history⟩
  | @inserted new _ _ _ _ ticks history _ =>
      refine .inl ⟨.inr ⟨new.id, history⟩, fun i tick found => ?_⟩
      rw [ticks] at found
      exact .inl found
  | @requeued i p orgId jobId letters _ _ _ ticks _ history _ =>
      constructor
      refine ⟨?_, fun i tick found => ?_⟩
      · cases reset : s.retried orgId jobId with
        | none =>
            rw [reset] at history
            exact .inl history
        | some job =>
            rw [reset] at history
            exact .inr ⟨jobId, history⟩
      · rw [ticks] at found
        exact .inl found

section Steps

variable {i : Nat} {choice : Choice} {tick tick' : Tick} {event : Option Event}

theorem Steps.there (steps : Steps env message s s' a i choice tick tick' event) :
    s'.ticks[i]? = some tick' := by
  rw [steps.ticks, List.getElem?_set_self (List.getElem?_eq_some_iff.mp steps.found).1]

theorem Steps.others (steps : Steps env message s s' a i choice tick tick' event) {k : Nat}
    (other : k ≠ i) : s'.ticks[k]? = s.ticks[k]? := by
  rw [steps.ticks, List.getElem?_set_ne (Ne.symm other)]

end Steps

/-- Where a tick of the next state comes from. -/
theorem Moves.tick (moves : Moves env message s s' a) {k : Nat} {there : Tick}
    (found : s'.ticks[k]? = some there) :
    s.ticks[k]? = some there ∨ there.pc = .reap ∨ there.pc.running = false ∨
      ∃ choice tick event, Steps env message s s' a k choice tick there event := by
  rcases moves.rests_or_steps with rests | ⟨i, choice, tick, tick', event, steps⟩
  · rcases rests.ticks k there found with old | reap | ended
    · exact .inl old
    · exact .inr (.inl reap)
    · exact .inr (.inr (.inl ended))
  · by_cases same : k = i
    · subst same
      rw [steps.there] at found
      cases found
      exact .inr (.inr (.inr ⟨choice, tick, event, steps⟩))
    · rw [steps.others same] at found
      exact .inl found

theorem Moves.queues (moves : Moves env message s s' a) : s'.site.queues = s.site.queues := by
  cases moves with
  | waited _ same => rw [same]
  | quiet _ _ queues _ _ _ => exact queues
  | started _ _ _ site _ _ _ => rw [site]
  | stopped _ site _ _ _ => rw [site]
  | ticked _ effect _ _ _ _ => exact effect.queues
  | inserted _ _ _ queues _ _ _ => exact queues
  | requeued _ _ site _ _ _ _ =>
      rw [site]
      rfl

end Runs

/-! ## Executions in the history -/

/-- How often the handler has started on a job since the latest event of a kind. -/
def executionsSince (kind : Event → Bool) (id : UUID) (history : List Event) : Nat :=
  (history.takeWhile fun event => !kind event).count (.executed id)

section Executions

variable {kind : Event → Bool} {id : UUID} {event : Event} {history : List Event}

theorem executionsSince_of_kind (isKind : kind event = true) :
    executionsSince kind id (event :: history) = 0 := by
  simp [executionsSince, isKind]

theorem executionsSince_of_ne (other : kind event = false) (ne : event ≠ .executed id) :
    executionsSince kind id (event :: history) = executionsSince kind id history := by
  simp [executionsSince, other, List.count_cons_of_ne ne]

theorem executionsSince_executed (other : kind (.executed id) = false) :
    executionsSince kind id (.executed id :: history) = executionsSince kind id history + 1 := by
  simp [executionsSince, other]

end Executions

/-! ## A small deployment -/

/-- One process, at time zero. -/
def atRest (site : Site) : Deployment := ⟨0, site, [⟨none, 0⟩], [], [], [], []⟩

/-- One queue of organization `1`, and the worker of the dashboard. -/
def oneQueue (concurrencyLimit : Option Int) (jobs : List Job) : Site where
  organizations := [⟨1, "Acme", "acme", 0, 0⟩]
  users := []
  projects := [⟨10, 1, "Mail", "mail", none, 0, 0⟩]
  retryPolicies := []
  queues := [⟨100, 10, "Outbox", "outbox", none, 0, concurrencyLimit, false, 0, 0⟩]
  workers := [⟨9, workerName, .active, 0, 0⟩]
  workerHeartbeats := []
  jobs := jobs
  executions := []
  logs := []
  letters := []

/-- A due job of that queue. -/
def dueJob (id : UUID) (maxAttempts : Int) (payload : Json) : Job :=
  ⟨id, 100, .queued, 0, payload, none, some 0, 0, maxAttempts, none, none, none, none, none, none,
    none, none, none, 0, 0⟩

/-- Payloads and identifiers are not read; ties go by identifier. -/
def stubEnv : Env where
  parseUuid _ := .error "invalid input syntax for type uuid"
  parseJson _ := .error "unexpected token"
  describe _ := "constraint violated"
  fresh := 0
  now := 0
  rank := id
  demoAuth := false
  signToken _ := ""
  tick site := (⟨200, .pulse 0 ""⟩, site)

/-- At most one tick is at a place of this kind. -/
def AtMostOne (kind : TickPc → Bool) (s : Deployment) : Prop :=
  ∀ i < s.ticks.length, ∀ k < s.ticks.length, (s.ticks[i]?).any (fun tick => kind tick.pc) = true →
    (s.ticks[k]?).any (fun tick => kind tick.pc) = true → i = k

instance (kind : TickPc → Bool) : DecidablePred (AtMostOne kind) :=
  fun s => inferInstanceAs (Decidable (∀ i < s.ticks.length, ∀ k < s.ticks.length, _ → _ → _))

theorem AtMostOne.eq {kind : TickPc → Bool} {s : Deployment} (one : AtMostOne kind s) {i k : Nat}
    {tick other : Tick} (found : s.ticks[i]? = some tick) (found' : s.ticks[k]? = some other)
    (here : kind tick.pc = true) (there : kind other.pc = true) : i = k := by
  refine one i (List.getElem?_eq_some_iff.mp found).1 k (List.getElem?_eq_some_iff.mp found').1
    ?_ ?_
  · rw [found]
    exact here
  · rw [found']
    exact there

/-- The next statements of a tick. -/
def statements (i n : Nat) : List Action := List.replicate n (.tick i ⟨id, id, id, 9⟩)

end Dashboard

end JobScheduler
