import JobScheduler.System.References
import JobScheduler.Relational.Constraints

/-!
# The constraints of the schema in the whole system

Only three of the statements of an engine check what they refer to: `RecordExecution`,
`AppendJobLog` and `MoveToDLQ` fail when a constraint would break. All the others, the claims,
renewals and sweeps among them, rewrite rows of `jobs` and `workers` without a check, at a time when
requests may have deleted what they are about.

Still the foreign keys and the unique indexes of these tables hold in every reachable state, so none
of these statements can ever fail on a constraint. An execution inserts history rows of its job and
its worker, which only fail when the queue of the job was deleted.
-/

set_option autoImplicit false

namespace JobScheduler

open Relational Transition

/-- The constraints on the tables that engines and reapers write. -/
structure Database.Integral (db : Database) : Prop where
  workerKeys : (db.workers.map (·.id)).Nodup
  heartbeatKeys : (db.workerHeartbeats.map (·.workerId)).Nodup
  letterKeys : (db.deadLetterQueue.map (·.jobId)).Nodup
  heartbeatWorkers :
    References WorkerHeartbeat.workerId Worker.id db.workerHeartbeats db.workers
  jobQueues : References Job.queueId Queue.id db.jobs db.queues
  jobWorkers : ∀ row ∈ db.jobs, ∀ id ∈ row.workerId, ∃ worker ∈ db.workers, worker.id = id
  executionJobs : References JobExecution.jobId Job.id db.jobExecutions db.jobs
  executionWorkers : References JobExecution.workerId Worker.id db.jobExecutions db.workers
  logJobs : References JobLogEntry.jobId Job.id db.jobLogs db.jobs
  letterJobs : References DeadLetterEntry.jobId Job.id db.deadLetterQueue db.jobs
  letterQueues :
    References DeadLetterEntry.originalQueueId Queue.id db.deadLetterQueue db.queues

namespace Database.Integral

variable {db : Database}

/-! ## Requests -/

/-- Changes of organizations and projects, and of queues that stay. -/
theorem settings (integral : db.Integral) {organizations : List Organization}
    {projects : List Project} {queues : List Queue}
    (kept : db.queues.map (·.id) ⊆ queues.map (·.id)) :
    Integral { db with organizations := organizations, projects := projects, queues := queues } :=
  { integral with
    jobQueues := integral.jobQueues.targets_mono kept
    letterQueues := integral.letterQueues.targets_mono kept }

theorem updateQueues (integral : db.Integral) {selects : Queue → Prop} [DecidablePred selects]
    {rewrite : Queue → Queue} (ids : ∀ queue, (rewrite queue).id = queue.id) :
    Integral { db with queues := update selects rewrite db.queues } := by
  refine integral.settings ?_
  rw [map_update ids]
  exact fun _ listed => listed

/-- What belongs to a deleted queue goes with it. -/
theorem deleteQueues (integral : db.Integral) (gone : List UUID) :
    (db.deleteQueues gone).Integral := by
  have jobsStay : ∀ {id : UUID}, id ∉ (db.jobs.filter (·.queueId ∈ gone)).map (·.id) →
      ∀ row ∈ db.jobs, row.id = id → row.queueId ∉ gone := by
    rintro id stays row member rfl inside
    exact stays (List.mem_map_of_mem (List.mem_filter.mpr ⟨member, decide_eq_true inside⟩))
  exact { integral with
    letterKeys := nodup_map_filter integral.letterKeys _
    jobQueues := integral.jobQueues.cascade fun row _ kept queue _ same => by
      rw [same]
      exact kept
    jobWorkers := forall_mem_filter integral.jobWorkers
    executionJobs := integral.executionJobs.cascade fun e _ kept row member same =>
      decide_eq_true (jobsStay (of_decide_eq_true kept) row member same)
    executionWorkers := integral.executionWorkers.filter
    logJobs := integral.logJobs.cascade fun l _ kept row member same =>
      decide_eq_true (jobsStay (of_decide_eq_true kept) row member same)
    letterJobs := integral.letterJobs.cascade fun d _ kept row member same =>
      decide_eq_true (jobsStay (of_decide_eq_true kept).1 row member same)
    letterQueues := integral.letterQueues.cascade fun d _ kept queue _ same => by
      rw [same]
      exact decide_eq_true (of_decide_eq_true kept).2 }

/-- A batch of rows that no worker has. -/
theorem insertJobs (integral : db.Integral) {rows : List Job}
    (unowned : ∀ row ∈ rows, row.workerId = none)
    (placed : ∀ row ∈ rows, ∃ queue ∈ db.queues, queue.id = row.queueId) :
    Integral { db with jobs := db.jobs ++ rows } := by
  refine { integral with
    jobQueues := ?_
    jobWorkers := ?_
    executionJobs := integral.executionJobs.targets_append rows
    logJobs := integral.logJobs.targets_append rows
    letterJobs := integral.letterJobs.targets_append rows }
  · intro row member
    rcases List.mem_append.mp member with old | new
    · exact integral.jobQueues row old
    · exact placed row new
  · intro row member id owner
    rcases List.mem_append.mp member with old | new
    · exact integral.jobWorkers row old id owner
    · rw [unowned row new] at owner
      cases owner

/-! ## Engines and reapers -/

section Jobs

variable {selects : Job → Prop} [DecidablePred selects] {rewrite : Job → Job}

/-- Rows rewritten in place, with owners that are there. -/
theorem rewriteJobs (integral : db.Integral) (fixed : ∀ row, (rewrite row).fixed = row.fixed)
    (owners : ∀ row ∈ db.jobs, selects row → ∀ id ∈ (rewrite row).workerId,
      ∃ worker ∈ db.workers, worker.id = id) :
    Integral { db with jobs := update selects rewrite db.jobs } := by
  have ids : ∀ row, (rewrite row).id = row.id := fun row => Job.id_eq_of_fixed (fixed row)
  exact { integral with
    jobQueues := integral.jobQueues.update fun row => Job.queueId_eq_of_fixed (fixed row)
    jobWorkers := forall_mem_update integral.jobWorkers owners
    executionJobs := integral.executionJobs.targets_update ids
    logJobs := integral.logJobs.targets_update ids
    letterJobs := integral.letterJobs.targets_update ids }

/-- Rows rewritten in place, with the owners they had or with none. -/
theorem rewriteOwned (integral : db.Integral) (fixed : ∀ row, (rewrite row).fixed = row.fixed)
    (owners : ∀ row, (rewrite row).workerId = row.workerId ∨ (rewrite row).workerId = none) :
    Integral { db with jobs := update selects rewrite db.jobs } := by
  refine integral.rewriteJobs fixed fun row member _ id owner => ?_
  rcases owners row with same | none
  · rw [same] at owner
    exact integral.jobWorkers row member id owner
  · rw [none] at owner
    cases owner

end Jobs

/-- Dead letters of one row, none of which was there before. -/
theorem insertLetters (integral : db.Integral) {letters : List DeadLetterEntry}
    (keys : (letters.map (·.jobId)).Nodup)
    (free : ∀ letter ∈ letters, ∀ old ∈ db.deadLetterQueue, old.jobId ≠ letter.jobId)
    (made : ∀ letter ∈ letters, ∃ row ∈ db.jobs, row.id = letter.jobId ∧
      row.queueId = letter.originalQueueId) :
    Integral { db with deadLetterQueue := db.deadLetterQueue ++ letters } := by
  refine { integral with
    letterKeys := ?_
    letterJobs := ?_
    letterQueues := ?_ }
  · rw [List.map_append, List.nodup_append]
    refine ⟨integral.letterKeys, keys, ?_⟩
    rintro _ old _ new rfl
    obtain ⟨first, firstMember, same⟩ := List.mem_map.mp old
    obtain ⟨second, secondMember, same'⟩ := List.mem_map.mp new
    exact free second secondMember first firstMember (same.trans same'.symm)
  · intro letter member
    rcases List.mem_append.mp member with old | new
    · exact integral.letterJobs letter old
    · obtain ⟨row, rowMember, same, _⟩ := made letter new
      exact ⟨row, rowMember, same⟩
  · intro letter member
    rcases List.mem_append.mp member with old | new
    · exact integral.letterQueues letter old
    · obtain ⟨row, rowMember, _, same⟩ := made letter new
      rw [← same]
      exact integral.jobQueues row rowMember

theorem recordExecution (integral : db.Integral) {execution : JobExecution} {db' : Database}
    (records : db.recordExecution execution = .ok db') : db'.Integral := by
  unfold Database.recordExecution at records
  obtain ⟨_, records⟩ := passed_check records
  obtain ⟨refers, records⟩ := passed_check records
  cases records
  rw [not_or, not_not, not_not] at refers
  exact { integral with
    executionJobs := integral.executionJobs.append refers.1
    executionWorkers := integral.executionWorkers.append refers.2 }

theorem appendJobLog (integral : db.Integral) {entry : JobLogEntry} {db' : Database}
    (appends : db.appendJobLog entry = .ok db') : db'.Integral := by
  unfold Database.appendJobLog at appends
  obtain ⟨refers, appends⟩ := passed_check appends
  cases appends
  exact { integral with logJobs := integral.logJobs.append (not_not.mp refers) }

/-! ## Workers -/

theorem registerWorker (integral : db.Integral) {now : Timestamptz} {id : UUID} {name : String}
    (fresh : ∀ worker ∈ db.workers, worker.id ≠ id) :
    (db.registerWorker now id name).Integral := by
  have unbeaten : ¬ ∃ beat ∈ db.workerHeartbeats, beat.workerId = id := by
    rintro ⟨beat, member, rfl⟩
    obtain ⟨worker, listed, same⟩ := integral.heartbeatWorkers beat member
    exact fresh worker listed same
  exact { integral with
    workerKeys := nodup_map_append integral.workerKeys
      fun ⟨worker, member, same⟩ => fresh worker member same
    heartbeatKeys := nodup_map_append integral.heartbeatKeys unbeaten
    heartbeatWorkers := (integral.heartbeatWorkers.targets_append _).append
      ⟨_, List.mem_append_right _ List.mem_cons_self, rfl⟩
    jobWorkers := fun row member id owner => by
      obtain ⟨worker, listed, same⟩ := integral.jobWorkers row member id owner
      exact ⟨worker, List.mem_append_left _ listed, same⟩
    executionWorkers := integral.executionWorkers.targets_append _ }

/-- Workers rewritten in place. -/
theorem rewriteWorkers (integral : db.Integral) {selects : Worker → Prop} [DecidablePred selects]
    {rewrite : Worker → Worker} (ids : ∀ worker, (rewrite worker).id = worker.id) :
    Integral { db with workers := update selects rewrite db.workers } :=
  { integral with
    workerKeys := nodup_map_update ids integral.workerKeys
    heartbeatWorkers := integral.heartbeatWorkers.targets_update ids
    jobWorkers := fun row member id owner => by
      obtain ⟨worker, listed, same⟩ := integral.jobWorkers row member id owner
      have kept : worker.id ∈ (update selects rewrite db.workers).map (·.id) := by
        rw [map_update ids]
        exact List.mem_map_of_mem listed
      obtain ⟨worker', listed', same'⟩ := List.mem_map.mp kept
      exact ⟨worker', listed', same'.trans same⟩
    executionWorkers := integral.executionWorkers.targets_update ids }

theorem heartbeat (integral : db.Integral) (now : Timestamptz) (workerId : UUID)
    (leaseSeconds : Int) : (db.heartbeat now workerId leaseSeconds).Integral := by
  have renewed : Integral { db with
      jobs := update (Job.RenewedBy workerId) (Job.renewLease now leaseSeconds) db.jobs } :=
    integral.rewriteOwned (fun _ => rfl) fun _ => .inl rfl
  exact { renewed with
    heartbeatKeys := nodup_map_update (fun _ => rfl) integral.heartbeatKeys
    heartbeatWorkers := integral.heartbeatWorkers.update fun _ => rfl }

/-! ## The statements of an execution -/

section Execution

variable {db' : Database}

theorem moveToDLQ (integral : db.Integral) (ids : (db.jobs.map (·.id)).Nodup) {now : Timestamptz}
    {jobId : UUID} {reason : String} {attempts : Int}
    (moves : db.moveToDLQ now jobId reason attempts = .ok db') : db'.Integral := by
  obtain ⟨rfl, free⟩ := db.moveToDLQ_spec moves
  have lettered : Integral { db with deadLetterQueue := db.deadLetterQueue ++
      (db.jobs.filter (·.id = jobId)).map (Job.deadLetterEntry now reason attempts) } := by
    refine integral.insertLetters ?_ ?_ ?_
    · have keys : ((db.jobs.filter (·.id = jobId)).map (·.id)).Nodup := nodup_map_filter ids _
      rw [List.map_map]
      exact keys
    · rintro letter new old member same
      obtain ⟨row, found, rfl⟩ := List.mem_map.mp new
      obtain ⟨found, here⟩ := List.mem_filter.mp found
      rw [decide_eq_true_eq] at here
      exact free ⟨row, found, here⟩ old member (same.trans here)
    · rintro letter new
      obtain ⟨row, found, rfl⟩ := List.mem_map.mp new
      exact ⟨row, List.mem_of_mem_filter found, rfl, rfl⟩
  exact lettered.rewriteOwned (fun _ => rfl) fun _ => .inl rfl

/-- A call that may fail, on its own or as the environment decides. -/
theorem tried (integral : db.Integral) (succeeds : Bool) {result : Except StoreError Database}
    (keeps : ∀ db', result = .ok db' → db'.Integral) :
    (JobScheduler.tried succeeds db result).Integral := by
  unfold JobScheduler.tried
  split
  · exact keeps _ rfl
  · exact integral

/-- A statement that rewrites the row of a job and keeps its owner or clears it. -/
theorem triedRewrite (integral : db.Integral) (succeeds : Bool) {rewrite : Job → Job} {jobId : UUID}
    (fixed : ∀ row, (rewrite row).fixed = row.fixed)
    (owners : ∀ row, (rewrite row).workerId = row.workerId ∨ (rewrite row).workerId = none) :
    (JobScheduler.tried succeeds db
      (.ok { db with jobs := update (·.id = jobId) rewrite db.jobs })).Integral := by
  refine integral.tried succeeds fun db' same => ?_
  cases same
  exact integral.rewriteOwned fixed owners

theorem advance (integral : db.Integral) (ids : (db.jobs.map (·.id)).Nodup)
    {handlers : List String} {workerId : UUID} {now : Timestamptz} {job : Job} {pc pc' : Pc}
    {response : Response} {event : Option Event}
    (advances : JobScheduler.advance handlers workerId now job db pc response =
      some (db', pc', event)) : db'.Integral := by
  cases pc with
  | pending | returned => cases advances
  | gate key =>
      obtain ⟨succeeds, draw, rfl, continues⟩ := Response.onCall_eq_some advances
      split at continues
      · cases continues
        exact integral
      · cases continues
        exact integral
  | completeIdempotent | setRunning | complete start finish =>
      obtain ⟨succeeds, draw, rfl, continues⟩ := Response.onCall_eq_some advances
      cases continues
      exact integral.triedRewrite succeeds (fun _ => rfl) fun _ => .inl rfl
  | failJob errMsg nextRunAt =>
      obtain ⟨succeeds, draw, rfl, continues⟩ := Response.onCall_eq_some advances
      cases continues
      exact integral.triedRewrite succeeds (fun _ => rfl) fun _ => .inl rfl
  | requeueForRetry nextRunAt =>
      obtain ⟨succeeds, draw, rfl, continues⟩ := Response.onCall_eq_some advances
      cases continues
      exact integral.triedRewrite succeeds (fun _ => rfl) fun _ => .inr rfl
  | logStarted jobType | logCompleted start finish =>
      obtain ⟨succeeds, draw, rfl, continues⟩ := Response.onCall_eq_some advances
      cases continues
      exact integral.tried succeeds fun _ => integral.appendJobLog
  | logFailed errMsg =>
      obtain ⟨succeeds, draw, rfl, continues⟩ := Response.onCall_eq_some advances
      obtain ⟨next, _, same⟩ := Option.map_eq_some_iff.mp continues
      cases same
      exact integral.tried succeeds fun _ => integral.appendJobLog
  | startHandler =>
      obtain ⟨nanos, rfl, continues⟩ := Response.onStart_eq_some advances
      cases continues
      exact integral
  | handling start =>
      obtain ⟨error, nanos, rfl, continues⟩ := Response.onReturn_eq_some advances
      cases error <;> cases continues <;> exact integral
  | recordCompleted start finish | recordFailed errMsg start finish =>
      obtain ⟨succeeds, draw, rfl, continues⟩ := Response.onCall_eq_some advances
      cases continues
      exact integral.tried succeeds fun _ => integral.recordExecution
  | moveToDLQ errMsg =>
      obtain ⟨succeeds, draw, rfl, continues⟩ := Response.onCall_eq_some advances
      cases continues
      exact integral.tried succeeds fun _ => integral.moveToDLQ ids
  | getRetryPolicy errMsg policyId =>
      obtain ⟨succeeds, draw, rfl, continues⟩ := Response.onCall_eq_some advances
      obtain ⟨next, _, same⟩ := Option.map_eq_some_iff.mp continues
      cases same
      exact integral

end Execution

/-! ## The requests -/

theorem perform (integral : db.Integral) {cron : CronParser} {now : Timestamptz}
    {request : Request} {db' : Database} (performs : request.perform cron now db = some db') :
    db'.Integral := by
  have unplaced : ∀ rows : List Job, (∀ row ∈ rows, InsertedRow now db row) →
      Integral { db with jobs := db.jobs ++ rows } := by
    intro rows made
    refine integral.insertJobs (fun row member => ?_) fun row member => (made row member).queue
    obtain ⟨input, _, same⟩ := (made row member).made
    rw [same]
    rfl
  cases request with
  | createOrg id name slug =>
      obtain ⟨_, rfl⟩ := Database.createOrg_spec (toOption_eq_some performs)
      exact integral.settings fun _ listed => listed
  | updateOrg id name slug =>
      obtain ⟨_, _, rfl⟩ := Database.updateOrg_spec (toOption_eq_some performs)
      exact integral.settings fun _ listed => listed
  | deleteOrg id =>
      obtain ⟨_, rfl⟩ := Database.deleteOrg_spec (toOption_eq_some performs)
      exact (integral.deleteQueues _).settings fun _ listed => listed
  | createProject id orgId name slug description =>
      obtain ⟨_, _, rfl⟩ := Database.createProject_spec (toOption_eq_some performs)
      exact integral.settings fun _ listed => listed
  | updateProject id orgId name slug description =>
      obtain ⟨_, _, rfl⟩ := Database.updateProject_spec (toOption_eq_some performs)
      exact integral.settings fun _ listed => listed
  | deleteProject id orgId =>
      obtain ⟨_, rfl⟩ := Database.deleteProject_spec (toOption_eq_some performs)
      exact (integral.deleteQueues _).settings fun _ listed => listed
  | createQueue queue =>
      obtain ⟨_, _, _, _, rfl⟩ := Database.createQueue_spec (toOption_eq_some performs)
      exact integral.settings (List.map_subset _ (List.subset_append_left _ _))
  | updateQueue queue orgId =>
      obtain ⟨_, _, _, _, rfl⟩ := Database.updateQueue_spec (toOption_eq_some performs)
      exact integral.updateQueues fun _ => rfl
  | deleteQueue id orgId =>
      obtain ⟨_, rfl⟩ := Database.deleteQueue_spec (toOption_eq_some performs)
      exact integral.deleteQueues _
  | setPaused id orgId paused =>
      obtain ⟨_, rfl⟩ := Database.setPaused_spec (toOption_eq_some performs)
      exact integral.updateQueues fun _ => rfl
  | createJob id req queue =>
      simp only [Request.perform] at performs
      split at performs
      · cases performs
      next input builds =>
        obtain ⟨⟨final, result⟩, creates, rfl⟩ := Option.map_eq_some_iff.mp performs
        obtain ⟨rows, rfl, _, made, _⟩ :=
          createJob_rows (buildJobInput_fromApi builds) (toOption_eq_some creates)
        exact unplaced rows made
  | createBatch batchId jobs queue =>
      simp only [Request.perform] at performs
      split at performs
      · cases performs
      · split at performs
        · cases performs
        next inputs builds =>
          obtain ⟨⟨final, results⟩, creates, rfl⟩ := Option.map_eq_some_iff.mp performs
          obtain ⟨rows, rfl, _, made, _⟩ :=
            createJobBatch_rows inputs (buildBatch_spec builds).1 (toOption_eq_some creates)
          exact unplaced rows made
  | retryDLQJob id orgId =>
      obtain ⟨⟨final, job⟩, retries, rfl⟩ := Option.map_eq_some_iff.mp performs
      obtain ⟨dead, rfl⟩ := db.retryDLQJob_spec (toOption_eq_some retries)
      have retried : Integral { db with jobs := update (·.id = id) (Job.retryDLQ now) db.jobs } :=
        integral.rewriteOwned (fun _ => rfl) fun _ => .inr rfl
      exact { retried with
        letterKeys := nodup_map_filter integral.letterKeys _
        letterJobs := retried.letterJobs.filter
        letterQueues := retried.letterQueues.filter }

end Database.Integral

/-! ## The whole system -/

/-- What a request does to workers and executions: nothing, but for the executions of the jobs
in the queues it deletes. -/
structure HistoryEffect (db db' : Database) (gone : List UUID) : Prop where
  workers : db'.workers = db.workers
  jobs : ∀ row ∈ db'.jobs, row.queueId ∉ gone
  executions : db'.jobExecutions = (db.deleteQueues gone).jobExecutions

theorem HistoryEffect.none {db db' : Database} (workers : db'.workers = db.workers)
    (executions : db'.jobExecutions = db.jobExecutions) : HistoryEffect db db' [] where
  workers := workers
  jobs _ _ := List.not_mem_nil
  executions := by
    rw [executions]
    simp [Database.deleteQueues]

theorem HistoryEffect.deleted (db : Database) (gone : List UUID) (organizations : List Organization)
    (projects : List Project) :
    HistoryEffect db { db.deleteQueues gone with
      organizations := organizations, projects := projects } gone where
  workers := rfl
  jobs _ member := of_decide_eq_true (List.mem_filter.mp member).2
  executions := rfl

theorem Request.perform_history {cron : CronParser} {now : Timestamptz} {db db' : Database}
    {request : Request} (performs : request.perform cron now db = some db') :
    ∃ gone, HistoryEffect db db' gone := by
  cases request with
  | createOrg =>
      obtain ⟨_, rfl⟩ := Database.createOrg_spec (toOption_eq_some performs)
      exact ⟨[], .none rfl rfl⟩
  | updateOrg =>
      obtain ⟨_, _, rfl⟩ := Database.updateOrg_spec (toOption_eq_some performs)
      exact ⟨[], .none rfl rfl⟩
  | deleteOrg =>
      obtain ⟨_, rfl⟩ := Database.deleteOrg_spec (toOption_eq_some performs)
      exact ⟨_, .deleted db _ _ _⟩
  | createProject =>
      obtain ⟨_, _, rfl⟩ := Database.createProject_spec (toOption_eq_some performs)
      exact ⟨[], .none rfl rfl⟩
  | updateProject =>
      obtain ⟨_, _, rfl⟩ := Database.updateProject_spec (toOption_eq_some performs)
      exact ⟨[], .none rfl rfl⟩
  | deleteProject =>
      obtain ⟨_, rfl⟩ := Database.deleteProject_spec (toOption_eq_some performs)
      exact ⟨_, .deleted db _ _ _⟩
  | createQueue =>
      obtain ⟨_, _, _, _, rfl⟩ := Database.createQueue_spec (toOption_eq_some performs)
      exact ⟨[], .none rfl rfl⟩
  | updateQueue =>
      obtain ⟨_, _, _, _, rfl⟩ := Database.updateQueue_spec (toOption_eq_some performs)
      exact ⟨[], .none rfl rfl⟩
  | deleteQueue =>
      obtain ⟨_, rfl⟩ := Database.deleteQueue_spec (toOption_eq_some performs)
      exact ⟨_, .deleted db _ _ _⟩
  | setPaused =>
      obtain ⟨_, rfl⟩ := Database.setPaused_spec (toOption_eq_some performs)
      exact ⟨[], .none rfl rfl⟩
  | createJob =>
      simp only [Request.perform] at performs
      split at performs
      · cases performs
      next input builds =>
        obtain ⟨⟨final, result⟩, creates, rfl⟩ := Option.map_eq_some_iff.mp performs
        obtain ⟨rows, rfl, _⟩ :=
          createJob_rows (buildJobInput_fromApi builds) (toOption_eq_some creates)
        exact ⟨[], .none rfl rfl⟩
  | createBatch =>
      simp only [Request.perform] at performs
      split at performs
      · cases performs
      · split at performs
        · cases performs
        next inputs builds =>
          obtain ⟨⟨final, results⟩, creates, rfl⟩ := Option.map_eq_some_iff.mp performs
          obtain ⟨rows, rfl, _⟩ :=
            createJobBatch_rows inputs (buildBatch_spec builds).1 (toOption_eq_some creates)
          exact ⟨[], .none rfl rfl⟩
  | retryDLQJob =>
      obtain ⟨⟨final, job⟩, retries, rfl⟩ := Option.map_eq_some_iff.mp performs
      obtain ⟨_, rfl⟩ := db.retryDLQJob_spec (toOption_eq_some retries)
      exact ⟨[], .none rfl rfl⟩

/-- The constraints of a state, and that the engines are workers. -/
structure Constrained (w : World) : Prop where
  referential : Referential w
  integral : w.db.Integral
  workers : ∀ row ∈ w.db.workers, row.id ∈ w.issued
  employed : ∀ worker engine, w.engines worker = some engine →
    ∃ row ∈ w.db.workers, row.id = worker

namespace World

variable {cron : CronParser} {w w' : World} {a : Action}

/-- The workers after a step: a new one registers, or they are the same. -/
theorem step_workers (moves : Moves cron w a w') :
    (∃ worker cfg, a = .register worker cfg ∧
      w'.db.workers.map (·.id) = w.db.workers.map (·.id) ++ [worker]) ∨
      w'.db.workers.map (·.id) = w.db.workers.map (·.id) := by
  cases moves with
  | register worker cfg fresh => exact .inl ⟨worker, cfg, rfl, List.map_append⟩
  | markDead => exact .inr (map_update fun _ => rfl)
  | deregister worker succeeds =>
      cases succeeds with
      | false => exact .inr rfl
      | true => exact .inr (map_update fun _ => rfl)
  | release worker succeeds =>
      cases succeeds with
      | false => exact .inr rfl
      | true => exact .inr rfl
  | api request db nodup fresh performs =>
      obtain ⟨_, effect⟩ := Request.perform_history performs
      exact .inr (congrArg (List.map Worker.id) effect.workers)
  | claim worker tie emit engine queueId queues db jobs found running phase claims =>
      obtain ⟨_, _, rfl, _⟩ := w.db.claimJobs_spec claims
      exact .inr rfl
  | exec ticket response task engine db pc event taken found alive permitted advances =>
      refine .inr (congrArg (List.map Worker.id) ?_)
      cases advance_effect advances with
      | spared same => rw [show db = _ from same]
      | written => rfl
  | tick | sweep | heartbeat | cancel | crash | poll | claimFailed | dispatch | proceed
  | finish => exact .inr rfl

/-- **The constraints are kept by every step.** -/
theorem constrained_step (moves : Moves cron w a w') (inv : Constrained w) : Constrained w' := by
  have wf := inv.referential.wellFormed
  refine ⟨referential_step moves inv.referential, ?_, ?_, ?_⟩
  · cases moves with
    | tick | cancel | crash | poll | claimFailed | dispatch | proceed | finish =>
        exact inv.integral
    | api request db nodup fresh performs => exact inv.integral.perform performs
    | sweep => exact inv.integral.rewriteOwned (fun _ => rfl) fun _ => .inr rfl
    | markDead => exact inv.integral.rewriteWorkers fun _ => rfl
    | register worker cfg fresh =>
        refine inv.integral.registerWorker fun row member same => ?_
        rw [← same] at fresh
        exact fresh (inv.workers row member)
    | heartbeat worker engine => exact inv.integral.heartbeat _ _ _
    | claim worker tie emit engine queueId queues db jobs found running phase claims =>
        obtain ⟨_, _, rfl, _⟩ := w.db.claimJobs_spec claims
        refine inv.integral.rewriteJobs (fun _ => rfl) fun _ _ _ id owner => ?_
        cases owner
        exact inv.employed worker engine found
    | release worker succeeds =>
        cases succeeds with
        | false => exact inv.integral
        | true => exact inv.integral.rewriteOwned (fun _ => rfl) fun _ => .inr rfl
    | deregister worker succeeds =>
        cases succeeds with
        | false => exact inv.integral
        | true => exact inv.integral.rewriteWorkers fun _ => rfl
    | exec ticket response task engine db pc event taken found alive permitted advances =>
        exact inv.integral.advance wf.ids advances
  · intro row member
    have listed := List.mem_map_of_mem (f := (·.id)) member
    rcases step_workers moves with ⟨worker, cfg, rfl, ids⟩ | ids
    · rw [ids, List.mem_append, List.mem_singleton] at listed
      rcases listed with old | new
      · obtain ⟨row', member', same⟩ := List.mem_map.mp old
        rw [← same]
        exact issued_mono moves (inv.workers row' member')
      · rw [new]
        cases moves with
        | register => exact List.mem_cons_self
    · rw [ids] at listed
      obtain ⟨row', member', same⟩ := List.mem_map.mp listed
      rw [← same]
      exact issued_mono moves (inv.workers row' member')
  · intro worker engine found
    suffices worker ∈ w'.db.workers.map (·.id) from List.mem_map.mp this
    have before : ∀ {engine}, w.engines worker = some engine →
        worker ∈ w'.db.workers.map (·.id) := by
      intro engine found
      obtain ⟨row, member, same⟩ := inv.employed worker engine found
      have listed := List.mem_map_of_mem (f := (·.id)) member
      rw [same] at listed
      rcases step_workers moves with ⟨_, _, _, ids⟩ | ids
      · rw [ids]
        exact List.mem_append_left _ listed
      · rw [ids]
        exact listed
    cases step_engines moves found with
    | registered registers =>
        subst registers
        rcases step_workers moves with ⟨_, _, same, ids⟩ | ids
        · cases same
          rw [ids]
          exact List.mem_append_right _ List.mem_cons_self
        · cases moves with
          | register =>
              exact List.mem_map.mpr ⟨_, List.mem_append_right _ List.mem_cons_self, rfl⟩
    | kept found => exact before found

theorem constrained_start (now : Timestamptz) (policies : List RetryPolicy) :
    Constrained (World.start now policies) where
  referential := referential_start now policies
  integral := by
    constructor <;> first | exact List.nodup_nil | exact fun _ member => nomatch member
  workers _ member := by cases member
  employed _ _ found := by cases found

end World

theorem constrained_throughout {cron : CronParser} {trace : List (World × Action)} {w : World}
    (run : Run (scheduler cron) trace w) : Throughout Constrained trace w := by
  have anyway : Meets (fun _ _ => True) trace := fun _ _ => trivial
  refine run.throughout anyway ?_ ?_
  · rintro s ⟨now, policies, rfl⟩
    exact World.constrained_start now policies
  · intro s a s' taken _ inv
    exact World.constrained_step (World.step_moves taken) inv

/-! ## The statements that check -/

/-- The rows that the execution of a task inserts break no foreign key. -/
def World.Recordable (w : World) (task : Task) : Prop :=
  (∀ execution : JobExecution, execution.jobId = task.job.id →
    execution.workerId = task.worker →
    w.db.recordExecution execution ≠ .error .foreignKeyViolation) ∧
  ∀ entry : JobLogEntry, entry.jobId = task.job.id →
    w.db.appendJobLog entry ≠ .error .foreignKeyViolation

/-- As long as its queue is there, the row of a task's job is, and so is the row of its worker. -/
theorem Constrained.recordable {w : World} (inv : Constrained w) {ticket : Nat} {task : Task}
    (taken : w.tasks ticket = some task) (stays : w.db.HasQueue task.job.queueId) :
    w.Recordable task := by
  have job : ∃ row ∈ w.db.jobs, row.id = task.job.id :=
    inv.referential.present ticket task taken stays
  have worker : ∃ row ∈ w.db.workers, row.id = task.worker := by
    obtain ⟨engine, found⟩ := inv.referential.wellFormed.employed ticket task taken
    exact inv.employed task.worker engine found
  constructor
  · intro execution ofJob ofWorker fails
    rw [← ofJob] at job
    rw [← ofWorker] at worker
    unfold Database.recordExecution at fails
    split at fails
    · cases fails
    · rw [if_neg (not_or.mpr ⟨not_not.mpr job, not_not.mpr worker⟩)] at fails
      cases fails
  · intro entry ofJob fails
    rw [← ofJob] at job
    unfold Database.appendJobLog at fails
    rw [if_neg (not_not.mpr job)] at fails
    cases fails

/-- **The constraints hold throughout.** In every state of every run the tables of engines and
reapers satisfy the constraints of the schema, and an execution only fails to record what it does
on a foreign key when its queue was deleted. -/
theorem constraints_throughout {cron : CronParser} {trace : List (World × Action)} {w : World}
    (run : Run (scheduler cron) trace w) :
    Throughout (fun s => s.db.Integral ∧ (s.db.jobs.map (·.id)).Nodup ∧ s.db.KeysUnique ∧
      ∀ ticket task, s.tasks ticket = some task → s.db.HasQueue task.job.queueId →
        s.Recordable task) trace w := by
  have all := constrained_throughout run
  have holds : ∀ s, Constrained s → s.db.Integral ∧ (s.db.jobs.map (·.id)).Nodup ∧
      s.db.KeysUnique ∧ ∀ ticket task, s.tasks ticket = some task →
        s.db.HasQueue task.job.queueId → s.Recordable task :=
    fun s inv => ⟨inv.integral, inv.referential.wellFormed.ids, inv.referential.keys,
      fun _ _ taken => inv.recordable taken⟩
  exact ⟨fun entry member => holds entry.1 (all.1 entry member), holds w all.2⟩

/-- The organization is deleted while worker 5 executes job 4, and worker 6 has nothing to do. -/
def deletedMeanwhile : List Action :=
  Scenario.deployed ++ Scenario.take 5 ++
    [.exec 0 (.call true 0), .register 6 Scenario.config, .api (.deleteOrg 1),
      .exec 0 (.call true 0), .heartbeat 5, .tick 1000000, .sweep, .markDead 0]

theorem constraints_throughout_deleted :
    ∃ trace w, Run (scheduler Scenario.cron) trace w ∧ w.db.Integral ∧
      w.db.workers.map (·.id) = [5, 6] ∧ w.db.jobs = [] ∧ (w.tasks 0).isSome := by
  obtain ⟨trace, w, run, workers, gone, taken⟩ :=
    exists_run_of_execute (scheduler Scenario.cron) deletedMeanwhile (World.start 0 [])
      (fun _ w => w.db.workers.map (·.id) = [5, 6] ∧ w.db.jobs = [] ∧ (w.tasks 0).isSome)
      ⟨0, [], rfl⟩ (by decide)
  exact ⟨trace, w, run, (constraints_throughout run).2.1, workers, gone, taken⟩

end JobScheduler
