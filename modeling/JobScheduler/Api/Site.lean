import JobScheduler.Store.Sessions
import JobScheduler.Relational.Query
import JobScheduler.Api.JobInput
import Mathlib.Data.Rat.Defs

/-!
# The database as the API sees it

The store methods behind the authenticated routes, over tables with all the columns the API
reads: users, and executions, logs and dead letters with their primary keys. The methods on
organizations, projects, queues and jobs are those of the other modules, applied to the part
of the tables they work on (`Site.core`); the cascades of a deletion reach the rows they do
not know.

Rows that tie in the `ORDER BY` of a query are ranked by the server.
-/

set_option autoImplicit false

namespace JobScheduler

open Relational

/-! ## Rows -/

/-- A row of `users`. -/
structure User where
  id : UUID
  orgId : UUID
  email : String
  name : String
  role : String
  passwordHash : String
  createdAt : Timestamptz
  updatedAt : Timestamptz

/-- A row of `job_executions`. -/
structure ExecutionRow where
  id : UUID
  jobId : UUID
  workerId : Option UUID
  attempt : Int
  status : String
  startedAt : Timestamptz
  finishedAt : Option Timestamptz
  error : Option String
  durationMs : Option Int
  createdAt : Timestamptz
  updatedAt : Timestamptz

/-- A row of `job_logs`. -/
structure LogRow where
  id : UUID
  jobId : UUID
  level : String
  message : String
  metadata : Option Json
  createdAt : Timestamptz

/-- The tables. -/
structure Site where
  organizations : List Organization
  users : List User
  projects : List Project
  retryPolicies : List RetryPolicy
  queues : List Queue
  workers : List Worker
  workerHeartbeats : List WorkerHeartbeat
  jobs : List Job
  executions : List ExecutionRow
  logs : List LogRow
  letters : List Letter

/-- `j.status::text`. -/
def JobStatus.text : JobStatus → String
  | .queued => "queued"
  | .scheduled => "scheduled"
  | .claimed => "claimed"
  | .running => "running"
  | .completed => "completed"
  | .failed => "failed"
  | .deadLetter => "dead_letter"

/-! ## Pages -/

/-- `domain.Page`. The cursor of the next page is the pair it encodes. -/
structure Page (α : Type) where
  items : List α
  nextCursor : Option (Timestamptz × UUID)
  hasMore : Bool

/-- `pagination.ClampLimit`. -/
def clampLimit (limit : Int) : Nat :=
  if limit ≤ 0 then 20 else if 100 < limit then 100 else limit.toNat

/-- A page of a query that fetches one row more than the limit. -/
def keysetPage {α : Type} (limit : Nat) (cursorOf : α → Timestamptz × UUID) (rows : List α) :
    Page α :=
  let fetched := rows.take (limit + 1)
  if limit < fetched.length then
    let items := fetched.take limit
    ⟨items, items.getLast?.map cursorOf, true⟩
  else ⟨fetched, none, false⟩

/-- A page of a query that fetches the limit and takes a full page for a sign of more. -/
def limitPage {α : Type} (limit : Nat) (rows : List α) : Page α :=
  let items := rows.take limit
  ⟨items, none, items.length = limit⟩

/-- `(created_at, id) > ($1, $2)`, when there is a cursor. -/
def PastCursor (cursor : Option (Timestamptz × UUID)) (createdAt : Timestamptz) (id : UUID) :
    Prop :=
  ∀ last ∈ cursor, last.1 < createdAt ∨ last.1 = createdAt ∧ last.2 < id

instance (cursor : Option (Timestamptz × UUID)) (createdAt : Timestamptz) (id : UUID) :
    Decidable (PastCursor cursor createdAt id) :=
  match cursor with
  | none => isTrue fun _ member => by cases member
  | some last => decidable_of_iff (last.1 < createdAt ∨ last.1 = createdAt ∧ last.2 < id)
      (by simp [PastCursor])

/-- A dead letter with the name of its queue, `domain.DLQListItem`. -/
structure DLQListItem where
  letter : Letter
  queueName : String

/-- `domain.QueueStats`. The rate and the latencies are the exact values; the program holds
them in `float64`. -/
structure QueueStats where
  queueId : UUID
  queueName : String
  depth : Nat
  throughput1h : Nat
  throughput24h : Nat
  successRate : Rat
  avgLatencyMs : Rat
  p95LatencyMs : Rat

/-- `domain.WorkerInfo`. -/
structure WorkerInfo where
  worker : Worker
  lastSeenAt : Option Timestamptz
  jobsInFlight : Nat

/-- `COALESCE(AVG(…), 0)`. -/
def average (values : List Int) : Rat :=
  if values = [] then 0 else (values.sum : Rat) / values.length

/-- `COALESCE(PERCENTILE_CONT(0.95) WITHIN GROUP (ORDER BY …), 0)`: linear interpolation at
`0.95 * (n - 1)`. -/
def percentile95 (values : List Int) : Rat :=
  let sorted := values.insertionSort (· ≤ ·)
  let position := 19 * (values.length - 1)
  let below := sorted.getD (position / 20) 0
  let above := sorted.getD (position / 20 + 1) below
  below + (position % 20 : Nat) / 20 * (above - below)

namespace Site

variable (site : Site)

/-- The tables the methods on organizations, projects, queues and jobs work on. -/
def core : Database where
  organizations := site.organizations
  projects := site.projects
  retryPolicies := site.retryPolicies
  queues := site.queues
  workers := site.workers
  workerHeartbeats := site.workerHeartbeats
  jobs := site.jobs
  jobExecutions := []
  jobLogs := []
  deadLetterQueue := []

/-! ## Ownership -/

/-- The queue belongs to the organization, through its project. -/
def QueueOf (orgId : UUID) (queue : Queue) : Prop := site.core.QueueInOrg orgId queue

instance (orgId : UUID) : DecidablePred (site.QueueOf orgId) :=
  fun queue => inferInstanceAs (Decidable (site.core.QueueInOrg orgId queue))

/-- The queue with this identifier belongs to the organization. -/
def QueueIdOf (orgId queueId : UUID) : Prop :=
  ∃ q ∈ site.queues, q.id = queueId ∧ site.QueueOf orgId q

instance (orgId queueId : UUID) : Decidable (site.QueueIdOf orgId queueId) :=
  inferInstanceAs (Decidable (∃ q ∈ site.queues, _ ∧ _))

/-- The job with this identifier belongs to the organization, through its queue. -/
def JobIdOf (orgId jobId : UUID) : Prop :=
  ∃ j ∈ site.jobs, j.id = jobId ∧ site.QueueIdOf orgId j.queueId

instance (orgId jobId : UUID) : Decidable (site.JobIdOf orgId jobId) :=
  inferInstanceAs (Decidable (∃ j ∈ site.jobs, _ ∧ _))

/-! ## Cascades -/

/-- Delete queues, with the jobs, executions, logs and dead letters that go with them. -/
def deleteQueues (gone : List UUID) : Site :=
  let goneJobs := (site.jobs.filter (·.queueId ∈ gone)).map (·.id)
  { site with
    queues := site.queues.filter (·.id ∉ gone)
    jobs := site.jobs.filter (·.queueId ∉ gone)
    executions := site.executions.filter (·.jobId ∉ goneJobs)
    logs := site.logs.filter (·.jobId ∉ goneJobs)
    letters := site.letters.filter fun letter =>
      letter.entry.jobId ∉ goneJobs ∧ letter.entry.originalQueueId ∉ gone }

/-- Delete projects, with their queues. -/
def deleteProjects (gone : List UUID) : Site :=
  { site.deleteQueues ((site.queues.filter (·.projectId ∈ gone)).map (·.id)) with
    projects := site.projects.filter (·.id ∉ gone) }

/-! ## Organizations -/

/-- `OrgRepository.GetByID`. -/
def getOrg (id : UUID) : Except StoreError Organization :=
  match site.organizations.find? (·.id = id) with
  | some org => .ok org
  | none => .error .notFound

/-- `OrgRepository.Update`. -/
def updateOrg (now : Timestamptz) (id : UUID) (name slug : String) : Except StoreError Site :=
  (site.core.updateOrg now id name slug).map fun db =>
    { site with organizations := db.organizations }

/-- `OrgRepository.Delete`: the users and projects of the organization go with it. -/
def deleteOrg (id : UUID) : Except StoreError Site :=
  (site.core.deleteOrg id).map fun db =>
    { site.deleteProjects ((site.projects.filter (·.orgId = id)).map (·.id)) with
      organizations := db.organizations
      users := site.users.filter (·.orgId ≠ id) }

/-! ## Projects -/

/-- `ProjectRepository.Create`. -/
def createProject (now : Timestamptz) (id orgId : UUID) (name slug : String)
    (description : Option String) : Except StoreError Site :=
  (site.core.createProject now id orgId name slug description).map fun db =>
    { site with projects := db.projects }

/-- `ProjectRepository.GetByID`. -/
def getProject (id orgId : UUID) : Except StoreError Project :=
  match site.projects.find? fun p => p.id = id ∧ p.orgId = orgId with
  | some project => .ok project
  | none => .error .notFound

/-- `ProjectRepository.List`. -/
def listProjects (ilike : String → String → Bool) (orgId : UUID) (limit : Nat)
    (cursor : Option (Timestamptz × UUID)) (name : String) : Page Project :=
  keysetPage limit (fun p => (p.createdAt, p.id))
    (orderBy (·.createdAt) (fun _ => 0) (·.id) (site.projects.filter fun p =>
      p.orgId = orgId ∧ (name = "" ∨ ilike p.name ("%" ++ name ++ "%")) ∧
        PastCursor cursor p.createdAt p.id))

/-- `ProjectRepository.Update`. -/
def updateProject (now : Timestamptz) (id orgId : UUID) (name slug : String)
    (description : Option String) : Except StoreError Site :=
  (site.core.updateProject now id orgId name slug description).map fun db =>
    { site with projects := db.projects }

/-- `ProjectRepository.Delete`. -/
def deleteProject (id orgId : UUID) : Except StoreError Site :=
  (site.core.deleteProject id orgId).map fun _ => site.deleteProjects [id]

/-! ## Queues -/

/-- `QueueRepository.Create`. -/
def createQueue (now : Timestamptz) (queue : Queue) : Except StoreError Site :=
  (site.core.createQueue now queue).map fun db => { site with queues := db.queues }

/-- `QueueRepository.GetByID`. -/
def getQueue (id orgId : UUID) : Except StoreError Queue := site.core.getQueue id orgId

/-- `QueueRepository.List`. -/
def listQueues (ilike : String → String → Bool) (orgId : UUID) (limit : Nat)
    (cursor : Option (Timestamptz × UUID)) (name : String) (isPaused : Option Bool)
    (projectId : Option UUID) : Page Queue :=
  keysetPage limit (fun q => (q.createdAt, q.id))
    (orderBy (·.createdAt) (fun _ => 0) (·.id) (site.queues.filter fun q =>
      site.QueueOf orgId q ∧ (name = "" ∨ ilike q.name ("%" ++ name ++ "%")) ∧
        (∀ paused ∈ isPaused, q.paused = paused) ∧ (∀ id ∈ projectId, q.projectId = id) ∧
        PastCursor cursor q.createdAt q.id))

/-- `QueueRepository.Update`. -/
def updateQueue (now : Timestamptz) (queue : Queue) (orgId : UUID) : Except StoreError Site :=
  (site.core.updateQueue now queue orgId).map fun db => { site with queues := db.queues }

/-- `QueueRepository.Delete`. -/
def deleteQueue (id orgId : UUID) : Except StoreError Site :=
  (site.core.deleteQueue id orgId).map fun _ => site.deleteQueues [id]

/-- `QueueRepository.SetPaused`. -/
def setPaused (now : Timestamptz) (id orgId : UUID) (paused : Bool) : Except StoreError Site :=
  (site.core.setPaused now id orgId paused).map fun db => { site with queues := db.queues }

/-! ## Jobs -/

/-- `JobRepository.Create`. -/
def createJob (now : Timestamptz) (id : UUID) (input : CreateJobInput) :
    Except StoreError (Site × CreateJobResult) :=
  (site.core.createJob now id input).map fun done => ({ site with jobs := done.1.jobs }, done.2)

/-- `WithTx` around one `Create` for each input. -/
def createJobBatch (now : Timestamptz) (inputs : List (UUID × CreateJobInput)) :
    Except StoreError (Site × List Job) :=
  (Database.createJobBatch now inputs site.core).map fun done =>
    ({ site with jobs := done.1.jobs }, done.2)

/-- `JobRepository.RetryDLQJob`. -/
def retryDLQJob (now : Timestamptz) (id orgId : UUID) : Except StoreError (Site × Job) :=
  (site.core.retryDLQJob now id orgId).map fun done =>
    ({ site with
        jobs := done.1.jobs
        letters := site.letters.filter (·.entry.jobId ≠ id) }, done.2)

/-- `JobRepository.GetByID`. -/
def getJob (id orgId : UUID) : Except StoreError Job :=
  match site.jobs.find? fun j => j.id = id ∧ site.QueueIdOf orgId j.queueId with
  | some job => .ok job
  | none => .error .notFound

/-- `JobRepository.ListByQueue`. -/
def listByQueue (rank : UUID → Nat) (queueId orgId : UUID) (status : String) (limit : Nat) :
    Page Job :=
  limitPage limit
    (orderBy (- ·.createdAt) (rank ·.id) (·.id) (site.jobs.filter fun j =>
      j.queueId = queueId ∧ site.QueueIdOf orgId j.queueId ∧
        (status = "" ∨ j.status.text = status)))

/-- `JobRepository.ListAll`. -/
def listAll (rank : UUID → Nat) (orgId : UUID) (status : String) (queueId : Option UUID)
    (limit : Nat) : Page Job :=
  limitPage limit
    (orderBy (- ·.createdAt) (rank ·.id) (·.id) (site.jobs.filter fun j =>
      site.QueueIdOf orgId j.queueId ∧ (status = "" ∨ j.status.text = status) ∧
        ∀ id ∈ queueId, j.queueId = id))

/-- `JobRepository.GetExecutions`. -/
def getExecutions (rank : UUID → Nat) (jobId orgId : UUID) : List ExecutionRow :=
  orderBy (·.attempt) (rank ·.id) (·.id) (site.executions.filter fun e =>
    e.jobId = jobId ∧ site.JobIdOf orgId e.jobId)

/-- `JobRepository.GetLogs`. -/
def getLogs (rank : UUID → Nat) (jobId orgId : UUID) : List LogRow :=
  orderBy (·.createdAt) (rank ·.id) (·.id) (site.logs.filter fun l =>
    l.jobId = jobId ∧ site.JobIdOf orgId l.jobId)

/-- `JobRepository.ListDLQ`. -/
def listDLQ (rank : UUID → Nat) (orgId : UUID) (limit : Nat) : Page DLQListItem :=
  limitPage limit
    ((orderBy (- ·.entry.failedAt) (rank ·.id) (·.id) (site.letters.filter fun d =>
      site.QueueIdOf orgId d.entry.originalQueueId)).filterMap fun d =>
        (site.queues.find? (·.id = d.entry.originalQueueId)).map fun q => ⟨d, q.name⟩)

/-! ## Statistics -/

/-- The executions of the queue's jobs that finished within the last 24 hours. -/
def recentExecutions (now : Timestamptz) (queueId : UUID) : List ExecutionRow :=
  site.executions.filter fun e =>
    (∃ j ∈ site.jobs, j.id = e.jobId ∧ j.queueId = queueId) ∧
      ∃ finished ∈ e.finishedAt, now - intervalSeconds 86400 ≤ finished

/-- `MetricsStore.GetQueueStats`, or `none` when the queue's name is not found. -/
def getQueueStats (now : Timestamptz) (queueId : UUID) : Option QueueStats :=
  let recent := site.recentExecutions now queueId
  let completed := recent.filter (·.status = "completed")
  let failed := recent.countP (·.status = "failed")
  let durations := completed.filterMap (·.durationMs)
  (site.queues.find? (·.id = queueId)).map fun queue => {
    queueId := queueId
    queueName := queue.name
    depth := site.jobs.countP fun j => j.queueId = queueId ∧ j.status = .queued
    throughput1h := completed.countP fun e =>
      ∃ finished ∈ e.finishedAt, now - intervalSeconds 3600 ≤ finished
    throughput24h := completed.length
    successRate :=
      if completed.length + failed = 0 then 0
      else (completed.length : Rat) / ((completed.length + failed : Nat) : Rat)
    avgLatencyMs := average durations
    p95LatencyMs := percentile95 durations }

/-- `MetricsStore.ListWorkers`. -/
def listWorkers (rank : UUID → Nat) : List WorkerInfo :=
  (orderBy (- ·.createdAt) (rank ·.id) (·.id) site.workers).map fun w =>
    { worker := w
      lastSeenAt := (site.workerHeartbeats.find? (·.workerId = w.id)).map (·.lastSeenAt)
      jobsInFlight := site.jobs.countP fun j => j.workerId = some w.id ∧ j.status.Active }

end Site

end JobScheduler
