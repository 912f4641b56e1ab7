import JobScheduler.Api.Site
import JobScheduler.Dashboard.Json

/-!
# The router of the dashboard

`handleApi` of `dashboard/src/server/router.ts`: the routes of the dashboard, which has its own
statements on the tables of the API. Every statement is a transaction of its own, so a handler
that throws after a statement leaves what the statement did.

Paths, query parameters and members of the body reach the server as parameters of statements.
Such a value is `NULL`, a value of the type of the column, or something the server rejects with
a message. The messages of the server, the reading of identifiers, `JSON.parse`, the clock, the
identifiers drawn by `gen_random_uuid()` and the signing of tokens are parameters, and so is
the tick of the worker behind `worker/pulse`. The caller is authenticated and the database is
configured.
-/

set_option autoImplicit false

namespace JobScheduler

open Relational

namespace Dashboard

/-! ## Requests and responses -/

/-- The methods that `route.ts` exports. -/
inductive Method where
  | get
  | post
  | put
  | delete
deriving DecidableEq

/-- A parameter of a statement, as the server reads it. -/
abbrev Value (α : Type) := Except String (Option α)

/-- The members of a body that the router reads, `email` trimmed. For `idempotency_key` it also
matters whether the value is truthy, and `delay_seconds` counts when it is a positive number.
`payload` is given as the text of the body has it, if it is there. -/
structure Fields where
  email : String
  password : String
  projectId : Value UUID
  name : Value String
  slug : Value String
  description : Value String
  priorityDefault : Value Int
  concurrencyLimit : Value Int
  idempotencyKey : Value String
  keyed : Bool
  delay : Value Timestamptz
  priority : Value Int
  payloadText : Option JsonText
  maxAttempts : Value Int
  cronExpr : Value String

/-- `JSON.stringify(body.payload)::jsonb`, where `JSON.stringify` of a member that is not there is
`undefined`, a parameter that is `NULL`. -/
def Fields.payload (fields : Fields) : Value Json :=
  match fields.payloadText with
  | none => .ok none
  | some text => text.resolved.stored.map some

/-- A request. The path is split at the slashes; the body is the outcome of `req.json()`, with
`none` for the literal `null`. -/
structure Request where
  method : Method
  path : List String
  body : Except String (Option Fields)
  status : String
  queueId : Value UUID

/-- The routes, with the identifier in the path. -/
inductive Route where
  | login
  | listProjects
  | createProject
  | listQueues
  | createQueue
  | queueStats (id : String)
  | pauseQueue (id : String)
  | resumeQueue (id : String)
  | updateQueue (id : String)
  | createJob (id : String)
  | pulse
  | listJobs
  | getExecutions (id : String)
  | getLogs (id : String)
  | retryJob (id : String)
  | getJob (id : String)
  | listWorkers
  | listDLQ

/-- The comparisons of `handleApi` with the method and the path. The identifier is not empty:
`[^/]+`. -/
def route (method : Method) (path : List String) : Option Route :=
  match method, path with
  | .post, ["auth", "login"] => some .login
  | .get, ["projects"] => some .listProjects
  | .post, ["projects"] => some .createProject
  | .get, ["queues"] => some .listQueues
  | .post, ["queues"] => some .createQueue
  | .get, ["worker", "pulse"] => some .pulse
  | .get, ["jobs"] => some .listJobs
  | .get, ["workers"] => some .listWorkers
  | .get, ["dlq"] => some .listDLQ
  | .put, ["queues", id] => if id = "" then none else some (.updateQueue id)
  | .get, ["jobs", id] => if id = "" then none else some (.getJob id)
  | .get, ["queues", id, "stats"] => if id = "" then none else some (.queueStats id)
  | .post, ["queues", id, "pause"] => if id = "" then none else some (.pauseQueue id)
  | .post, ["queues", id, "resume"] => if id = "" then none else some (.resumeQueue id)
  | .post, ["queues", id, "jobs"] => if id = "" then none else some (.createJob id)
  | .get, ["jobs", id, "executions"] => if id = "" then none else some (.getExecutions id)
  | .get, ["jobs", id, "logs"] => if id = "" then none else some (.getLogs id)
  | .post, ["jobs", id, "retry"] => if id = "" then none else some (.retryJob id)
  | _, _ => none

/-- The statistics of a queue. -/
structure Stats where
  queueId : String
  queueName : String
  depth : Nat
  throughput1h : Nat
  throughput24h : Nat
  successRate : Rat
  avgLatencyMs : Rat
  p95LatencyMs : Rat

/-- The bodies of responses. -/
inductive Content where
  | empty
  | error (message code : String)
  | session (token : String) (user : User)
  | projects (items : List Project)
  | project (project : Project)
  | queues (items : List Queue)
  | queue (queue : Queue)
  | stats (stats : Stats)
  | jobs (items : List Job)
  | job (job : Job)
  | executions (rows : List ExecutionRow)
  | logs (rows : List LogRow)
  | workers (rows : List WorkerInfo)
  | letters (items : List DLQListItem)
  | pulse (processed : Nat) (worker : String)

structure Response where
  status : Nat
  content : Content

namespace Response

/-- `error`, with its default code. -/
def failed (message : String) (status : Nat) : Response := ⟨status, .error message "ERROR"⟩

/-- The `catch` of `handleApi`. -/
def caught (message : String) : Response :=
  if 1 < (message.splitOn "DATABASE_URL").length then ⟨503, .error message "UNAVAILABLE"⟩
  else ⟨500, .error message "INTERNAL"⟩

end Response

/-- What a request meets beside the tables. -/
structure Env where
  /-- The reading of a `uuid`. -/
  parseUuid : String → Except String UUID
  /-- `JSON.parse`, with the value as `JSON.stringify` writes it. -/
  parseJson : String → Except String Json
  /-- The text of a violated constraint. -/
  describe : StoreError → String
  /-- `gen_random_uuid()`. -/
  fresh : UUID
  /-- `NOW()`. -/
  now : Timestamptz
  /-- How the server ranks tied rows. -/
  rank : UUID → Nat
  /-- `demoAuthEnabled`. -/
  demoAuth : Bool
  /-- `signToken`. -/
  signToken : User → String
  /-- `runWorkerTickNow`. -/
  tick : Site → Response × Site

/-! ## Statements -/

section Statements

variable {α : Type} (site : Site)

/-- Go on with the value of an expression that may throw. -/
def attempt (result : Except String α) (next : α → Response × Site) : Response × Site :=
  match result with
  | .error message => (.caught message, site)
  | .ok value => next value

/-- A column that is `NOT NULL`. -/
def required (relation column : String) (value : Value α) : Except String α :=
  match value with
  | .error message => .error message
  | .ok none => .error ("null value in column \"" ++ column ++ "\" of relation \"" ++ relation ++
      "\" violates not-null constraint")
  | .ok (some v) => .ok v

/-- The members of the body, of which this one is read first. -/
def members (property : String) (body : Option Fields) : Except String Fields :=
  match body with
  | none => .error ("Cannot read properties of null (reading '" ++ property ++ "')")
  | some fields => .ok fields

/-- `mapJob`: a payload that the driver returns as a string is parsed once more. The job stands for
the response, with its payload as it is written there. -/
def mapJob (parseJson : String → Except String Json) (job : Job) : Except String Job :=
  match driverValue job.payload with
  | .string text => (parseJson text).map fun payload => { job with payload := payload }
  | payload => .ok { job with payload := payload }

/-- `rows.map(mapJob)`. -/
def mapJobs (parseJson : String → Except String Json) : List Job → Except String (List Job)
  | [] => .ok []
  | job :: rest =>
      match mapJob parseJson job with
      | .error message => .error message
      | .ok mapped => (mapJobs parseJson rest).map (mapped :: ·)

end Statements

variable (env : Env) (orgId : UUID) (site : Site)

/-! ## Projects and queues -/

/-- `auth/login`. -/
def login (body : Except String (Option Fields)) : Response × Site :=
  attempt site body fun body =>
  attempt site (members "email" body) fun fields =>
    if fields.email = "" ∨ fields.password = "" then
      (.failed "email and password required" 422, site)
    else
      let found := site.users.find? (·.email = fields.email)
      let user := if env.demoAuth then
          found.orElse fun _ => site.users.find? (·.email = "admin@demo.com")
        else found
      match user with
      | none => (⟨401, .error "invalid credentials" "UNAUTHORIZED"⟩, site)
      | some user => (⟨200, .session (env.signToken user) user⟩, site)

def listProjects : Response × Site :=
  (⟨200, .projects (orderBy (·.createdAt) (env.rank ·.id) (·.id)
    (site.projects.filter (·.orgId = orgId)))⟩, site)

def createProject (body : Except String (Option Fields)) : Response × Site :=
  attempt site body fun body =>
  attempt site (members "name" body) fun fields =>
  attempt site (required "projects" "name" fields.name) fun name =>
  attempt site (required "projects" "slug" fields.slug) fun slug =>
  attempt site fields.description fun description =>
    match site.createProject env.now env.fresh orgId name slug description with
    | .error e => (.caught (env.describe e), site)
    | .ok site' => (⟨201, .project
        ⟨env.fresh, orgId, name, slug, description, env.now, env.now⟩⟩, site')

def listQueues : Response × Site :=
  (⟨200, .queues (orderBy (·.createdAt) (env.rank ·.id) (·.id)
    (site.queues.filter (site.QueueOf orgId)))⟩, site)

/-- The project of the body, if it is one of the organization. -/
def ownProject (projectId : Option UUID) : Option UUID :=
  projectId.filter fun id => ∃ p ∈ site.projects, p.id = id ∧ p.orgId = orgId

def createQueue (body : Except String (Option Fields)) : Response × Site :=
  attempt site body fun body =>
  attempt site (members "project_id" body) fun fields =>
  attempt site fields.projectId fun projectId =>
    match ownProject orgId site projectId with
    | none => (.failed "project not found" 404, site)
    | some projectId =>
        attempt site (required "queues" "name" fields.name) fun name =>
        attempt site (required "queues" "slug" fields.slug) fun slug =>
        attempt site fields.priorityDefault fun priorityDefault =>
        attempt site fields.concurrencyLimit fun concurrencyLimit =>
          let queue : Queue := ⟨env.fresh, projectId, name, slug, none, priorityDefault.getD 5,
            concurrencyLimit, false, env.now, env.now⟩
          match site.createQueue env.now queue with
          | .error e => (.caught (env.describe e), site)
          | .ok site' => (⟨201, .queue queue⟩, site')

/-- The statistics count the jobs and executions of the queue before its owner is looked up. -/
def queueStats (id : String) : Response × Site :=
  attempt site (env.parseUuid id) fun queueId =>
    let recent := site.recentExecutions env.now queueId
    let completed := recent.filter (·.status = "completed")
    let failed := recent.countP (·.status = "failed")
    let mean := average (completed.filterMap (·.durationMs))
    match site.queues.find? fun q => q.id = queueId ∧ site.QueueOf orgId q with
    | none => (.failed "not found" 404, site)
    | some queue => (⟨200, .stats {
        queueId := id
        queueName := queue.name
        depth := site.jobs.countP fun j => j.queueId = queueId ∧ j.status = .queued
        throughput1h := completed.countP fun e =>
          ∃ finished ∈ e.finishedAt, env.now - intervalSeconds 3600 ≤ finished
        throughput24h := completed.length
        successRate :=
          if completed.length + failed = 0 then 1
          else (completed.length : Rat) / ((completed.length + failed : Nat) : Rat)
        avgLatencyMs := mean
        p95LatencyMs := mean }⟩, site)

/-- `UPDATE queues … WHERE q.id = … AND p.org_id = …`. -/
def rewriteQueue (queueId : UUID) (rewrite : Queue → Queue) : Site :=
  { site with
    queues := update (fun q => q.id = queueId ∧ site.QueueOf orgId q) rewrite site.queues }

/-- `pause` and `resume`, which do not look at the number of rows. -/
def setPaused (id : String) (paused : Bool) : Response × Site :=
  attempt site (env.parseUuid id) fun queueId =>
    (⟨204, .empty⟩, rewriteQueue orgId site queueId fun q =>
      { q with paused := paused, updatedAt := env.now })

def updateQueue (id : String) (body : Except String (Option Fields)) : Response × Site :=
  attempt site body fun body =>
  attempt site (members "name" body) fun fields =>
  attempt site fields.name fun name =>
  attempt site fields.priorityDefault fun priorityDefault =>
  attempt site fields.concurrencyLimit fun concurrencyLimit =>
  attempt site (env.parseUuid id) fun queueId =>
    if ¬ ((∀ n ∈ priorityDefault, InInt4 n) ∧ ∀ n ∈ concurrencyLimit, InInt4 n) then
      (.caught (env.describe .numericOutOfRange), site)
    else
      let rewrite : Queue → Queue := fun q => { q with
        name := name.getD q.name
        priorityDefault := priorityDefault.getD q.priorityDefault
        concurrencyLimit := concurrencyLimit.orElse fun _ => q.concurrencyLimit
        updatedAt := env.now }
      let site' := rewriteQueue orgId site queueId rewrite
      match site.queues.find? fun q => q.id = queueId ∧ site.QueueOf orgId q with
      | none => (.failed "not found" 404, site')
      | some queue => (⟨200, .queue (rewrite queue)⟩, site')

/-! ## Jobs -/

/-- The inserted row: the columns the statement does not name take their defaults. -/
def insertedJob (queueId : UUID) (priority : Int) (payload : Json) (key : Option String)
    (maxAttempts : Int) (nextRunAt : Timestamptz) (cronExpr : Option String) : Job where
  id := env.fresh
  queueId := queueId
  status := .queued
  priority := priority
  payload := payload
  idempotencyKey := key
  nextRunAt := some nextRunAt
  attempts := 0
  maxAttempts := maxAttempts
  retryPolicyId := none
  workerId := none
  claimedAt := none
  leaseExpiresAt := none
  completedAt := none
  failedAt := none
  errorMessage := none
  cronExpr := cronExpr
  batchId := none
  createdAt := env.now
  updatedAt := env.now

/-- `INSERT INTO jobs`: out of range, a used idempotency key, or the row. -/
def insertJob (job : Job) : Except StoreError Site :=
  if ¬ (InInt4 job.priority ∧ InInt4 job.maxAttempts) then .error .numericOutOfRange
  else if ∃ j ∈ site.jobs, j.queueId = job.queueId ∧ j.idempotencyKey.isSome ∧
      j.idempotencyKey = job.idempotencyKey then .error .uniqueViolation
  else .ok { site with jobs := site.jobs ++ [job] }

/-- The job that has the key, when the key is truthy. -/
def existingJob (queueId : UUID) (keyed : Bool) (key : Option String) : Option Job :=
  if keyed then
    key.bind fun key =>
      site.jobs.find? fun j => j.queueId = queueId ∧ j.idempotencyKey = some key
  else none

def createJob (id : String) (body : Except String (Option Fields)) : Response × Site :=
  attempt site body fun body =>
  attempt site (env.parseUuid id) fun queueId =>
    match site.queues.find? fun q => q.id = queueId ∧ site.QueueOf orgId q with
    | none => (.failed "not found" 404, site)
    | some queue =>
        attempt site (members "idempotency_key" body) fun fields =>
        attempt site fields.idempotencyKey fun key =>
          match existingJob site queueId fields.keyed key with
          | some existing =>
              attempt site (mapJob env.parseJson existing) fun job => (⟨200, .job job⟩, site)
          | none =>
              attempt site fields.priority fun priority =>
              attempt site (required "jobs" "payload" fields.payload) fun payload =>
              attempt site fields.maxAttempts fun maxAttempts =>
              attempt site fields.delay fun delay =>
              attempt site fields.cronExpr fun cronExpr =>
                let job := insertedJob env queueId (priority.getD queue.priorityDefault) payload
                  key (maxAttempts.getD 3) (env.now + delay.getD 0) cronExpr
                match insertJob site job with
                | .error e => (.caught (env.describe e), site)
                | .ok site' =>
                    attempt site' (mapJob env.parseJson job) fun job => (⟨201, .job job⟩, site')

def listJobs (status : String) (queueId : Value UUID) : Response × Site :=
  attempt site queueId fun queueId =>
  attempt site (mapJobs env.parseJson
    ((orderBy (- ·.createdAt) (env.rank ·.id) (·.id) (site.jobs.filter fun j =>
      site.QueueIdOf orgId j.queueId ∧ (status = "" ∨ j.status.text = status) ∧
        ∀ id ∈ queueId, j.queueId = id)).take 100)) fun jobs => (⟨200, .jobs jobs⟩, site)

def getExecutions (id : String) : Response × Site :=
  attempt site (env.parseUuid id) fun jobId =>
    (⟨200, .executions (site.getExecutions env.rank jobId orgId)⟩, site)

def getLogs (id : String) : Response × Site :=
  attempt site (env.parseUuid id) fun jobId =>
    (⟨200, .logs (site.getLogs env.rank jobId orgId)⟩, site)

/-- `DELETE FROM dead_letter_queue WHERE job_id = …`, of whatever organization. -/
def deleteLetters (jobId : UUID) : Site :=
  { site with letters := site.letters.filter (·.entry.jobId ≠ jobId) }

/-- `UPDATE jobs … WHERE j.id = … AND p.org_id = …`, with the `SET` list of `RetryDLQJob`. -/
def requeueJob (jobId : UUID) : Site :=
  { site with
    jobs := update (fun j => j.id = jobId ∧ site.QueueIdOf orgId j.queueId)
      (Job.retryDLQ env.now) site.jobs }

/-- `retry`: the dead letters go first, then the job is updated, and the response depends on
whether there was a row to update. -/
def retryJob (id : String) : Response × Site :=
  attempt site (env.parseUuid id) fun jobId =>
    let site' := requeueJob env orgId (deleteLetters site jobId) jobId
    match site.jobs.find? fun j => j.id = jobId ∧ site.QueueIdOf orgId j.queueId with
    | none => (.failed "not found" 404, site')
    | some job =>
        attempt site' (mapJob env.parseJson (job.retryDLQ env.now)) fun job =>
          (⟨200, .job job⟩, site')

def getJob (id : String) : Response × Site :=
  attempt site (env.parseUuid id) fun jobId =>
    match site.jobs.find? fun j => j.id = jobId ∧ site.QueueIdOf orgId j.queueId with
    | none => (.failed "not found" 404, site)
    | some job => attempt site (mapJob env.parseJson job) fun job => (⟨200, .job job⟩, site)

/-! ## Routing -/

def Route.handle (request : Request) : Route → Response × Site
  | .login => Dashboard.login env site request.body
  | .listProjects => Dashboard.listProjects env orgId site
  | .createProject => Dashboard.createProject env orgId site request.body
  | .listQueues => Dashboard.listQueues env orgId site
  | .createQueue => Dashboard.createQueue env orgId site request.body
  | .queueStats id => Dashboard.queueStats env orgId site id
  | .pauseQueue id => setPaused env orgId site id true
  | .resumeQueue id => setPaused env orgId site id false
  | .updateQueue id => Dashboard.updateQueue env orgId site id request.body
  | .createJob id => Dashboard.createJob env orgId site id request.body
  | .pulse => env.tick site
  | .listJobs => Dashboard.listJobs env orgId site request.status request.queueId
  | .getExecutions id => Dashboard.getExecutions env orgId site id
  | .getLogs id => Dashboard.getLogs env orgId site id
  | .retryJob id => Dashboard.retryJob env orgId site id
  | .getJob id => Dashboard.getJob env orgId site id
  | .listWorkers => (⟨200, .workers (site.listWorkers env.rank)⟩, site)
  | .listDLQ => (⟨200, .letters (site.listDLQ env.rank orgId 100).items⟩, site)

/-- `handleApi`, for an authenticated caller of this organization. -/
def handleApi (request : Request) : Response × Site :=
  match route request.method request.path with
  | none => (⟨404, .error "not found" "NOT_FOUND"⟩, site)
  | some r => r.handle env orgId site request

end Dashboard

end JobScheduler
