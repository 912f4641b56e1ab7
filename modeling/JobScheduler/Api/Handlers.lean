import JobScheduler.Api.Site
import JobScheduler.Text.Words

/-!
# The authenticated routes

The handlers of `internal/api` behind the `Auth` middleware, each as a function from the
tables to the response and the tables afterwards. A handler knows of its caller only the
organization in the claims.

What comes from outside is given as the handlers see it: a path or query parameter that
failed to parse, a body that failed to decode with the text of the error. The cron library,
`ILIKE`, the text of a `uuid.UUID`, the clock, the server's ranking of tied rows and the
identifiers drawn with `uuid.New` are parameters.
-/

set_option autoImplicit false

namespace JobScheduler

/-! ## Requests -/

/-- An optional query or body field that is parsed by the handler. -/
inductive Param (α : Type) where
  | absent
  | malformed
  | given (value : α)

/-- The value, if there is one. -/
def Param.value? {α : Type} : Param α → Option α
  | .given value => some value
  | _ => none

/-- `pageParams`: the limit as `strconv.Atoi` reads it and the decoded cursor. -/
structure PageQuery where
  limit : Int
  cursor : Param (Time × UUID)

/-- The cursor as the query sends it. -/
def PageQuery.after (page : PageQuery) : Option (Timestamptz × UUID) :=
  page.cursor.value?.map fun cursor => (cursor.1.toTimestamptz, cursor.2)

/-- `updateOrgRequest`. -/
structure UpdateOrgRequest where
  name : Option String
  slug : Option String

/-- `createProjectRequest`. -/
structure CreateProjectRequest where
  name : String
  slug : String
  description : Option String

/-- `updateProjectRequest`. -/
structure UpdateProjectRequest where
  name : Option String
  slug : Option String
  description : Option String

/-- `createQueueRequest`. -/
structure CreateQueueRequest where
  projectId : Option UUID
  name : String
  slug : String
  retryPolicyId : Param UUID
  priorityDefault : Option Int
  concurrencyLimit : Option Int
  isPaused : Option Bool

/-- `updateQueueRequest`. -/
structure UpdateQueueRequest where
  name : Option String
  slug : Option String
  retryPolicyId : Param UUID
  priorityDefault : Option Int
  concurrencyLimit : Option Int
  isPaused : Option Bool

/-- A decoded body, or the text of the error of `readJSON`. -/
abbrev Body (α : Type) := Except String α

/-- The authenticated routes. Where a handler draws identifiers they come with the request,
in a batch one for each job. -/
inductive ApiRequest where
  | getOrg (id : Option UUID)
  | updateOrg (id : Option UUID) (body : Body UpdateOrgRequest)
  | deleteOrg (id : Option UUID)
  | listProjects (name : String) (page : PageQuery)
  | createProject (body : Body CreateProjectRequest) (fresh : UUID)
  | getProject (id : Option UUID)
  | updateProject (id : Option UUID) (body : Body UpdateProjectRequest)
  | deleteProject (id : Option UUID)
  | listQueues (name : String) (isPaused : Param Bool) (projectId : Param UUID)
      (page : PageQuery)
  | createQueue (body : Body CreateQueueRequest) (fresh : UUID)
  | getQueue (id : Option UUID)
  | updateQueue (id : Option UUID) (body : Body UpdateQueueRequest)
  | deleteQueue (id : Option UUID)
  | pauseQueue (id : Option UUID)
  | resumeQueue (id : Option UUID)
  | createJob (queueId : Option UUID) (body : Body CreateJobRequest) (fresh : UUID)
  | createBatch (queueId : Option UUID) (body : Body (List (UUID × CreateJobRequest)))
      (batchId : UUID)
  | retryJob (id : Option UUID)
  | listJobs (status : String) (queueId : Param UUID) (page : PageQuery)
  | getJob (id : Option UUID)
  | getExecutions (id : Option UUID)
  | getLogs (id : Option UUID)
  | listByQueue (queueId : Option UUID) (status : String) (page : PageQuery)
  | listDLQ (page : PageQuery)
  | queueStats (queueId : Option UUID)
  | listWorkers

/-- The identifiers of rows that a request draws. -/
def ApiRequest.drawn : ApiRequest → List UUID
  | .createProject _ fresh | .createQueue _ fresh | .createJob _ _ fresh => [fresh]
  | .createBatch _ (.ok jobs) _ => jobs.map (·.1)
  | _ => []

/-! ## Responses -/

/-- The body of a response. -/
inductive ResponseBody where
  | empty
  /-- `APIError`, with the messages by field as details. -/
  | error (message code : String) (details : List (String × String))
  | organization (org : Organization)
  | project (project : Project)
  | projects (page : Page Project)
  | queue (queue : Queue)
  | queues (page : Page Queue)
  | job (job : Job)
  | jobs (page : Page Job)
  | batch (batchId : UUID) (jobs : List Job)
  | executions (rows : List ExecutionRow)
  | logs (rows : List LogRow)
  | letters (page : Page DLQListItem)
  | stats (stats : QueueStats)
  | workers (workers : List WorkerInfo)

structure ApiResponse where
  status : Nat
  body : ResponseBody

namespace ApiResponse

def badRequest (message : String) : ApiResponse := ⟨400, .error message "BAD_REQUEST" []⟩

def forbidden (message : String) : ApiResponse := ⟨403, .error message "FORBIDDEN" []⟩

def invalid (message : String) (details : List (String × String)) : ApiResponse :=
  ⟨422, .error message "VALIDATION_ERROR" details⟩

def internal : ApiResponse := ⟨500, .error "internal server error" "INTERNAL" []⟩

/-- `mapDomainError`, with what the store wraps around `ErrNotFound` and `ErrConflict`. -/
def failure (notFound conflict : String) : StoreError → ApiResponse
  | .notFound => ⟨404, .error (notFound ++ "not found") "NOT_FOUND" []⟩
  | .conflict => ⟨409, .error (conflict ++ "already exists") "CONFLICT" []⟩
  | .foreignKeyViolation | .uniqueViolation | .numericOutOfRange => internal

end ApiResponse

/-- What a request meets beside the tables. -/
structure ApiEnv where
  cron : CronParser
  /-- `name ILIKE pattern`. -/
  ilike : String → String → Bool
  /-- The text of an identifier in a message. -/
  idText : UUID → String
  /-- How the server ranks tied rows. -/
  rank : UUID → Nat
  /-- `time.Now`. -/
  instant : Time
  /-- `NOW()`. -/
  now : Timestamptz

/-- A character that `slugRe` allows between hyphens. -/
def slugChar (c : Char) : Bool := c.isLower || c.isDigit

/-- `slugRe.MatchString`, for `^[a-z0-9]+(?:-[a-z0-9]+)*$`. -/
def validSlug (slug : String) : Bool :=
  (slug.splitOn "-").all fun part => part ≠ "" && part.all slugChar

/-- `[a-z0-9]+(?:-[a-z0-9]+)*`. -/
def slugRe : Language Char := Text.joinedLanguage slugChar '-'

/-- The check splits at the hyphens. -/
theorem validSlug_eq (slug : String) :
    validSlug slug =
      (slug.toList.splitOn '-').all fun part => part ≠ [] && part.all slugChar := by
  have hyphen : "-" = String.singleton '-' := rfl
  rw [validSlug, hyphen, Text.splitOn_singleton, List.all_map]
  congr 1
  funext part
  simp

/-- The check accepts the slugs that are joined words. -/
theorem validSlug_iff {slug : String} :
    validSlug slug = true ↔ Text.Joined slugChar '-' slug.toList := by
  rw [validSlug_eq, Text.joined_iff_splitOn (by decide)]
  simp

/-- `slugRe.MatchString` is membership in the language of `slugRe`. -/
theorem validSlug_iff_mem_slugRe {slug : String} :
    validSlug slug = true ↔ slug.toList ∈ slugRe := by
  rw [validSlug_iff, slugRe, Text.mem_joinedLanguage]

/-- The wrapping of `ErrConflict` around a slug. -/
def slugText (what slug : String) : String := what ++ " slug \"" ++ slug ++ "\": "

/-! ## Common parts of the handlers -/

section Steps

variable {α : Type} (site : Site)

/-- Parse the path parameter. -/
def withId (what : String) (id : Option UUID) (next : UUID → ApiResponse × Site) :
    ApiResponse × Site :=
  match id with
  | none => (.badRequest ("invalid " ++ what ++ " id"), site)
  | some id => next id

/-- `readJSON`. -/
def withBody (body : Body α) (next : α → ApiResponse × Site) : ApiResponse × Site :=
  match body with
  | .error message => (.invalid message [], site)
  | .ok req => next req

/-- Go on with what a lookup returns. -/
def withFound (found : Except StoreError α) (next : α → ApiResponse × Site) :
    ApiResponse × Site :=
  match found with
  | .error e => (.failure "" "" e, site)
  | .ok value => next value

/-- The fields that a new name and slug are checked for, one after the other. -/
def withNameAndSlug (name slug : Option String) (next : ApiResponse × Site) :
    ApiResponse × Site :=
  if name = some "" then (.invalid "name cannot be empty" [], site)
  else if ∃ s ∈ slug, validSlug s = false then (.invalid "invalid slug format" [], site)
  else next

/-- Answer with the outcome of a write. -/
def conclude (result : Except StoreError α) (fails : StoreError → ApiResponse)
    (done : α → ApiResponse × Site) : ApiResponse × Site :=
  match result with
  | .error e => (fails e, site)
  | .ok value => done value

end Steps

variable (env : ApiEnv) (orgId : UUID) (site : Site)

/-! ## Organizations -/

/-- The handlers of `/orgs/{id}` start with the path parameter and the claims. -/
def OrgHandler.ownOnly (id : Option UUID) (next : UUID → ApiResponse × Site) :
    ApiResponse × Site :=
  withId site "org" id fun id =>
    if orgId ≠ id then (.forbidden "cross-tenant access denied", site) else next id

def OrgHandler.get (id : Option UUID) : ApiResponse × Site :=
  ownOnly orgId site id fun id =>
    withFound site (site.getOrg id) fun org => (⟨200, .organization org⟩, site)

def OrgHandler.update (id : Option UUID) (body : Body UpdateOrgRequest) : ApiResponse × Site :=
  ownOnly orgId site id fun id =>
    withBody site body fun req =>
      withFound site (site.getOrg id) fun org =>
        withNameAndSlug site req.name req.slug <|
          let name := req.name.getD org.name
          let slug := req.slug.getD org.slug
          conclude site (site.updateOrg env.now id name slug)
            (.failure ("org " ++ env.idText id ++ ": ") (slugText "org" slug))
            fun site' => (⟨200, .organization
              { org with name := name, slug := slug, updatedAt := env.now }⟩, site')

def OrgHandler.delete (id : Option UUID) : ApiResponse × Site :=
  ownOnly orgId site id fun id =>
    conclude site (site.deleteOrg id) (.failure ("org " ++ env.idText id ++ ": ") "")
      fun site' => (⟨204, .empty⟩, site')

/-! ## Projects -/

/-- `validateCreateProject`. -/
def validateCreateProject (req : CreateProjectRequest) : List (String × String) :=
  (if req.name = "" then [("name", "required")] else []) ++
  (if validSlug req.slug = false then
    [("slug", "must be lowercase alphanumeric with hyphens")] else [])

def ProjectHandler.create (body : Body CreateProjectRequest) (fresh : UUID) :
    ApiResponse × Site :=
  withBody site body fun req =>
    match validateCreateProject req with
    | [] => conclude site
        (site.createProject env.now fresh orgId req.name req.slug req.description)
        (.failure "" (slugText "project" req.slug))
        fun site' => (⟨201, .project
          ⟨fresh, orgId, req.name, req.slug, req.description, env.now, env.now⟩⟩, site')
    | errors => (.invalid "invalid input" errors, site)

def ProjectHandler.list (name : String) (page : PageQuery) : ApiResponse × Site :=
  match page.cursor with
  | .malformed => (.internal, site)
  | _ => (⟨200, .projects
      (site.listProjects env.ilike orgId (clampLimit page.limit) page.after name)⟩, site)

def ProjectHandler.get (id : Option UUID) : ApiResponse × Site :=
  withId site "project" id fun id =>
    withFound site (site.getProject id orgId) fun project => (⟨200, .project project⟩, site)

def ProjectHandler.update (id : Option UUID) (body : Body UpdateProjectRequest) :
    ApiResponse × Site :=
  withId site "project" id fun id =>
    withBody site body fun req =>
      withFound site (site.getProject id orgId) fun project =>
        withNameAndSlug site req.name req.slug <|
          let name := req.name.getD project.name
          let slug := req.slug.getD project.slug
          let description := req.description.orElse fun _ => project.description
          conclude site (site.updateProject env.now id orgId name slug description)
            (.failure ("project " ++ env.idText id ++ ": ") (slugText "project" slug))
            fun site' => (⟨200, .project { project with
              name := name, slug := slug, description := description,
              updatedAt := env.now }⟩, site')

def ProjectHandler.delete (id : Option UUID) : ApiResponse × Site :=
  withId site "project" id fun id =>
    conclude site (site.deleteProject id orgId)
      (.failure ("project " ++ env.idText id ++ ": ") "") fun site' => (⟨204, .empty⟩, site')

/-! ## Queues -/

/-- `validateCreateQueue`. -/
def validateCreateQueue (req : CreateQueueRequest) : List (String × String) :=
  (if req.projectId = none then [("project_id", "must be a valid UUID")] else []) ++
  (if req.name = "" then [("name", "required")] else []) ++
  (if validSlug req.slug = false then
    [("slug", "must be lowercase alphanumeric with hyphens")] else [])

/-- The new row of a valid request; the server sets the timestamps. -/
def CreateQueueRequest.queue (req : CreateQueueRequest) (now : Timestamptz)
    (fresh projectId : UUID) : Queue where
  id := fresh
  projectId := projectId
  name := req.name
  slug := req.slug
  retryPolicyId := req.retryPolicyId.value?
  priorityDefault := req.priorityDefault.getD 0
  concurrencyLimit := req.concurrencyLimit
  paused := req.isPaused.getD false
  createdAt := now
  updatedAt := now

def QueueHandler.create (body : Body CreateQueueRequest) (fresh : UUID) : ApiResponse × Site :=
  withBody site body fun req =>
    match validateCreateQueue req, req.projectId with
    | [], some projectId =>
        withFound site (site.getProject projectId orgId) fun _ =>
          match req.retryPolicyId with
          | .malformed => (.badRequest "invalid retry_policy_id", site)
          | _ =>
              let queue := req.queue env.now fresh projectId
              conclude site (site.createQueue env.now queue)
                (.failure "" (slugText "queue" req.slug))
                fun site' => (⟨201, .queue queue⟩, site')
    | errors, _ => (.invalid "invalid input" errors, site)

def QueueHandler.list (name : String) (isPaused : Param Bool) (projectId : Param UUID)
    (page : PageQuery) : ApiResponse × Site :=
  match isPaused, projectId, page.cursor with
  | .malformed, _, _ => (.badRequest "is_paused must be true or false", site)
  | _, .malformed, _ => (.badRequest "invalid project_id filter", site)
  | _, _, .malformed => (.internal, site)
  | _, _, _ => (⟨200, .queues (site.listQueues env.ilike orgId (clampLimit page.limit)
      page.after name isPaused.value? projectId.value?)⟩, site)

def QueueHandler.get (id : Option UUID) : ApiResponse × Site :=
  withId site "queue" id fun id =>
    withFound site (site.getQueue id orgId) fun queue => (⟨200, .queue queue⟩, site)

/-- The queue with the fields of the request. -/
def UpdateQueueRequest.merge (req : UpdateQueueRequest) (queue : Queue) : Queue :=
  { queue with
    name := req.name.getD queue.name
    slug := req.slug.getD queue.slug
    retryPolicyId := req.retryPolicyId.value?.orElse fun _ => queue.retryPolicyId
    priorityDefault := req.priorityDefault.getD queue.priorityDefault
    concurrencyLimit := req.concurrencyLimit.orElse fun _ => queue.concurrencyLimit
    paused := req.isPaused.getD queue.paused }

def QueueHandler.update (id : Option UUID) (body : Body UpdateQueueRequest) :
    ApiResponse × Site :=
  withId site "queue" id fun id =>
    withBody site body fun req =>
      withFound site (site.getQueue id orgId) fun queue =>
        withNameAndSlug site req.name req.slug <|
          match req.retryPolicyId with
          | .malformed => (.badRequest "invalid retry_policy_id", site)
          | _ =>
              let merged := req.merge queue
              conclude site (site.updateQueue env.now merged orgId)
                (.failure ("queue " ++ env.idText id ++ ": ") (slugText "queue" merged.slug))
                fun site' => (⟨200, .queue { merged with updatedAt := env.now }⟩, site')

def QueueHandler.delete (id : Option UUID) : ApiResponse × Site :=
  withId site "queue" id fun id =>
    conclude site (site.deleteQueue id orgId) (.failure ("queue " ++ env.idText id ++ ": ") "")
      fun site' => (⟨204, .empty⟩, site')

/-- `setPaused`, for `Pause` and `Resume`. -/
def QueueHandler.setPaused (id : Option UUID) (paused : Bool) : ApiResponse × Site :=
  withId site "queue" id fun id =>
    conclude site (site.setPaused env.now id orgId paused)
      (.failure ("queue " ++ env.idText id ++ ": ") "") fun site' => (⟨204, .empty⟩, site')

/-! ## Jobs -/

def JobHandler.create (queueId : Option UUID) (body : Body CreateJobRequest) (fresh : UUID) :
    ApiResponse × Site :=
  withId site "queue" queueId fun queueId =>
    withBody site body fun req =>
      withFound site (site.getQueue queueId orgId) fun queue =>
        match buildJobInput env.cron env.instant req queue with
        | .error errors => (.invalid "invalid input" errors, site)
        | .ok input =>
            conclude site (site.createJob env.now fresh input) (.failure "" "")
              fun done => (⟨if done.2.created then 201 else 200, .job done.2.job⟩, done.1)

/-- The inputs of a batch, or the index and the errors of the first invalid request. -/
def buildInputs (cron : CronParser) (now : Time) (queue : Queue) (batchId : UUID) :
    Nat → List (UUID × CreateJobRequest) →
      Except (Nat × List (String × String)) (List (UUID × CreateJobInput))
  | _, [] => .ok []
  | index, (id, req) :: rest =>
      match buildJobInput cron now req queue with
      | .error errors => .error (index, errors)
      | .ok input =>
          match buildInputs cron now queue batchId (index + 1) rest with
          | .error invalid => .error invalid
          | .ok inputs => .ok ((id, { input with batchId := some batchId }) :: inputs)

/-- The inputs are those of `buildBatch`. -/
theorem buildInputs_toOption (cron : CronParser) (now : Time) (queue : Queue) (batchId : UUID) :
    ∀ (index : Nat) (jobs : List (UUID × CreateJobRequest)),
      (buildInputs cron now queue batchId index jobs).toOption =
        buildBatch cron now queue batchId jobs
  | _, [] => rfl
  | index, (id, req) :: rest => by
      have ih := buildInputs_toOption cron now queue batchId (index + 1) rest
      unfold buildInputs buildBatch
      rw [← ih]
      cases buildJobInput cron now req queue with
      | error errors => rfl
      | ok input => cases buildInputs cron now queue batchId (index + 1) rest <;> rfl

section Inputs

variable {cron : CronParser} {instant : Time} {queue : Queue} {batchId : UUID}

/-- The input of a request, with the batch's id. -/
def BuiltFrom (cron : CronParser) (instant : Time) (queue : Queue) (batchId : UUID)
    (request : UUID × CreateJobRequest) (entry : UUID × CreateJobInput) : Prop :=
  ∃ input, buildJobInput cron instant request.2 queue = .ok input ∧
    entry = (request.1, { input with batchId := some batchId })

theorem buildInputs_builtFrom : ∀ {index : Nat} {jobs : List (UUID × CreateJobRequest)}
    {inputs : List (UUID × CreateJobInput)},
    buildInputs cron instant queue batchId index jobs = .ok inputs →
      List.Forall₂ (BuiltFrom cron instant queue batchId) jobs inputs
  | _, [], inputs, builds => by
      cases builds
      exact .nil
  | index, (id, req) :: rest, inputs, builds => by
      unfold buildInputs at builds
      split at builds
      · cases builds
      next input first =>
        split at builds
        · cases builds
        next others later =>
          cases builds
          exact .cons ⟨input, first, rfl⟩ (buildInputs_builtFrom later)

/-- An input keeps the key of its request and goes to the queue. -/
theorem buildJobInput_columns {req : CreateJobRequest} {input : CreateJobInput}
    (builds : buildJobInput cron instant req queue = .ok input) :
    input.queueId = queue.id ∧ input.idempotencyKey = req.idempotencyKey := by
  unfold buildJobInput at builds
  split at builds
  · cases builds
    exact ⟨rfl, rfl⟩
  · cases builds

/-- The inputs of a batch have the drawn identifiers, go to its queue, and keep the keys of the
requests. -/
theorem buildInputs_columns {index : Nat} {jobs : List (UUID × CreateJobRequest)}
    {inputs : List (UUID × CreateJobInput)}
    (builds : buildInputs cron instant queue batchId index jobs = .ok inputs) :
    inputs.map (·.1) = jobs.map (·.1) ∧ (∀ entry ∈ inputs, entry.2.queueId = queue.id) ∧
      inputs.map (·.2.idempotencyKey) = jobs.map (·.2.idempotencyKey) := by
  have built := buildInputs_builtFrom builds
  clear builds
  induction built with
  | nil => exact ⟨rfl, fun _ member => absurd member List.not_mem_nil, rfl⟩
  | cons first _ ih =>
      obtain ⟨input, builds, rfl⟩ := first
      obtain ⟨target, key⟩ := buildJobInput_columns builds
      obtain ⟨ids, targets, keys⟩ := ih
      refine ⟨?_, List.forall_mem_cons.mpr ⟨target, targets⟩, ?_⟩
      · rw [List.map_cons, List.map_cons, ids]
      · rw [List.map_cons, List.map_cons, keys, ← key]

end Inputs

def JobHandler.createBatch (queueId : Option UUID) (body : Body (List (UUID × CreateJobRequest)))
    (batchId : UUID) : ApiResponse × Site :=
  withId site "queue" queueId fun queueId =>
    withBody site body fun jobs =>
      if jobs = [] then (.invalid "jobs array is empty" [], site)
      else if 1000 < jobs.length then (.invalid "batch limited to 1000 jobs" [], site)
      else
        withFound site (site.getQueue queueId orgId) fun queue =>
          match buildInputs env.cron env.instant queue batchId 0 jobs with
          | .error (index, errors) =>
              (.invalid ("invalid input at index " ++ toString index) errors, site)
          | .ok inputs =>
              conclude site (site.createJobBatch env.now inputs) (.failure "" "")
                fun done => (⟨201, .batch batchId done.2⟩, done.1)

def JobHandler.listJobs (status : String) (queueId : Param UUID) (page : PageQuery) :
    ApiResponse × Site :=
  match queueId with
  | .malformed => (.badRequest "invalid queue_id", site)
  | _ => (⟨200, .jobs
      (site.listAll env.rank orgId status queueId.value? (clampLimit page.limit))⟩, site)

def JobHandler.listByQueue (queueId : Option UUID) (status : String) (page : PageQuery) :
    ApiResponse × Site :=
  withId site "queue" queueId fun queueId =>
    (⟨200, .jobs (site.listByQueue env.rank queueId orgId status (clampLimit page.limit))⟩, site)

def JobHandler.get (id : Option UUID) : ApiResponse × Site :=
  withId site "job" id fun id =>
    withFound site (site.getJob id orgId) fun job => (⟨200, .job job⟩, site)

def JobHandler.executions (id : Option UUID) : ApiResponse × Site :=
  withId site "job" id fun id =>
    (⟨200, .executions (site.getExecutions env.rank id orgId)⟩, site)

def JobHandler.logs (id : Option UUID) : ApiResponse × Site :=
  withId site "job" id fun id => (⟨200, .logs (site.getLogs env.rank id orgId)⟩, site)

def JobHandler.listDLQ (page : PageQuery) : ApiResponse × Site :=
  (⟨200, .letters (site.listDLQ env.rank orgId (clampLimit page.limit))⟩, site)

def JobHandler.retry (id : Option UUID) : ApiResponse × Site :=
  withId site "job" id fun id =>
    conclude site (site.retryDLQJob env.now id orgId) (.failure "" "")
      fun done => (⟨200, .job done.2⟩, done.1)

/-! ## Statistics -/

def StatsHandler.queueStats (queueId : Option UUID) : ApiResponse × Site :=
  withId site "queue" queueId fun queueId =>
    withFound site (site.getQueue queueId orgId) fun _ =>
      match site.getQueueStats env.now queueId with
      | none => (.internal, site)
      | some stats => (⟨200, .stats stats⟩, site)

def StatsHandler.listWorkers : ApiResponse × Site :=
  (⟨200, .workers (site.listWorkers env.rank)⟩, site)

/-! ## Routing -/

/-- The authenticated part of `Server.routes`: the response to a request with these claims,
and the tables after it. -/
def ApiRequest.handle : ApiRequest → ApiResponse × Site
  | .getOrg id => OrgHandler.get orgId site id
  | .updateOrg id body => OrgHandler.update env orgId site id body
  | .deleteOrg id => OrgHandler.delete env orgId site id
  | .listProjects name page => ProjectHandler.list env orgId site name page
  | .createProject body fresh => ProjectHandler.create env orgId site body fresh
  | .getProject id => ProjectHandler.get orgId site id
  | .updateProject id body => ProjectHandler.update env orgId site id body
  | .deleteProject id => ProjectHandler.delete env orgId site id
  | .listQueues name isPaused projectId page =>
      QueueHandler.list env orgId site name isPaused projectId page
  | .createQueue body fresh => QueueHandler.create env orgId site body fresh
  | .getQueue id => QueueHandler.get orgId site id
  | .updateQueue id body => QueueHandler.update env orgId site id body
  | .deleteQueue id => QueueHandler.delete env orgId site id
  | .pauseQueue id => QueueHandler.setPaused env orgId site id true
  | .resumeQueue id => QueueHandler.setPaused env orgId site id false
  | .createJob queueId body fresh => JobHandler.create env orgId site queueId body fresh
  | .createBatch queueId body batchId =>
      JobHandler.createBatch env orgId site queueId body batchId
  | .retryJob id => JobHandler.retry env orgId site id
  | .listJobs status queueId page => JobHandler.listJobs env orgId site status queueId page
  | .getJob id => JobHandler.get orgId site id
  | .getExecutions id => JobHandler.executions env orgId site id
  | .getLogs id => JobHandler.logs env orgId site id
  | .listByQueue queueId status page =>
      JobHandler.listByQueue env orgId site queueId status page
  | .listDLQ page => JobHandler.listDLQ env orgId site page
  | .queueStats queueId => StatsHandler.queueStats env orgId site queueId
  | .listWorkers => StatsHandler.listWorkers env site

end JobScheduler
