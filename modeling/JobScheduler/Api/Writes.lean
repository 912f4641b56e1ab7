import JobScheduler.Api.Isolation

/-!
# What a request writes

A handler of a writing route answers with an error and leaves the tables alone, or it answers
with success after exactly one write of the store. The write is on rows that the handler has
looked up for the organization of the caller, with the identifiers that the request has drawn.
A handler of a reading route leaves the tables alone whatever it answers.

The writes of all routes are listed once (`Site.Write`), so that what holds of the tables after
any request is shown write by write.
-/

set_option autoImplicit false

namespace JobScheduler

open Relational Transition

/-! ## The methods of the routes -/

/-- The request comes with `GET`. -/
def ApiRequest.reads : ApiRequest → Bool
  | .getOrg _ | .listProjects .. | .getProject _ | .listQueues .. | .getQueue _ | .listJobs ..
  | .getJob _ | .getExecutions _ | .getLogs _ | .listByQueue .. | .listDLQ _ | .queueStats _
  | .listWorkers => true
  | _ => false

/-- All identifiers that a request draws: a batch has one of its own. -/
def ApiRequest.identifiers : ApiRequest → List UUID
  | .createBatch queueId body batchId =>
      batchId :: (ApiRequest.createBatch queueId body batchId).drawn
  | request => request.drawn

theorem Site.Unused.tail {site : Site} {id : UUID} {drawn : List UUID}
    (unused : site.Unused (id :: drawn)) : site.Unused drawn where
  distinct := (List.nodup_cons.mp unused.distinct).2
  projects p member listed := unused.projects p member (List.mem_cons_of_mem _ listed)
  queues q member listed := unused.queues q member (List.mem_cons_of_mem _ listed)
  jobs j member listed := unused.jobs j member (List.mem_cons_of_mem _ listed)

/-! ## The writes -/

variable (env : ApiEnv) (orgId : UUID) (site : Site)

/-- One write of the store on behalf of an organization, with the identifiers it has to draw
from, and the tables after it. -/
inductive Site.Write (drawn : List UUID) (site' : Site) : Prop where
  | updateOrg {name slug : String}
      (done : site.updateOrg env.now orgId name slug = .ok site')
  | deleteOrg (done : site.deleteOrg orgId = .ok site')
  | createProject {id : UUID} {name slug : String} {description : Option String}
      (draws : drawn = [id])
      (done : site.createProject env.now id orgId name slug description = .ok site')
  | updateProject {id : UUID} {name slug : String} {description : Option String}
      (done : site.updateProject env.now id orgId name slug description = .ok site')
  | deleteProject {id : UUID} (done : site.deleteProject id orgId = .ok site')
  | createQueue {queue : Queue} (draws : drawn = [queue.id])
      (owner : ∃ p ∈ site.projects, p.id = queue.projectId ∧ p.orgId = orgId)
      (done : site.createQueue env.now queue = .ok site')
  | updateQueue {queue : Queue} (done : site.updateQueue env.now queue orgId = .ok site')
  | deleteQueue {id : UUID} (done : site.deleteQueue id orgId = .ok site')
  | setPaused {id : UUID} {paused : Bool}
      (done : site.setPaused env.now id orgId paused = .ok site')
  | createJob {id : UUID} {req : CreateJobRequest} {queue : Queue} {input : CreateJobInput}
      {result : CreateJobResult} (draws : drawn = [id])
      (found : site.getQueue queue.id orgId = .ok queue)
      (builds : buildJobInput env.cron env.instant req queue = .ok input)
      (done : site.createJob env.now id input = .ok (site', result))
  | createJobBatch {jobs : List (UUID × CreateJobRequest)} {queue : Queue} {batchId : UUID}
      {inputs : List (UUID × CreateJobInput)} {rows : List Job}
      (draws : drawn = batchId :: jobs.map (·.1)) (sized : jobs ≠ [] ∧ jobs.length ≤ 1000)
      (found : site.getQueue queue.id orgId = .ok queue)
      (builds : buildInputs env.cron env.instant queue batchId 0 jobs = .ok inputs)
      (done : site.createJobBatch env.now inputs = .ok (site', rows))
  | retryDLQJob {id : UUID} {job : Job}
      (done : site.retryDLQJob env.now id orgId = .ok (site', job))

/-- The handler answers with an error and leaves the tables, or with success after a write. -/
def Site.Settles (writes : Site → Prop) (done : ApiResponse × Site) : Prop :=
  (400 ≤ done.1.status ∧ done.2 = site) ∨ (done.1.status < 300 ∧ writes done.2)

/-! ## Common parts of the handlers -/

section Steps

variable {site} {α : Type} {writes : Site → Prop}

theorem Site.settles_error {response : ApiResponse} (fails : 400 ≤ response.status) :
    site.Settles writes (response, site) := .inl ⟨fails, rfl⟩

theorem Site.settles_write {response : ApiResponse} {site' : Site}
    (succeeds : response.status < 300) (write : writes site') :
    site.Settles writes (response, site') := .inr ⟨succeeds, write⟩

/-- Every error of the store is answered with an error. -/
theorem ApiResponse.failure_status (notFound conflict : String) (e : StoreError) :
    400 ≤ (ApiResponse.failure notFound conflict e).status := by
  cases e <;> simp [ApiResponse.failure, ApiResponse.internal]

theorem ApiResponse.badRequest_status (message : String) :
    400 ≤ (ApiResponse.badRequest message).status := by
  simp [ApiResponse.badRequest]

theorem ApiResponse.invalid_status (message : String) (details : List (String × String)) :
    400 ≤ (ApiResponse.invalid message details).status := by
  simp [ApiResponse.invalid]

theorem withId_settles {what : String} {id : Option UUID} {next : UUID → ApiResponse × Site}
    (settles : ∀ id, site.Settles writes (next id)) :
    site.Settles writes (withId site what id next) := by
  cases id with
  | none => exact Site.settles_error (ApiResponse.badRequest_status _)
  | some id => exact settles id

theorem withBody_settles {body : Body α} {next : α → ApiResponse × Site}
    (settles : ∀ req, body = .ok req → site.Settles writes (next req)) :
    site.Settles writes (withBody site body next) := by
  cases body with
  | error message => exact Site.settles_error (ApiResponse.invalid_status _ _)
  | ok req => exact settles req rfl

theorem withFound_settles {found : Except StoreError α} {next : α → ApiResponse × Site}
    (settles : ∀ value, found = .ok value → site.Settles writes (next value)) :
    site.Settles writes (withFound site found next) := by
  cases found with
  | error e => exact Site.settles_error (ApiResponse.failure_status _ _ e)
  | ok value => exact settles value rfl

theorem withNameAndSlug_settles {name slug : Option String} {next : ApiResponse × Site}
    (settles : site.Settles writes next) :
    site.Settles writes (withNameAndSlug site name slug next) := by
  unfold withNameAndSlug
  split
  · exact Site.settles_error (ApiResponse.invalid_status _ _)
  · split
    · exact Site.settles_error (ApiResponse.invalid_status _ _)
    · exact settles

theorem conclude_settles {result : Except StoreError α} {notFound conflict : String}
    {done : α → ApiResponse × Site}
    (settles : ∀ value, result = .ok value → site.Settles writes (done value)) :
    site.Settles writes (conclude site result (.failure notFound conflict) done) := by
  cases result with
  | error e => exact Site.settles_error (ApiResponse.failure_status _ _ e)
  | ok value => exact settles value rfl

theorem OrgHandler.ownOnly_settles {orgId : UUID} {id : Option UUID}
    {next : UUID → ApiResponse × Site} (settles : site.Settles writes (next orgId)) :
    site.Settles writes (OrgHandler.ownOnly orgId site id next) := by
  refine withId_settles fun id => ?_
  split
  · exact Site.settles_error (by simp [ApiResponse.forbidden])
  next same =>
    rw [← not_not.mp same]
    exact settles

/-- A queue that the handler has looked up is found by its own identifier. -/
theorem Site.getQueue_self {orgId id : UUID} {queue : Queue}
    (found : site.getQueue id orgId = .ok queue) : site.getQueue queue.id orgId = .ok queue := by
  obtain ⟨_, same, _⟩ := Site.owner_of_getQueue found
  rw [same]
  exact found

end Steps

/-! ## Handlers -/

section Handlers

variable {env orgId site}

theorem OrgHandler.update_settles (id : Option UUID) (body : Body UpdateOrgRequest) :
    site.Settles (site.Write env orgId []) (OrgHandler.update env orgId site id body) := by
  refine OrgHandler.ownOnly_settles (withBody_settles fun req _ => withFound_settles fun org _ =>
    withNameAndSlug_settles (conclude_settles fun site' done => ?_))
  exact Site.settles_write (by simp) (.updateOrg done)

theorem OrgHandler.delete_settles (id : Option UUID) :
    site.Settles (site.Write env orgId []) (OrgHandler.delete env orgId site id) :=
  OrgHandler.ownOnly_settles (conclude_settles fun _ done =>
    Site.settles_write (by simp) (.deleteOrg done))

theorem ProjectHandler.create_settles (body : Body CreateProjectRequest) (fresh : UUID) :
    site.Settles (site.Write env orgId [fresh])
      (ProjectHandler.create env orgId site body fresh) := by
  refine withBody_settles fun req _ => ?_
  split
  · exact conclude_settles fun _ done => Site.settles_write (by simp) (.createProject rfl done)
  · exact Site.settles_error (ApiResponse.invalid_status _ _)

theorem ProjectHandler.update_settles (id : Option UUID) (body : Body UpdateProjectRequest) :
    site.Settles (site.Write env orgId []) (ProjectHandler.update env orgId site id body) :=
  withId_settles fun _ => withBody_settles fun _ _ => withFound_settles fun _ _ =>
    withNameAndSlug_settles (conclude_settles fun _ done =>
      Site.settles_write (by simp) (.updateProject done))

theorem ProjectHandler.delete_settles (id : Option UUID) :
    site.Settles (site.Write env orgId []) (ProjectHandler.delete env orgId site id) :=
  withId_settles fun _ => conclude_settles fun _ done =>
    Site.settles_write (by simp) (.deleteProject done)

theorem QueueHandler.create_settles (body : Body CreateQueueRequest) (fresh : UUID) :
    site.Settles (site.Write env orgId [fresh])
      (QueueHandler.create env orgId site body fresh) := by
  refine withBody_settles fun req _ => ?_
  split
  · refine withFound_settles fun project found => ?_
    split
    · exact Site.settles_error (ApiResponse.badRequest_status _)
    · exact conclude_settles fun _ done => Site.settles_write (by simp)
        (.createQueue rfl (Site.owner_of_getProject found) done)
  · exact Site.settles_error (ApiResponse.invalid_status _ _)

theorem QueueHandler.update_settles (id : Option UUID) (body : Body UpdateQueueRequest) :
    site.Settles (site.Write env orgId []) (QueueHandler.update env orgId site id body) := by
  refine withId_settles fun id => withBody_settles fun req _ => withFound_settles fun queue _ =>
    withNameAndSlug_settles ?_
  split
  · exact Site.settles_error (ApiResponse.badRequest_status _)
  · exact conclude_settles fun _ done => Site.settles_write (by simp) (.updateQueue done)

theorem QueueHandler.delete_settles (id : Option UUID) :
    site.Settles (site.Write env orgId []) (QueueHandler.delete env orgId site id) :=
  withId_settles fun _ => conclude_settles fun _ done =>
    Site.settles_write (by simp) (.deleteQueue done)

theorem QueueHandler.setPaused_settles (id : Option UUID) (paused : Bool) :
    site.Settles (site.Write env orgId []) (QueueHandler.setPaused env orgId site id paused) :=
  withId_settles fun _ => conclude_settles fun _ done =>
    Site.settles_write (by simp) (.setPaused done)

theorem JobHandler.create_settles (queueId : Option UUID) (body : Body CreateJobRequest)
    (fresh : UUID) :
    site.Settles (site.Write env orgId [fresh])
      (JobHandler.create env orgId site queueId body fresh) := by
  refine withId_settles fun id => withBody_settles fun req _ =>
    withFound_settles fun queue found => ?_
  split
  · exact Site.settles_error (ApiResponse.invalid_status _ _)
  next input builds =>
    refine conclude_settles fun done succeeds => Site.settles_write ?_
      (.createJob rfl (Site.getQueue_self found) builds succeeds)
    dsimp only
    split <;> simp

theorem JobHandler.createBatch_settles (queueId : Option UUID)
    (body : Body (List (UUID × CreateJobRequest))) (batchId : UUID) :
    site.Settles (site.Write env orgId (ApiRequest.createBatch queueId body batchId).identifiers)
      (JobHandler.createBatch env orgId site queueId body batchId) := by
  refine withId_settles fun id => withBody_settles fun jobs decoded => ?_
  subst decoded
  split
  · exact Site.settles_error (ApiResponse.invalid_status _ _)
  next some =>
    split
    · exact Site.settles_error (ApiResponse.invalid_status _ _)
    next few =>
      refine withFound_settles fun queue found => ?_
      split
      · exact Site.settles_error (ApiResponse.invalid_status _ _)
      next inputs builds =>
        exact conclude_settles fun done succeeds => Site.settles_write (by simp)
          (.createJobBatch rfl ⟨some, not_lt.mp few⟩ (Site.getQueue_self found) builds succeeds)

theorem JobHandler.retry_settles (id : Option UUID) :
    site.Settles (site.Write env orgId []) (JobHandler.retry env orgId site id) :=
  withId_settles fun _ => conclude_settles fun _ done =>
    Site.settles_write (by simp) (.retryDLQJob done)

end Handlers

/-! ## Every request -/

variable {env orgId site}

/-- A reading request leaves the tables as they are. -/
theorem handle_reads {request : ApiRequest} (reads : request.reads = true) :
    (request.handle env orgId site).2 = site := by
  have found : ∀ {α : Type} {result : Except StoreError α} {next : α → ApiResponse × Site},
      (∀ value, (next value).2 = site) → (withFound site result next).2 = site := by
    intro α result next same
    cases result with
    | error e => rfl
    | ok value => exact same value
  have named : ∀ {what : String} {id : Option UUID} {next : UUID → ApiResponse × Site},
      (∀ id, (next id).2 = site) → (withId site what id next).2 = site := by
    intro what id next same
    cases id with
    | none => rfl
    | some id => exact same id
  cases request with
  | getOrg id =>
      refine named fun id => ?_
      split
      · rfl
      · exact found fun _ => rfl
  | listProjects name page => exact ProjectHandler.list_snd env orgId site name page
  | getProject id => exact named fun _ => found fun _ => rfl
  | listQueues name isPaused projectId page =>
      exact QueueHandler.list_snd env orgId site name isPaused projectId page
  | getQueue id => exact named fun _ => found fun _ => rfl
  | listJobs status queueId page => exact JobHandler.listJobs_snd env orgId site status queueId page
  | getJob id => exact named fun _ => found fun _ => rfl
  | getExecutions id => exact named fun _ => rfl
  | getLogs id => exact named fun _ => rfl
  | listByQueue queueId status page => exact named fun _ => rfl
  | listDLQ page => rfl
  | queueStats queueId =>
      refine named fun id => found fun _ => ?_
      split <;> rfl
  | listWorkers => rfl
  | _ => cases reads

/-- **The writes of a request.** A request of another method ends with an error and the tables
as they were, or with success and one write. -/
theorem handle_settles {request : ApiRequest} (writes : request.reads = false) :
    site.Settles (site.Write env orgId request.identifiers) (request.handle env orgId site) := by
  cases request with
  | updateOrg id body => exact OrgHandler.update_settles id body
  | deleteOrg id => exact OrgHandler.delete_settles id
  | createProject body fresh => exact ProjectHandler.create_settles body fresh
  | updateProject id body => exact ProjectHandler.update_settles id body
  | deleteProject id => exact ProjectHandler.delete_settles id
  | createQueue body fresh => exact QueueHandler.create_settles body fresh
  | updateQueue id body => exact QueueHandler.update_settles id body
  | deleteQueue id => exact QueueHandler.delete_settles id
  | pauseQueue id => exact QueueHandler.setPaused_settles id true
  | resumeQueue id => exact QueueHandler.setPaused_settles id false
  | createJob queueId body fresh => exact JobHandler.create_settles queueId body fresh
  | createBatch queueId body batchId => exact JobHandler.createBatch_settles queueId body batchId
  | retryJob id => exact JobHandler.retry_settles id
  | _ => cases writes

/-- A request that changes the tables succeeds, does not come with `GET`, and makes one write. -/
theorem handle_changes {request : ApiRequest}
    (changes : (request.handle env orgId site).2 ≠ site) :
    request.reads = false ∧ (request.handle env orgId site).1.status < 300 ∧
      site.Write env orgId request.identifiers (request.handle env orgId site).2 := by
  cases reads : request.reads with
  | true => exact absurd (handle_reads reads) changes
  | false =>
      rcases handle_settles reads with ⟨_, same⟩ | ⟨succeeds, write⟩
      · exact absurd same changes
      · exact ⟨rfl, succeeds, write⟩

end JobScheduler
