import JobScheduler.Api.SingleTenant

/-!
# Tenant integrity

A request changes nothing of an organization other than the one in its claims. Every handler
answers without a write, or ends with one write of the store; what it looked up before tells
that the write is on a row of the caller, and the write is confined to the tenant of the
caller.
-/

set_option autoImplicit false

namespace JobScheduler

open Relational Transition

/-- Identifiers that no row has, all different. -/
structure Site.Unused (site : Site) (drawn : List UUID) : Prop where
  distinct : drawn.Nodup
  projects : ∀ p ∈ site.projects, p.id ∉ drawn
  queues : ∀ q ∈ site.queues, q.id ∉ drawn
  jobs : ∀ j ∈ site.jobs, j.id ∉ drawn

theorem Site.unused_nil {site : Site} : site.Unused [] where
  distinct := List.nodup_nil
  projects _ _ := List.not_mem_nil
  queues _ _ := List.not_mem_nil
  jobs _ _ := List.not_mem_nil

section Unused

variable {site : Site} {fresh : UUID} (unused : site.Unused [fresh])
include unused

theorem Site.Unused.project_ne : ∀ p ∈ site.projects, p.id ≠ fresh :=
  fun p member same => unused.projects p member (List.mem_singleton.mpr same)

theorem Site.Unused.queue_ne : ∀ q ∈ site.queues, q.id ≠ fresh :=
  fun q member same => unused.queues q member (List.mem_singleton.mpr same)

theorem Site.Unused.job_ne : ∀ j ∈ site.jobs, j.id ≠ fresh :=
  fun j member same => unused.jobs j member (List.mem_singleton.mpr same)

end Unused

/-! ## What lookups tell -/

section Lookups

variable {site : Site} {orgId id : UUID}

theorem Site.owner_of_getProject {project : Project}
    (found : site.getProject id orgId = .ok project) :
    ∃ p ∈ site.projects, p.id = id ∧ p.orgId = orgId := by
  unfold Site.getProject at found
  split at found
  next p here =>
    have selected := List.find?_some here
    rw [decide_eq_true_eq] at selected
    exact ⟨p, List.mem_of_find?_eq_some here, selected⟩
  · cases found

theorem Site.owner_of_getQueue {queue : Queue} (found : site.getQueue id orgId = .ok queue) :
    queue ∈ site.queues ∧ queue.id = id ∧ site.QueueOf orgId queue := by
  unfold Site.getQueue Database.getQueue at found
  split at found
  next q here =>
    cases found
    have selected := List.find?_some here
    rw [decide_eq_true_eq] at selected
    exact ⟨List.mem_of_find?_eq_some here, selected⟩
  · cases found

end Lookups

/-! ## Parts of handlers -/

/-- The tables may differ in rows of this organization only. -/
def Site.Spares (orgId : UUID) (site site' : Site) : Prop :=
  ∀ o, o ≠ orgId → site'.tenant o = site.tenant o ∧ site'.usersOf o = site.usersOf o

section Steps

variable {α : Type} {site : Site} {orgId : UUID}

theorem Site.spares_self : Site.Spares orgId site site := fun _ _ => ⟨rfl, rfl⟩

theorem Site.Confined.spares {given : Prop} {site' : Site} {tenant' : Tenant}
    (confined : Site.Confined given orgId site site' tenant') (holds : given) :
    Site.Spares orgId site site' :=
  fun o other => ⟨confined.others holds o other, confined.users o other⟩

theorem withId_spares {what : String} {id : Option UUID} {next : UUID → ApiResponse × Site}
    (spares : ∀ id, Site.Spares orgId site (next id).2) :
    Site.Spares orgId site (withId site what id next).2 := by
  cases id with
  | none => exact Site.spares_self
  | some id => exact spares id

theorem withBody_spares {body : Body α} {next : α → ApiResponse × Site}
    (spares : ∀ req, body = .ok req → Site.Spares orgId site (next req).2) :
    Site.Spares orgId site (withBody site body next).2 := by
  cases body with
  | error message => exact Site.spares_self
  | ok req => exact spares req rfl

theorem withFound_spares {found : Except StoreError α} {next : α → ApiResponse × Site}
    (spares : ∀ value, found = .ok value → Site.Spares orgId site (next value).2) :
    Site.Spares orgId site (withFound site found next).2 := by
  cases found with
  | error e => exact Site.spares_self
  | ok value => exact spares value rfl

theorem withNameAndSlug_spares {name slug : Option String} {next : ApiResponse × Site}
    (spares : Site.Spares orgId site next.2) :
    Site.Spares orgId site (withNameAndSlug site name slug next).2 := by
  unfold withNameAndSlug
  split
  · exact Site.spares_self
  · split
    · exact Site.spares_self
    · exact spares

/-- The write mirrors one of the tenant. -/
theorem conclude_spares {γ : Type} {rel : α → γ → Prop} {result : Except StoreError α}
    {spec : Except StoreError γ} (mirrors : Mirrors rel result spec)
    {fails : StoreError → ApiResponse} {done : α → ApiResponse × Site}
    (spares : ∀ value value', rel value value' → Site.Spares orgId site (done value).2) :
    Site.Spares orgId site (conclude site result fails done).2 := by
  cases mirrors with
  | error e => exact Site.spares_self
  | ok related => exact spares _ _ related

end Steps

/-! ## Handlers -/

section Handlers

variable {env : ApiEnv} {orgId : UUID} {site : Site}

theorem Site.spares_updateOrganization {rewrite : Organization → Organization}
    (ids : ∀ org, (rewrite org).id = org.id) :
    Site.Spares orgId site
      { site with organizations := update (·.id = orgId) rewrite site.organizations } := by
  intro o other
  refine ⟨?_, rfl⟩
  rw [Site.tenant_updateOrganizations ids, updated_eq_self]
  rintro org ⟨_, here⟩ selected
  exact other (here.symm.trans selected)

theorem Site.updateOrg_spares {now : Timestamptz} {name slug : String} {site' : Site}
    (updates : site.updateOrg now orgId name slug = .ok site') : Site.Spares orgId site site' := by
  obtain ⟨db, written, rfl⟩ := succeeded_of_map updates
  obtain ⟨_, _, rfl⟩ := Database.updateOrg_spec written
  exact Site.spares_updateOrganization fun _ => rfl

theorem OrgHandler.ownOnly_spares {id : Option UUID} {next : UUID → ApiResponse × Site}
    (spares : Site.Spares orgId site (next orgId).2) :
    Site.Spares orgId site (OrgHandler.ownOnly orgId site id next).2 := by
  refine withId_spares fun id => ?_
  split
  · exact Site.spares_self
  next same =>
    rw [← not_not.mp same]
    exact spares

theorem OrgHandler.update_spares (id : Option UUID) (body : Body UpdateOrgRequest) :
    Site.Spares orgId site (OrgHandler.update env orgId site id body).2 := by
  refine OrgHandler.ownOnly_spares (withBody_spares fun req _ => withFound_spares fun org _ =>
    withNameAndSlug_spares ?_)
  dsimp only
  cases updates : site.updateOrg env.now orgId (req.name.getD org.name) (req.slug.getD org.slug) with
  | error e => exact Site.spares_self
  | ok site' => exact Site.updateOrg_spares updates

theorem ProjectHandler.update_spares (id : Option UUID) (body : Body UpdateProjectRequest) :
    Site.Spares orgId site (ProjectHandler.update env orgId site id body).2 := by
  refine withId_spares fun id => withBody_spares fun req _ => withFound_spares fun project _ =>
    withNameAndSlug_spares ?_
  exact conclude_spares (Site.updateProject_mirrors _ id _ _ _)
    fun _ _ confined => confined.spares trivial

variable (valid : site.Valid)
include valid

theorem ProjectHandler.create_spares (body : Body CreateProjectRequest) {fresh : UUID}
    (unused : ∀ p ∈ site.projects, p.id ≠ fresh) :
    Site.Spares orgId site (ProjectHandler.create env orgId site body fresh).2 := by
  refine withBody_spares fun req _ => ?_
  split
  · exact conclude_spares (Site.createProject_mirrors valid _ _ _ _ unused)
      fun _ _ confined => confined.spares trivial
  · exact Site.spares_self

theorem QueueHandler.create_spares (body : Body CreateQueueRequest) {fresh : UUID}
    (unused : ∀ q ∈ site.queues, q.id ≠ fresh) :
    Site.Spares orgId site (QueueHandler.create env orgId site body fresh).2 := by
  refine withBody_spares fun req _ => ?_
  split
  · refine withFound_spares fun project found => ?_
    split
    · exact Site.spares_self
    · exact conclude_spares
        (Site.createQueue_mirrors valid env.now unused (Site.owner_of_getProject found))
        fun _ _ confined => confined.spares trivial
  · exact Site.spares_self

theorem QueueHandler.update_spares (id : Option UUID) (body : Body UpdateQueueRequest) :
    Site.Spares orgId site (QueueHandler.update env orgId site id body).2 := by
  refine withId_spares fun id => withBody_spares fun req _ => withFound_spares fun queue _ =>
    withNameAndSlug_spares ?_
  split
  · exact Site.spares_self
  · exact conclude_spares (Site.updateQueue_mirrors valid env.now _)
      fun _ _ confined => confined.spares trivial

theorem QueueHandler.setPaused_spares (id : Option UUID) (paused : Bool) :
    Site.Spares orgId site (QueueHandler.setPaused env orgId site id paused).2 :=
  withId_spares fun id => conclude_spares (Site.setPaused_mirrors valid env.now id paused)
    fun _ _ confined => confined.spares trivial

theorem JobHandler.create_spares (queueId : Option UUID) (body : Body CreateJobRequest)
    {fresh : UUID} (unused : ∀ j ∈ site.jobs, j.id ≠ fresh) :
    Site.Spares orgId site (JobHandler.create env orgId site queueId body fresh).2 := by
  refine withId_spares fun id => withBody_spares fun req _ => withFound_spares fun queue found => ?_
  obtain ⟨member, _, owner⟩ := Site.owner_of_getQueue found
  split
  · exact Site.spares_self
  next input builds =>
    have mine : site.QueueIdOf orgId input.queueId :=
      ⟨queue, member, (buildJobInput_columns builds).1.symm, owner⟩
    exact conclude_spares (Site.createJob_mirrors valid env.now unused mine)
      fun _ _ answers => answers.1.spares trivial

theorem JobHandler.createBatch_spares (queueId : Option UUID)
    {body : Body (List (UUID × CreateJobRequest))} (batchId : UUID)
    (unused : ∀ jobs, body = .ok jobs → site.Unused (jobs.map (·.1))) :
    Site.Spares orgId site (JobHandler.createBatch env orgId site queueId body batchId).2 := by
  refine withId_spares fun id => withBody_spares fun jobs decoded => ?_
  split
  · exact Site.spares_self
  · split
    · exact Site.spares_self
    · refine withFound_spares fun queue found => ?_
      obtain ⟨member, _, owner⟩ := Site.owner_of_getQueue found
      split
      · exact Site.spares_self
      next inputs builds =>
        obtain ⟨ids, queues, _⟩ := buildInputs_columns builds
        have free := unused jobs decoded
        rw [← ids] at free
        refine conclude_spares (Site.createJobBatch_mirrors env.now inputs valid free.distinct
          free.jobs ?_) fun _ _ answers => answers.1.spares trivial
        intro entry listed
        exact ⟨queue, member, (queues entry listed).symm, owner⟩

variable (follow : site.LettersFollow)
include follow

theorem OrgHandler.delete_spares (id : Option UUID) :
    Site.Spares orgId site (OrgHandler.delete env orgId site id).2 :=
  OrgHandler.ownOnly_spares (conclude_spares (Site.deleteOrg_mirrors valid)
    fun _ _ confined => confined.spares follow)

theorem ProjectHandler.delete_spares (id : Option UUID) :
    Site.Spares orgId site (ProjectHandler.delete env orgId site id).2 :=
  withId_spares fun id => conclude_spares (Site.deleteProject_mirrors valid id)
    fun _ _ confined => confined.spares follow

theorem QueueHandler.delete_spares (id : Option UUID) :
    Site.Spares orgId site (QueueHandler.delete env orgId site id).2 :=
  withId_spares fun id => conclude_spares (Site.deleteQueue_mirrors valid id)
    fun _ _ confined => confined.spares follow

theorem JobHandler.retry_spares (id : Option UUID) :
    Site.Spares orgId site (JobHandler.retry env orgId site id).2 :=
  withId_spares fun id => conclude_spares (Site.retryDLQJob_mirrors valid env.now id)
    fun _ _ answers => answers.1.spares follow

end Handlers

/-! ## Every request -/

/-- A list request leaves the tables as they are. -/
theorem ProjectHandler.list_snd (env : ApiEnv) (orgId : UUID) (site : Site) (name : String)
    (page : PageQuery) : (ProjectHandler.list env orgId site name page).2 = site := by
  unfold ProjectHandler.list
  split <;> rfl

theorem QueueHandler.list_snd (env : ApiEnv) (orgId : UUID) (site : Site) (name : String)
    (isPaused : Param Bool) (projectId : Param UUID) (page : PageQuery) :
    (QueueHandler.list env orgId site name isPaused projectId page).2 = site := by
  unfold QueueHandler.list
  split <;> rfl

theorem JobHandler.listJobs_snd (env : ApiEnv) (orgId : UUID) (site : Site) (status : String)
    (queueId : Param UUID) (page : PageQuery) :
    (JobHandler.listJobs env orgId site status queueId page).2 = site := by
  unfold JobHandler.listJobs
  split <;> rfl

theorem handle_spares (env : ApiEnv) {orgId : UUID} {site : Site} (valid : site.Valid)
    (follow : site.LettersFollow) {request : ApiRequest} (unused : site.Unused request.drawn) :
    Site.Spares orgId site (request.handle env orgId site).2 := by
  cases request with
  | getOrg id =>
      exact OrgHandler.ownOnly_spares (withFound_spares fun _ _ => Site.spares_self)
  | updateOrg id body => exact OrgHandler.update_spares id body
  | deleteOrg id => exact OrgHandler.delete_spares valid follow id
  | listProjects name page =>
      rw [ApiRequest.handle, ProjectHandler.list_snd]
      exact Site.spares_self
  | createProject body fresh =>
      exact ProjectHandler.create_spares valid body unused.project_ne
  | getProject id =>
      exact withId_spares fun _ => withFound_spares fun _ _ => Site.spares_self
  | updateProject id body => exact ProjectHandler.update_spares id body
  | deleteProject id => exact ProjectHandler.delete_spares valid follow id
  | listQueues name isPaused projectId page =>
      rw [ApiRequest.handle, QueueHandler.list_snd]
      exact Site.spares_self
  | createQueue body fresh =>
      exact QueueHandler.create_spares valid body unused.queue_ne
  | getQueue id =>
      exact withId_spares fun _ => withFound_spares fun _ _ => Site.spares_self
  | updateQueue id body => exact QueueHandler.update_spares valid id body
  | deleteQueue id => exact QueueHandler.delete_spares valid follow id
  | pauseQueue id => exact QueueHandler.setPaused_spares valid id true
  | resumeQueue id => exact QueueHandler.setPaused_spares valid id false
  | createJob queueId body fresh =>
      exact JobHandler.create_spares valid queueId body unused.job_ne
  | createBatch queueId body batchId =>
      refine JobHandler.createBatch_spares valid queueId batchId ?_
      rintro jobs rfl
      exact unused
  | retryJob id => exact JobHandler.retry_spares valid follow id
  | listJobs status queueId page =>
      rw [ApiRequest.handle, JobHandler.listJobs_snd]
      exact Site.spares_self
  | getJob id =>
      exact withId_spares fun _ => withFound_spares fun _ _ => Site.spares_self
  | getExecutions id => exact withId_spares fun _ => Site.spares_self
  | getLogs id => exact withId_spares fun _ => Site.spares_self
  | listByQueue queueId status page => exact withId_spares fun _ => Site.spares_self
  | listDLQ page => exact Site.spares_self
  | queueStats queueId =>
      refine withId_spares fun id => withFound_spares fun _ _ => ?_
      split <;> exact Site.spares_self
  | listWorkers => exact Site.spares_self

/-- A database with two organizations, `1` and `2`, that have a dead-lettered job each. -/
def twoOrganizations : Site where
  organizations := [⟨1, "first", "first", 0, 0⟩, ⟨2, "second", "second", 0, 0⟩]
  users := [⟨5, 1, "a@first", "a", "admin", "hash", 0, 0⟩,
    ⟨6, 2, "b@second", "b", "admin", "hash", 0, 0⟩]
  projects := [⟨10, 1, "project", "project", none, 0, 0⟩,
    ⟨20, 2, "project", "project", none, 0, 0⟩]
  retryPolicies := []
  queues := [⟨100, 10, "queue", "queue", none, 0, none, false, 0, 0⟩,
    ⟨200, 20, "queue", "queue", none, 0, none, false, 0, 0⟩]
  workers := []
  workerHeartbeats := []
  jobs := [deadJob 1000 100, deadJob 2000 200]
  executions := []
  logs := []
  letters := [⟨1, ⟨1000, 100, .null, 0, none, 3, 0⟩⟩, ⟨2, ⟨2000, 200, .null, 0, none, 3, 0⟩⟩]
where
  deadJob (id queueId : UUID) : Job :=
    ⟨id, queueId, .deadLetter, 0, .null, none, none, 3, 3, none, none, none, none, none, some 0,
      none, none, none, 0, 0⟩

theorem twoOrganizations_valid : twoOrganizations.Valid where
  organizationKeys := by decide
  projectKeys := by decide
  queueKeys := by decide
  jobKeys := by decide
  executionKeys := by decide
  logKeys := by decide
  letterKeys := by decide
  queueProjects := by decide
  jobQueues := by decide
  executionJobs := by decide
  logJobs := by decide
  letterJobs := by decide
  letterQueues := by decide
  idempotencyKeys := by simp [twoOrganizations, twoOrganizations.deadJob]

theorem twoOrganizations_lettersFollow : twoOrganizations.LettersFollow := by
  unfold Site.LettersFollow
  decide

/-- No cron expression parses, no name matches, and nothing ties. -/
def plainEnv : ApiEnv where
  cron _ := .error "unsupported"
  ilike _ _ := false
  idText id := toString id
  rank _ := 0
  instant := 0
  now := 0

theorem handle_spares_retry :
    ((ApiRequest.retryJob (some 1000)).handle plainEnv 1 twoOrganizations).1.status = 200 ∧
      Site.Spares 1 twoOrganizations
        ((ApiRequest.retryJob (some 1000)).handle plainEnv 1 twoOrganizations).2 :=
  ⟨by decide, handle_spares plainEnv twoOrganizations_valid twoOrganizations_lettersFollow
    Site.unused_nil⟩

end JobScheduler
