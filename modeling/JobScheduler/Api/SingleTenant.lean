import JobScheduler.Api.Tenant
import JobScheduler.Transition.Outcome

/-!
# The store of a single tenant

The writes of the store as they would be in a database of one organization. None of them
checks an owner, because every row has the same.

On the tables of all organizations, each write of the store mirrors the write here on the
tenant of the caller: it fails with the same error, or it does the same to that tenant and
leaves the other tenants as they are. A write that is answered from rows of a foreign tenant,
or that reaches them, mirrors none of these.
-/

set_option autoImplicit false

namespace JobScheduler

open Relational Transition

namespace Tenant

variable (t : Tenant)

/-! ## Organizations and projects -/

open Classical in
noncomputable def deleteOrg : Except StoreError Tenant :=
  if ¬ t.organizations.Nonempty then .error .notFound else .ok nothing

open Classical in
noncomputable def createProject (project : Project) : Except StoreError Tenant :=
  if ¬ t.organizations.Nonempty then .error .foreignKeyViolation
  else if ∃ p ∈ t.projects, p.slug = project.slug then .error .conflict
  else .ok { t with projects := insert project t.projects }

open Classical in
noncomputable def updateProject (now : Timestamptz) (id : UUID) (name slug : String)
    (description : Option String) : Except StoreError Tenant :=
  if ¬ ∃ p ∈ t.projects, p.id = id then .error .notFound
  else if ∃ p ∈ t.projects, p.id ≠ id ∧ p.slug = slug then .error .conflict
  else .ok (t.mapProjects id fun p => { p with
    name := name, slug := slug, description := description, updatedAt := now })

open Classical in
noncomputable def deleteProject (id : UUID) : Except StoreError Tenant :=
  if ¬ ∃ p ∈ t.projects, p.id = id then .error .notFound else .ok (t.dropProjects {id})

/-! ## Queues -/

/-- The identifiers of the retry policies are shared by all tenants. -/
def PolicyKnown (policies : Set UUID) (policy : Option UUID) : Prop := ∀ id ∈ policy, id ∈ policies

open Classical in
noncomputable def createQueue (policies : Set UUID) (now : Timestamptz) (queue : Queue) :
    Except StoreError Tenant :=
  if ¬ (InInt4 queue.priorityDefault ∧ ∀ limit ∈ queue.concurrencyLimit, InInt4 limit) then
    .error .numericOutOfRange
  else if ∃ q ∈ t.queues, q.projectId = queue.projectId ∧ q.slug = queue.slug then
    .error .conflict
  else if ¬ (∃ p ∈ t.projects, p.id = queue.projectId) ∨
      ¬ PolicyKnown policies queue.retryPolicyId then
    .error .foreignKeyViolation
  else .ok { t with queues := insert { queue with createdAt := now, updatedAt := now } t.queues }

open Classical in
noncomputable def updateQueue (policies : Set UUID) (now : Timestamptz) (queue : Queue) :
    Except StoreError Tenant :=
  if ¬ (InInt4 queue.priorityDefault ∧ ∀ limit ∈ queue.concurrencyLimit, InInt4 limit) then
    .error .numericOutOfRange
  else if ¬ ∃ q ∈ t.queues, q.id = queue.id then .error .notFound
  else if ∃ q ∈ t.queues, q.id = queue.id ∧
      ∃ other ∈ t.queues, other.id ≠ q.id ∧ other.projectId = q.projectId ∧
        other.slug = queue.slug then
    .error .conflict
  else if ¬ PolicyKnown policies queue.retryPolicyId then .error .foreignKeyViolation
  else .ok (t.mapQueues queue.id fun q => { q with
    name := queue.name
    slug := queue.slug
    retryPolicyId := queue.retryPolicyId
    priorityDefault := queue.priorityDefault
    concurrencyLimit := queue.concurrencyLimit
    paused := queue.paused
    updatedAt := now })

open Classical in
noncomputable def deleteQueue (id : UUID) : Except StoreError Tenant :=
  if ¬ ∃ q ∈ t.queues, q.id = id then .error .notFound else .ok (t.dropQueues {id})

open Classical in
noncomputable def setPaused (now : Timestamptz) (id : UUID) (paused : Bool) :
    Except StoreError Tenant :=
  if ¬ ∃ q ∈ t.queues, q.id = id then .error .notFound
  else .ok (t.mapQueues id fun q => { q with paused := paused, updatedAt := now })

/-! ## Jobs -/

/-- The job holds the idempotency key of the input in its queue. -/
def Holds (input : CreateJobInput) (job : Job) : Prop :=
  job.queueId = input.queueId ∧ job.idempotencyKey.isSome ∧
    job.idempotencyKey = input.idempotencyKey

open Classical in
noncomputable def createJob (now : Timestamptz) (id : UUID) (input : CreateJobInput) :
    Except StoreError (Tenant × CreateJobResult) :=
  if ¬ (InInt4 input.priority ∧ InInt4 input.maxAttempts) then .error .numericOutOfRange
  else if held : ∃ j ∈ t.jobs, Holds input j then .ok (t, ⟨held.choose, false⟩)
  else if ¬ ∃ q ∈ t.queues, q.id = input.queueId then .error .foreignKeyViolation
  else .ok ({ t with jobs := insert (Job.inserted now id input) t.jobs },
    ⟨Job.inserted now id input, true⟩)

noncomputable def createJobBatch (now : Timestamptz) :
    List (UUID × CreateJobInput) → Tenant → Except StoreError (Tenant × List Job)
  | [], t => .ok (t, [])
  | (id, input) :: rest, t =>
      match t.createJob now id input with
      | .error e => .error e
      | .ok (t', result) =>
          match createJobBatch now rest t' with
          | .error e => .error e
          | .ok (t'', jobs) => .ok (t'', result.job :: jobs)

open Classical in
noncomputable def retryDLQJob (now : Timestamptz) (id : UUID) : Except StoreError (Tenant × Job) :=
  if found : ∃ j ∈ t.jobs, j.id = id ∧ j.status = .deadLetter then
    .ok (t.retry id (Job.retryDLQ now), found.choose.retryDLQ now)
  else .error .notFound

end Tenant

namespace Site

/-- The users of an organization. -/
def usersOf (site : Site) (orgId : UUID) : Set User := {u | u ∈ site.users ∧ u.orgId = orgId}

/-- The identifiers of the retry policies. -/
def policies (site : Site) : Set UUID := {id | ∃ p ∈ site.retryPolicies, p.id = id}

/-- A change of the tables that ends in this tenant for the caller and, where the assumption
holds, is confined to it. -/
structure Confined (given : Prop) (orgId : UUID) (site site' : Site) (tenant' : Tenant) :
    Prop where
  own : site'.tenant orgId = tenant'
  others : given → ∀ o, o ≠ orgId → site'.tenant o = site.tenant o
  users : ∀ o, o ≠ orgId → site'.usersOf o = site.usersOf o
  retryPolicies : site'.retryPolicies = site.retryPolicies

variable {site : Site} {orgId : UUID}

theorem confined_self {given : Prop} :
    Confined given orgId site site (site.tenant orgId) where
  own := rfl
  others _ _ _ := rfl
  users _ _ := rfl
  retryPolicies := rfl

theorem Confined.trans {given : Prop} {site' site'' : Site} {t' t'' : Tenant}
    (first : Confined given orgId site site' t') (second : Confined given orgId site' site'' t'') :
    Confined given orgId site site'' t'' where
  own := second.own
  others holds o other := (second.others holds o other).trans (first.others holds o other)
  users o other := (second.users o other).trans (first.users o other)
  retryPolicies := second.retryPolicies.trans first.retryPolicies

/-! ## Projects -/

section Projects

variable {id : UUID} {rewrite : Project → Project}

theorem confined_insertProject (valid : site.Valid) {project : Project}
    (fresh : ∀ p ∈ site.projects, p.id ≠ project.id) (owner : project.orgId = orgId) :
    Confined True orgId site { site with projects := site.projects ++ [project] }
      { site.tenant orgId with projects := insert project (site.tenant orgId).projects } where
  own := by
    rw [tenant_insertProject valid fresh,
      rows_append_of_owned (fun (p : Project) => p.orgId = orgId) owner]
    rfl
  others _ o other := by
    rw [tenant_insertProject valid fresh,
      rows_append_of_not_owned (fun (p : Project) => p.orgId = o) ?_]
    · rfl
    · exact fun here => other (here.symm.trans owner)
  users _ _ := rfl
  retryPolicies := rfl

theorem confined_updateProject (ids : ∀ p, (rewrite p).id = p.id)
    (orgs : ∀ p, (rewrite p).orgId = p.orgId) :
    Confined True orgId site
      { site with
        projects := update (fun p => p.id = id ∧ p.orgId = orgId) rewrite site.projects }
      ((site.tenant orgId).mapProjects id rewrite) where
  own := by
    rw [tenant_updateProjects ids orgs]
    refine congrArg (fun rows => { site.tenant orgId with projects := rows }) ?_
    exact updated_congr fun p member => and_iff_left member.2
  others _ o other := by
    rw [tenant_updateProjects ids orgs, updated_eq_self]
    rintro p ⟨_, here⟩ ⟨_, selected⟩
    exact other (here.symm.trans selected)
  users _ _ := rfl
  retryPolicies := rfl

/-- The queues of projects of the organization are the organization's. -/
theorem owner_of_queuesOf {gone : List UUID}
    (mine : ∀ id ∈ gone, ∃ p ∈ site.projects, p.id = id ∧ p.orgId = orgId) {id : UUID}
    (inside : id ∈ site.queuesOf gone) : site.QueueIdOf orgId id := by
  obtain ⟨q, listed, rfl⟩ := List.mem_map.mp inside
  obtain ⟨member, project⟩ := List.mem_filter.mp listed
  exact ⟨q, member, rfl, mine _ (of_decide_eq_true project)⟩

theorem confined_deleteProjects (valid : site.Valid) {gone : List UUID}
    (mine : ∀ id ∈ gone, ∃ p ∈ site.projects, p.id = id ∧ p.orgId = orgId) :
    Confined site.LettersFollow orgId site (site.deleteProjects gone)
      ((site.tenant orgId).dropProjects {id | id ∈ gone}) where
  own := tenant_deleteProjects valid fun _ _ _ _ _ _ inside => owner_of_queuesOf mine inside
  others follow o other := by
    rw [tenant_deleteProjects valid (follow.stay o _), Tenant.dropProjects_eq_self]
    · rintro p ⟨member, here⟩ inside
      obtain ⟨p', member', same, owner⟩ := mine p.id inside
      rw [eq_of_key_eq valid.projectKeys member' member same] at owner
      exact other (here.symm.trans owner)
    · rintro q ⟨_, here⟩ inside
      exact other (valid.queue_owner here (mine q.projectId inside))
  users _ _ := rfl
  retryPolicies := rfl

end Projects

/-! ## Queues -/

section Queues

variable {id : UUID} {rewrite : Queue → Queue}

theorem confined_insertQueue (valid : site.Valid) {queue : Queue}
    (fresh : ∀ q ∈ site.queues, q.id ≠ queue.id) (owner : site.QueueOf orgId queue) :
    Confined True orgId site { site with queues := site.queues ++ [queue] }
      { site.tenant orgId with queues := insert queue (site.tenant orgId).queues } where
  own := by
    rw [tenant_insertQueue valid fresh, rows_append_of_owned (site.QueueOf orgId) owner]
    rfl
  others _ o other := by
    rw [tenant_insertQueue valid fresh, rows_append_of_not_owned (site.QueueOf o) ?_]
    · rfl
    · exact fun here => other (valid.queue_owner here owner)
  users _ _ := rfl
  retryPolicies := rfl

theorem confined_updateQueue (valid : site.Valid) (ids : ∀ q, (rewrite q).id = q.id)
    (projects : ∀ q, (rewrite q).projectId = q.projectId) :
    Confined True orgId site
      { site with
        queues := update (fun q => q.id = id ∧ site.QueueOf orgId q) rewrite site.queues }
      ((site.tenant orgId).mapQueues id rewrite) where
  own := by
    rw [tenant_updateQueues ids projects]
    refine congrArg (fun rows => { site.tenant orgId with queues := rows }) ?_
    exact updated_congr fun q member => and_iff_left member.2
  others _ o other := by
    rw [tenant_updateQueues ids projects, updated_eq_self]
    rintro q ⟨_, here⟩ ⟨_, selected⟩
    exact other (valid.queue_owner here selected)
  users _ _ := rfl
  retryPolicies := rfl

theorem confined_deleteQueues (valid : site.Valid) {gone : List UUID}
    (mine : ∀ id ∈ gone, site.QueueIdOf orgId id) :
    Confined site.LettersFollow orgId site (site.deleteQueues gone)
      ((site.tenant orgId).dropQueues {id | id ∈ gone}) where
  own := tenant_deleteQueues valid fun _ _ _ _ _ _ inside => mine _ inside
  others follow o other := by
    have foreign : ∀ id, site.QueueIdOf o id → (id ∈ {id | id ∈ gone} ↔ id ∈ (∅ : Set UUID)) := by
      intro id here
      refine iff_of_false ?_ (Set.notMem_empty id)
      intro inside
      exact other (valid.queueId_owner here (mine id inside))
    rw [tenant_deleteQueues valid (follow.stay o gone)]
    refine (Tenant.dropQueues_congr ?_ ?_ ?_).trans Tenant.dropQueues_empty
    · rintro q ⟨member, here⟩
      exact foreign q.id ⟨q, member, rfl, here⟩
    · rintro j ⟨_, here⟩
      exact foreign j.queueId here
    · rintro d ⟨_, here⟩
      exact foreign d.entry.originalQueueId here
  users _ _ := rfl
  retryPolicies := rfl

end Queues

/-! ## Jobs -/

theorem confined_insertJob (valid : site.Valid) {job : Job}
    (fresh : ∀ j ∈ site.jobs, j.id ≠ job.id) (owner : site.QueueIdOf orgId job.queueId) :
    Confined True orgId site { site with jobs := site.jobs ++ [job] }
      { site.tenant orgId with jobs := insert job (site.tenant orgId).jobs } := by
  have unused : ∀ j ∈ site.jobs, ∀ row ∈ [job], j.id ≠ row.id := by
    intro j member row listed
    rw [List.mem_singleton.mp listed]
    exact fresh j member
  refine ⟨?_, ?_, fun _ _ => rfl, rfl⟩
  · rw [tenant_insertJobs valid unused,
      rows_append_of_owned (fun (j : Job) => site.QueueIdOf orgId j.queueId) owner]
    rfl
  · intro _ o other
    rw [tenant_insertJobs valid unused,
      rows_append_of_not_owned (fun (j : Job) => site.QueueIdOf o j.queueId) ?_]
    · rfl
    · exact fun here => other (valid.queueId_owner here owner)

/-- Taking a job of the organization out of the dead-letter queue. -/
theorem confined_retry (valid : site.Valid) {id : UUID} {rewrite : Job → Job}
    (ids : ∀ j, (rewrite j).id = j.id) (queues : ∀ j, (rewrite j).queueId = j.queueId)
    (owner : site.JobIdOf orgId id) :
    Confined site.LettersFollow orgId site
      { site with
        jobs := update (·.id = id) rewrite site.jobs
        letters := site.letters.filter (·.entry.jobId ≠ id) }
      ((site.tenant orgId).retry id rewrite) := by
  have effect : ∀ o, tenant
      { site with
        jobs := update (·.id = id) rewrite site.jobs
        letters := site.letters.filter (·.entry.jobId ≠ id) } o =
      (site.tenant o).retry id rewrite := tenant_retry ids queues id
  refine ⟨effect orgId, ?_, fun _ _ => rfl, rfl⟩
  intro follow o other
  obtain ⟨j, job, same, owner⟩ := owner
  rw [effect o]
  unfold Tenant.retry
  rw [updated_eq_self]
  · refine congrArg (fun rows => { site.tenant o with letters := rows }) ?_
    ext d
    refine and_iff_left_of_imp ?_
    rintro ⟨letter, here⟩ about
    rw [follow d letter j job (same.trans about.symm)] at here
    exact other (valid.queueId_owner here owner)
  · rintro j' ⟨job', here⟩ about
    rw [eq_of_key_eq valid.jobKeys job' job (about.trans same.symm)] at here
    exact other (valid.queueId_owner here owner)


/-! ## The store mirrors the store of the tenant -/

/-- A row of the organization with a property, in the tables and in the tenant. -/
theorem exists_owned_iff {α : Type} {table : List α} {property owned : α → Prop} :
    (∃ row ∈ table, property row ∧ owned row) ↔
      ∃ row, (row ∈ table ∧ owned row) ∧ property row := by
  refine exists_congr fun row => ?_
  rw [and_comm (a := property row), and_assoc]

theorem setOf_mem_singleton (id : UUID) : {id' : UUID | id' ∈ [id]} = {id} := by
  ext id'
  exact List.mem_singleton

/-- A queue has the owner of its project. -/
theorem queueOf_of_projectId {q q' : Queue} (same : q.projectId = q'.projectId)
    (owner : site.QueueOf orgId q') : site.QueueOf orgId q := by
  obtain ⟨p, member, id, owner⟩ := owner
  exact ⟨p, member, id.trans same.symm, owner⟩

/-- The organization exists. -/
theorem organizations_nonempty_iff :
    (∃ o ∈ site.organizations, o.id = orgId) ↔ (site.tenant orgId).organizations.Nonempty :=
  exists_congr fun _ => Iff.rfl

/-- Deleting all projects of an organization leaves nothing in them. -/
theorem dropProjects_all :
    { (site.tenant orgId).dropProjects
        {id | id ∈ (site.projects.filter (·.orgId = orgId)).map (·.id)} with
      organizations := ∅ } = Tenant.nothing := by
  have project : ∀ p ∈ site.projects, p.orgId = orgId →
      p.id ∈ (site.projects.filter (·.orgId = orgId)).map (·.id) := by
    intro p member owner
    exact List.mem_map.mpr ⟨p, List.mem_filter.mpr ⟨member, decide_eq_true owner⟩, rfl⟩
  have queue : ∀ id, site.QueueIdOf orgId id → id ∈ (site.tenant orgId).queuesIn
      {id | id ∈ (site.projects.filter (·.orgId = orgId)).map (·.id)} := by
    rintro id ⟨q, member, rfl, p, parent, same, owner⟩
    refine ⟨q, ⟨member, p, parent, same, owner⟩, ?_, rfl⟩
    rw [← same]
    exact project p parent owner
  have job : ∀ id, site.JobIdOf orgId id → id ∈ (site.tenant orgId).jobsIn
      ((site.tenant orgId).queuesIn
        {id | id ∈ (site.projects.filter (·.orgId = orgId)).map (·.id)}) := by
    rintro id ⟨j, member, rfl, owner⟩
    exact ⟨j, ⟨member, owner⟩, queue _ owner, rfl⟩
  refine Tenant.ext rfl ?_ ?_ ?_ ?_ ?_ ?_
  · refine Set.eq_empty_of_forall_notMem ?_
    rintro p ⟨⟨member, owner⟩, kept⟩
    exact kept (project p member owner)
  · refine Set.eq_empty_of_forall_notMem ?_
    rintro q ⟨⟨member, owner⟩, kept⟩
    exact kept (queue q.id ⟨q, member, rfl, owner⟩)
  · refine Set.eq_empty_of_forall_notMem ?_
    rintro j ⟨⟨_, owner⟩, kept⟩
    exact kept (queue j.queueId owner)
  · refine Set.eq_empty_of_forall_notMem ?_
    rintro e ⟨⟨_, owner⟩, kept⟩
    exact kept (job e.jobId owner)
  · refine Set.eq_empty_of_forall_notMem ?_
    rintro l ⟨⟨_, owner⟩, kept⟩
    exact kept (job l.jobId owner)
  · refine Set.eq_empty_of_forall_notMem ?_
    rintro d ⟨⟨_, owner⟩, _, kept⟩
    exact kept (queue d.entry.originalQueueId owner)

theorem deleteOrg_mirrors (valid : site.Valid) :
    Mirrors (Confined site.LettersFollow orgId site) (site.deleteOrg orgId)
      (site.tenant orgId).deleteOrg := by
  unfold deleteOrg Database.deleteOrg Tenant.deleteOrg
  refine .map (.check (not_congr organizations_nonempty_iff) fun _ => .ok ?_)
  have mine : ∀ id ∈ (site.projects.filter (·.orgId = orgId)).map (·.id),
      ∃ p ∈ site.projects, p.id = id ∧ p.orgId = orgId := by
    intro id listed
    obtain ⟨p, listed, same⟩ := List.mem_map.mp listed
    obtain ⟨member, owner⟩ := List.mem_filter.mp listed
    exact ⟨p, member, same, of_decide_eq_true owner⟩
  have deleted := confined_deleteProjects valid mine
  have kept : ∀ {o id : UUID}, o ≠ orgId → id = o → id ≠ orgId := by
    rintro o _ other rfl
    exact other
  refine ⟨?_, ?_, ?_, rfl⟩
  · rw [← dropProjects_all, ← deleted.own]
    refine congrArg (fun rows => { (site.deleteProjects _).tenant orgId with
      organizations := rows }) ?_
    refine Set.eq_empty_of_forall_notMem ?_
    rintro o ⟨listed, here⟩
    exact of_decide_eq_true (List.mem_filter.mp listed).2 here
  · intro follow o other
    rw [← deleted.others follow o other]
    refine congrArg (fun rows => { (site.deleteProjects _).tenant o with
      organizations := rows }) ?_
    ext org
    refine and_congr_left fun here => ?_
    rw [List.mem_filter, decide_eq_true_eq]
    exact and_iff_left (kept other here)
  · intro o other
    ext u
    refine and_congr_left fun here => ?_
    rw [List.mem_filter, decide_eq_true_eq]
    exact and_iff_left (kept other here)

theorem createProject_mirrors (valid : site.Valid) (now : Timestamptz) {id : UUID}
    (name slug : String) (description : Option String) (fresh : ∀ p ∈ site.projects, p.id ≠ id) :
    Mirrors (Confined True orgId site) (site.createProject now id orgId name slug description)
      ((site.tenant orgId).createProject ⟨id, orgId, name, slug, description, now, now⟩) := by
  unfold createProject Database.createProject Tenant.createProject
  refine .map (.check (not_congr organizations_nonempty_iff) fun _ => .check ?_ fun _ => .ok ?_)
  · exact exists_congr fun p => and_assoc.symm
  · exact confined_insertProject valid fresh rfl

theorem updateProject_mirrors (now : Timestamptz) (id : UUID) (name slug : String)
    (description : Option String) :
    Mirrors (Confined True orgId site) (site.updateProject now id orgId name slug description)
      ((site.tenant orgId).updateProject now id name slug description) := by
  unfold updateProject Database.updateProject Tenant.updateProject
  refine .map (.check (not_congr exists_owned_iff) fun _ => .check ?_ fun _ => .ok ?_)
  · constructor
    · rintro ⟨p, member, elsewhere, owner, same⟩
      exact ⟨p, ⟨member, owner⟩, elsewhere, same⟩
    · rintro ⟨p, ⟨member, owner⟩, elsewhere, same⟩
      exact ⟨p, member, elsewhere, owner, same⟩
  · exact confined_updateProject (fun _ => rfl) fun _ => rfl

theorem deleteProject_mirrors (valid : site.Valid) (id : UUID) :
    Mirrors (Confined site.LettersFollow orgId site) (site.deleteProject id orgId)
      ((site.tenant orgId).deleteProject id) := by
  unfold deleteProject Database.deleteProject Tenant.deleteProject
  refine .map (.check (not_congr exists_owned_iff) fun found => .ok ?_)
  rw [← setOf_mem_singleton]
  refine confined_deleteProjects valid ?_
  intro id' listed
  rw [List.mem_singleton.mp listed]
  exact not_not.mp found

theorem createQueue_mirrors (valid : site.Valid) (now : Timestamptz) {queue : Queue}
    (fresh : ∀ q ∈ site.queues, q.id ≠ queue.id) (owner : site.QueueOf orgId queue) :
    Mirrors (Confined True orgId site) (site.createQueue now queue)
      ((site.tenant orgId).createQueue site.policies now queue) := by
  unfold createQueue Database.createQueue Tenant.createQueue
  refine .map (.check Iff.rfl fun _ => .check ?_ fun _ => .check (or_congr ?_ ?_) fun _ => .ok ?_)
  · constructor
    · rintro ⟨q, member, project, same⟩
      refine ⟨q, ⟨member, ?_⟩, project, same⟩
      exact queueOf_of_projectId project owner
    · rintro ⟨q, ⟨member, _⟩, project, same⟩
      exact ⟨q, member, project, same⟩
  · obtain ⟨p, member, same, owner⟩ := owner
    exact not_congr ⟨fun _ => ⟨p, ⟨member, owner⟩, same⟩, fun _ => ⟨p, member, same⟩⟩
  · exact Iff.rfl
  · exact confined_insertQueue valid fresh owner

theorem updateQueue_mirrors (valid : site.Valid) (now : Timestamptz) (queue : Queue) :
    Mirrors (Confined True orgId site) (site.updateQueue now queue orgId)
      ((site.tenant orgId).updateQueue site.policies now queue) := by
  unfold updateQueue Database.updateQueue Tenant.updateQueue
  refine .map (.check Iff.rfl fun _ => .check (not_congr exists_owned_iff) fun found =>
    .check ?_ fun _ => .check Iff.rfl fun _ => .ok ?_)
  · obtain ⟨q', member', id', owner⟩ := not_not.mp found
    constructor
    · rintro ⟨q, member, id, other, listed, elsewhere, project, same⟩
      rw [eq_of_key_eq valid.queueKeys member' member (id'.trans id.symm)] at owner
      exact ⟨q, ⟨member, owner⟩, id, other, ⟨listed, queueOf_of_projectId project owner⟩,
        elsewhere, project, same⟩
    · rintro ⟨q, ⟨member, _⟩, id, other, ⟨listed, _⟩, elsewhere, project, same⟩
      exact ⟨q, member, id, other, listed, elsewhere, project, same⟩
  · exact confined_updateQueue valid (fun _ => rfl) fun _ => rfl

theorem deleteQueue_mirrors (valid : site.Valid) (id : UUID) :
    Mirrors (Confined site.LettersFollow orgId site) (site.deleteQueue id orgId)
      ((site.tenant orgId).deleteQueue id) := by
  unfold deleteQueue Database.deleteQueue Tenant.deleteQueue
  refine .map (.check (not_congr exists_owned_iff) fun found => .ok ?_)
  rw [← setOf_mem_singleton]
  refine confined_deleteQueues valid ?_
  intro id' listed
  rw [List.mem_singleton.mp listed]
  exact not_not.mp found

theorem setPaused_mirrors (valid : site.Valid) (now : Timestamptz) (id : UUID) (paused : Bool) :
    Mirrors (Confined True orgId site) (site.setPaused now id orgId paused)
      ((site.tenant orgId).setPaused now id paused) := by
  unfold setPaused Database.setPaused Tenant.setPaused
  refine .map (.check (not_congr exists_owned_iff) fun _ => .ok ?_)
  exact confined_updateQueue valid (fun _ => rfl) fun _ => rfl

/-! ## Jobs and batches -/

/-- A new job keeps the constraints of the schema. -/
theorem Valid.insertJob (valid : site.Valid) {job : Job} (fresh : ∀ j ∈ site.jobs, j.id ≠ job.id)
    (queue : ∃ q ∈ site.queues, q.id = job.queueId)
    (unkeyed : ∀ j ∈ site.jobs, j.queueId = job.queueId → j.idempotencyKey.isSome →
      j.idempotencyKey ≠ job.idempotencyKey) :
    Valid { site with jobs := site.jobs ++ [job] } := by
  have kept : ∀ {id : UUID}, (∃ j ∈ site.jobs, j.id = id) →
      ∃ j ∈ site.jobs ++ [job], j.id = id := by
    rintro id ⟨j, member, same⟩
    exact ⟨j, List.mem_append_left _ member, same⟩
  refine { valid with
    jobKeys := ?_
    jobQueues := ?_
    executionJobs := fun e member => kept (valid.executionJobs e member)
    logJobs := fun l member => kept (valid.logJobs l member)
    letterJobs := fun d member => kept (valid.letterJobs d member)
    idempotencyKeys := ?_ }
  · rw [List.map_append, List.nodup_append]
    refine ⟨valid.jobKeys, List.nodup_singleton _, ?_⟩
    intro id listed id' listed'
    obtain ⟨j, member, rfl⟩ := List.mem_map.mp listed
    rw [List.mem_singleton.mp listed']
    exact fresh j member
  · intro j listed
    rcases List.mem_append.mp listed with old | new
    · exact valid.jobQueues j old
    · rw [List.mem_singleton.mp new]
      exact queue
  · intro j listed j' listed' sameQueue keyed sameKey
    rcases List.mem_append.mp listed with old | new <;>
      rcases List.mem_append.mp listed' with old' | new'
    · exact valid.idempotencyKeys j old j' old' sameQueue keyed sameKey
    · rw [List.mem_singleton.mp new'] at sameQueue sameKey
      exact absurd sameKey (unkeyed j old sameQueue keyed)
    · rw [List.mem_singleton.mp new] at sameQueue sameKey keyed
      exact absurd sameKey.symm (unkeyed j' old' sameQueue.symm (sameKey ▸ keyed))
    · rw [List.mem_singleton.mp new, List.mem_singleton.mp new']

/-- A change and the result that is answered with. -/
def Answers {β : Type} (given : Prop) (orgId : UUID) (site : Site) (done : Site × β)
    (done' : Tenant × β) : Prop :=
  Confined given orgId site done.1 done'.1 ∧ done.2 = done'.2

theorem createJob_mirrors (valid : site.Valid) (now : Timestamptz) {id : UUID}
    {input : CreateJobInput} (fresh : ∀ j ∈ site.jobs, j.id ≠ id)
    (owner : site.QueueIdOf orgId input.queueId) :
    Mirrors (Answers True orgId site) (site.createJob now id input)
      ((site.tenant orgId).createJob now id input) := by
  unfold createJob Database.createJob Tenant.createJob
  refine .map (.check Iff.rfl fun _ => ?_)
  cases found : site.core.jobs.find? fun job => job.queueId = input.queueId ∧
      job.idempotencyKey.isSome ∧ job.idempotencyKey = input.idempotencyKey with
  | some existing =>
      have member := List.mem_of_find?_eq_some found
      have selected := List.find?_some found
      rw [decide_eq_true_eq] at selected
      have holds : Tenant.Holds input existing := selected
      have held : ∃ j ∈ (site.tenant orgId).jobs, Tenant.Holds input j :=
        ⟨existing, ⟨member, holds.1 ▸ owner⟩, holds⟩
      rw [dif_pos held]
      refine .ok ⟨confined_self, ?_⟩
      -- the key belongs to one job of the queue
      obtain ⟨⟨member', _⟩, holds'⟩ := held.choose_spec
      have same : existing = held.choose :=
        valid.idempotencyKeys existing member _ member' (holds.1.trans holds'.1.symm) holds.2.1
          (holds.2.2.trans holds'.2.2.symm)
      exact congrArg (fun job => (⟨job, false⟩ : CreateJobResult)) same
  | none =>
      have free : ¬ ∃ j ∈ (site.tenant orgId).jobs, Tenant.Holds input j := by
        rintro ⟨j, ⟨member, _⟩, holds⟩
        exact List.find?_eq_none.mp found j member (decide_eq_true holds)
      rw [dif_neg free]
      refine .check (not_congr ?_) fun _ => .ok ⟨?_, rfl⟩
      · obtain ⟨q, member, same, owner⟩ := owner
        exact ⟨fun _ => ⟨q, ⟨member, owner⟩, same⟩, fun _ => ⟨q, member, same⟩⟩
      · exact confined_insertJob valid fresh owner


/-- A successful `Create` returns the tables or the tables with the row. -/
theorem createJob_cases {now : Timestamptz} {id : UUID} {input : CreateJobInput}
    {done : Site × CreateJobResult} (creates : site.createJob now id input = .ok done) :
    done.1 = site ∨
      done.1 = { site with jobs := site.jobs ++ [Job.inserted now id input] } ∧
      (∃ q ∈ site.queues, q.id = input.queueId) ∧
      ∀ job ∈ site.jobs, job.queueId = input.queueId → job.idempotencyKey.isSome →
        job.idempotencyKey ≠ input.idempotencyKey := by
  unfold createJob at creates
  cases made : site.core.createJob now id input with
  | error e =>
      rw [made] at creates
      cases creates
  | ok done' =>
      obtain ⟨db, result⟩ := done'
      rw [made] at creates
      cases creates
      rcases site.core.createJob_spec made with rfl | ⟨rfl, queue, free⟩
      · exact .inl rfl
      · exact .inr ⟨rfl, queue, free⟩

/-- A successful `Create` keeps the constraints of the schema and the owners of queues. -/
theorem createJob_keeps (valid : site.Valid) {now : Timestamptz} {id : UUID}
    {input : CreateJobInput} (fresh : ∀ j ∈ site.jobs, j.id ≠ id)
    {done : Site × CreateJobResult} (creates : site.createJob now id input = .ok done) :
    done.1.Valid ∧ (∀ j ∈ done.1.jobs, j ∈ site.jobs ∨ j.id = id) ∧
      ∀ o queueId, done.1.QueueIdOf o queueId ↔ site.QueueIdOf o queueId := by
  rcases createJob_cases creates with same | ⟨same, queue, free⟩
  · rw [same]
    exact ⟨valid, fun j member => .inl member, fun _ _ => Iff.rfl⟩
  · rw [same]
    refine ⟨valid.insertJob fresh queue free, ?_, fun _ _ => Iff.rfl⟩
    intro j listed
    rcases List.mem_append.mp listed with old | new
    · exact .inl old
    · rw [List.mem_singleton.mp new]
      exact .inr rfl

/-- The batch, one job after the other. -/
theorem createJobBatch_cons (now : Timestamptz) (id : UUID) (input : CreateJobInput)
    (rest : List (UUID × CreateJobInput)) :
    site.createJobBatch now ((id, input) :: rest) =
      match site.createJob now id input with
      | .error e => .error e
      | .ok done =>
          match done.1.createJobBatch now rest with
          | .error e => .error e
          | .ok last => .ok (last.1, done.2.job :: last.2) := by
  unfold createJobBatch createJob
  rw [Database.createJobBatch]
  cases made : site.core.createJob now id input with
  | error e => rfl
  | ok done =>
      obtain ⟨db, result⟩ := done
      have same : core { site with jobs := db.jobs } = db := by
        rcases site.core.createJob_spec made with same | ⟨same, _, _⟩ <;> rw [same] <;> rfl
      simp only [Except.map, same]
      cases Database.createJobBatch now rest db with
      | error e => rfl
      | ok last => rfl

theorem createJobBatch_mirrors (now : Timestamptz) (inputs : List (UUID × CreateJobInput)) :
    ∀ {site : Site}, site.Valid → (inputs.map (·.1)).Nodup →
      (∀ j ∈ site.jobs, j.id ∉ inputs.map (·.1)) →
      (∀ entry ∈ inputs, site.QueueIdOf orgId entry.2.queueId) →
      Mirrors (Answers True orgId site) (site.createJobBatch now inputs)
        (Tenant.createJobBatch now inputs (site.tenant orgId)) := by
  induction inputs with
  | nil =>
      intro site _ _ _ _
      exact .ok ⟨confined_self, rfl⟩
  | cons entry rest ih =>
      obtain ⟨id, input⟩ := entry
      intro site valid distinct fresh owners
      rw [List.map_cons, List.nodup_cons] at distinct
      have unused : ∀ j ∈ site.jobs, j.id ≠ id := by
        rintro j member rfl
        exact fresh j member List.mem_cons_self
      rw [createJobBatch_cons, Tenant.createJobBatch]
      have first := createJob_mirrors valid now unused (owners _ List.mem_cons_self)
      revert first
      generalize (site.tenant orgId).createJob now id input = outcome
      intro first
      cases made : site.createJob now id input with
      | error e =>
          rw [made] at first
          cases first
          exact .error e
      | ok done =>
          rw [made] at first
          cases first with
          | @ok _ done' related =>
              obtain ⟨t', result⟩ := done'
              obtain ⟨change, rfl⟩ := related
              obtain ⟨valid', listed, kept⟩ := createJob_keeps valid unused made
              have second := @ih done.1 valid' distinct.2 ?_ ?_
              · rw [change.own] at second
                dsimp only
                generalize done.1.createJobBatch now rest = last,
                  Tenant.createJobBatch now rest t' = last' at second ⊢
                cases second with
                | error e => exact .error e
                | ok related => exact .ok ⟨change.trans related.1,
                    congrArg (done.2.job :: ·) related.2⟩
              · intro j member
                rcases listed j member with old | new
                · exact fun drawn => fresh j old (List.mem_cons_of_mem _ drawn)
                · rw [new]
                  exact distinct.1
              · intro entry member
                exact (kept orgId _).mpr (owners entry (List.mem_cons_of_mem _ member))

theorem retryDLQJob_mirrors (valid : site.Valid) (now : Timestamptz) (id : UUID) :
    Mirrors (Answers site.LettersFollow orgId site) (site.retryDLQJob now id orgId)
      ((site.tenant orgId).retryDLQJob now id) := by
  unfold retryDLQJob Database.retryDLQJob Tenant.retryDLQJob
  refine .map ?_
  cases found : site.core.jobs.find? (site.core.Retriable id orgId) with
  | none =>
      have free : ¬ ∃ j ∈ (site.tenant orgId).jobs, j.id = id ∧ j.status = .deadLetter := by
        rintro ⟨j, ⟨member, owner⟩, same, dead⟩
        exact List.find?_eq_none.mp found j member (decide_eq_true ⟨same, dead, owner⟩)
      rw [dif_neg free]
      exact .error _
  | some job =>
      have member := List.mem_of_find?_eq_some found
      have retriable := List.find?_some found
      rw [decide_eq_true_eq] at retriable
      obtain ⟨same, dead, owner⟩ := retriable
      have held : ∃ j ∈ (site.tenant orgId).jobs, j.id = id ∧ j.status = .deadLetter :=
        ⟨job, ⟨member, owner⟩, same, dead⟩
      rw [dif_pos held]
      refine .ok ⟨?_, ?_⟩
      · exact confined_retry valid (fun _ => rfl) (fun _ => rfl) ⟨job, member, same, owner⟩
      · obtain ⟨⟨member', _⟩, same', _⟩ := held.choose_spec
        exact congrArg (Job.retryDLQ now)
          (eq_of_key_eq valid.jobKeys member member' (same.trans same'.symm))

end Site

end JobScheduler
