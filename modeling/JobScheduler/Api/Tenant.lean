import JobScheduler.Api.Handlers

/-!
# What an organization owns

A tenant is the set of rows that belong to an organization: its row, its projects, their
queues, and the jobs, executions, logs and dead letters of those queues. The tables are the
disjoint union of the tenants, and each write of the store changes them tenant by tenant: it
does to the tenant of the caller what the operations here say, and leaves the others as they
are.
-/

set_option autoImplicit false

namespace JobScheduler

open Relational

/-- The rows of one organization. -/
@[ext]
structure Tenant where
  organizations : Set Organization
  projects : Set Project
  queues : Set Queue
  jobs : Set Job
  executions : Set ExecutionRow
  logs : Set LogRow
  letters : Set Letter

namespace Tenant

variable (t : Tenant)

/-- The tenant of an organization that does not exist. -/
def nothing : Tenant := ⟨∅, ∅, ∅, ∅, ∅, ∅, ∅⟩

/-- Rewrite the rows with this identifier. -/
def mapProjects (id : UUID) (rewrite : Project → Project) : Tenant :=
  { t with projects := updated (·.id = id) rewrite t.projects }

def mapQueues (id : UUID) (rewrite : Queue → Queue) : Tenant :=
  { t with queues := updated (·.id = id) rewrite t.queues }

/-- The identifiers of jobs in queues that are deleted. -/
def jobsIn (gone : Set UUID) : Set UUID := {id | ∃ j ∈ t.jobs, j.queueId ∈ gone ∧ j.id = id}

/-- The identifiers of queues in projects that are deleted. -/
def queuesIn (gone : Set UUID) : Set UUID := {id | ∃ q ∈ t.queues, q.projectId ∈ gone ∧ q.id = id}

/-- Delete queues and what is in them. -/
def dropQueues (gone : Set UUID) : Tenant :=
  { t with
    queues := {q ∈ t.queues | q.id ∉ gone}
    jobs := {j ∈ t.jobs | j.queueId ∉ gone}
    executions := {e ∈ t.executions | e.jobId ∉ t.jobsIn gone}
    logs := {l ∈ t.logs | l.jobId ∉ t.jobsIn gone}
    letters := {d ∈ t.letters |
      d.entry.jobId ∉ t.jobsIn gone ∧ d.entry.originalQueueId ∉ gone} }

/-- Delete projects and what is in them. -/
def dropProjects (gone : Set UUID) : Tenant :=
  { t.dropQueues (t.queuesIn gone) with projects := {p ∈ t.projects | p.id ∉ gone} }

/-- Take a job out of the dead-letter queue. -/
def retry (id : UUID) (rewrite : Job → Job) : Tenant :=
  { t with
    jobs := updated (·.id = id) rewrite t.jobs
    letters := {d ∈ t.letters | d.entry.jobId ≠ id} }

variable {t}

/-- Only which of the tenant's own queues are deleted matters. -/
theorem dropQueues_congr {gone gone' : Set UUID}
    (queues : ∀ q ∈ t.queues, (q.id ∈ gone ↔ q.id ∈ gone'))
    (jobs : ∀ j ∈ t.jobs, (j.queueId ∈ gone ↔ j.queueId ∈ gone'))
    (letters : ∀ d ∈ t.letters, (d.entry.originalQueueId ∈ gone ↔ d.entry.originalQueueId ∈ gone')) :
    t.dropQueues gone = t.dropQueues gone' := by
  have inside : t.jobsIn gone = t.jobsIn gone' := by
    ext id
    exact exists_congr fun j => and_congr_right fun member => and_congr_left fun _ => jobs j member
  refine Tenant.ext rfl rfl ?_ ?_ ?_ ?_ ?_
  · ext q
    exact and_congr_right fun member => not_congr (queues q member)
  · ext j
    exact and_congr_right fun member => not_congr (jobs j member)
  · ext e
    exact and_congr_right fun _ => by rw [inside]
  · ext l
    exact and_congr_right fun _ => by rw [inside]
  · ext d
    refine and_congr_right fun member => and_congr (by rw [inside]) ?_
    exact not_congr (letters d member)

theorem dropQueues_empty : t.dropQueues ∅ = t := by
  simp [dropQueues, jobsIn]

/-- Deleting no project of the tenant changes nothing. -/
theorem dropProjects_eq_self {gone : Set UUID} (projects : ∀ p ∈ t.projects, p.id ∉ gone)
    (queues : ∀ q ∈ t.queues, q.projectId ∉ gone) : t.dropProjects gone = t := by
  have none : t.queuesIn gone = ∅ := by
    ext id
    refine iff_of_false ?_ (Set.notMem_empty id)
    rintro ⟨q, member, inside, _⟩
    exact queues q member inside
  unfold dropProjects
  rw [none, dropQueues_empty]
  refine congrArg (fun rows => { t with projects := rows }) ?_
  ext p
  exact and_iff_left_of_imp (projects p)

end Tenant

namespace Site

/-- The rows of an organization. -/
def tenant (site : Site) (orgId : UUID) : Tenant where
  organizations := {o | o ∈ site.organizations ∧ o.id = orgId}
  projects := {p | p ∈ site.projects ∧ p.orgId = orgId}
  queues := {q | q ∈ site.queues ∧ site.QueueOf orgId q}
  jobs := {j | j ∈ site.jobs ∧ site.QueueIdOf orgId j.queueId}
  executions := {e | e ∈ site.executions ∧ site.JobIdOf orgId e.jobId}
  logs := {l | l ∈ site.logs ∧ site.JobIdOf orgId l.jobId}
  letters := {d | d ∈ site.letters ∧ site.QueueIdOf orgId d.entry.originalQueueId}

/-- The queue is one of the tenant. -/
theorem queueIdOf_iff {site : Site} {orgId id : UUID} :
    site.QueueIdOf orgId id ↔ ∃ q ∈ (site.tenant orgId).queues, q.id = id := by
  constructor
  · rintro ⟨q, member, same, owner⟩
    exact ⟨q, ⟨member, owner⟩, same⟩
  · rintro ⟨q, ⟨member, owner⟩, same⟩
    exact ⟨q, member, same, owner⟩

/-- The job is one of the tenant. -/
theorem jobIdOf_iff {site : Site} {orgId id : UUID} :
    site.JobIdOf orgId id ↔ ∃ j ∈ (site.tenant orgId).jobs, j.id = id := by
  constructor
  · rintro ⟨j, member, same, owner⟩
    exact ⟨j, ⟨member, owner⟩, same⟩
  · rintro ⟨j, ⟨member, owner⟩, same⟩
    exact ⟨j, member, same, owner⟩

/-- The primary keys, the foreign keys and the index on idempotency keys. -/
structure Valid (site : Site) : Prop where
  organizationKeys : (site.organizations.map (·.id)).Nodup
  projectKeys : (site.projects.map (·.id)).Nodup
  queueKeys : (site.queues.map (·.id)).Nodup
  jobKeys : (site.jobs.map (·.id)).Nodup
  executionKeys : (site.executions.map (·.id)).Nodup
  logKeys : (site.logs.map (·.id)).Nodup
  letterKeys : (site.letters.map (·.id)).Nodup
  queueProjects : ∀ q ∈ site.queues, ∃ p ∈ site.projects, p.id = q.projectId
  jobQueues : ∀ j ∈ site.jobs, ∃ q ∈ site.queues, q.id = j.queueId
  executionJobs : ∀ e ∈ site.executions, ∃ j ∈ site.jobs, j.id = e.jobId
  logJobs : ∀ l ∈ site.logs, ∃ j ∈ site.jobs, j.id = l.jobId
  letterJobs : ∀ d ∈ site.letters, ∃ j ∈ site.jobs, j.id = d.entry.jobId
  letterQueues : ∀ d ∈ site.letters, ∃ q ∈ site.queues, q.id = d.entry.originalQueueId
  idempotencyKeys : ∀ j ∈ site.jobs, ∀ j' ∈ site.jobs, j.queueId = j'.queueId →
    j.idempotencyKey.isSome → j.idempotencyKey = j'.idempotencyKey → j = j'

/-- A dead letter is in the queue of its job. -/
def LettersFollow (site : Site) : Prop :=
  ∀ d ∈ site.letters, ∀ j ∈ site.jobs, j.id = d.entry.jobId →
    d.entry.originalQueueId = j.queueId

variable {site : Site} {a b : UUID}

/-! ## One owner -/

theorem Valid.queue_owner (valid : site.Valid) {q : Queue} (first : site.QueueOf a q)
    (second : site.QueueOf b q) : a = b := by
  obtain ⟨p, member, id, rfl⟩ := first
  obtain ⟨p', member', id', rfl⟩ := second
  rw [eq_of_key_eq valid.projectKeys member member' (id.trans id'.symm)]

theorem Valid.queueId_owner (valid : site.Valid) {id : UUID} (first : site.QueueIdOf a id)
    (second : site.QueueIdOf b id) : a = b := by
  obtain ⟨q, member, rfl, owner⟩ := first
  obtain ⟨q', member', same, owner'⟩ := second
  rw [eq_of_key_eq valid.queueKeys member' member same] at owner'
  exact valid.queue_owner owner owner'

theorem Valid.jobId_owner (valid : site.Valid) {id : UUID} (first : site.JobIdOf a id)
    (second : site.JobIdOf b id) : a = b := by
  obtain ⟨j, member, rfl, owner⟩ := first
  obtain ⟨j', member', same, owner'⟩ := second
  rw [eq_of_key_eq valid.jobKeys member' member same] at owner'
  exact valid.queueId_owner owner owner'

/-- The queue of a tenant is found by its identifier. -/
theorem Valid.queueOf_of_queueIdOf (valid : site.Valid) {q : Queue} (member : q ∈ site.queues)
    (owner : site.QueueIdOf a q.id) : site.QueueOf a q := by
  obtain ⟨q', member', same, owner⟩ := owner
  rw [← eq_of_key_eq valid.queueKeys member' member same]
  exact owner

/-! ## Changes of one table -/

/-- Other organizations in the table. -/
theorem tenant_organizations (organizations' : List Organization) (o : UUID) :
    tenant { site with organizations := organizations' } o =
      { site.tenant o with
        organizations := {org | org ∈ organizations' ∧ org.id = o} } := rfl

/-- Other projects, under which every queue keeps its owner. -/
theorem tenant_projects {projects' : List Project} (o : UUID)
    (owners : ∀ q ∈ site.queues,
      (QueueOf { site with projects := projects' } o q ↔ site.QueueOf o q)) :
    tenant { site with projects := projects' } o =
      { site.tenant o with projects := {p | p ∈ projects' ∧ p.orgId = o} } := by
  have queueId : ∀ id, QueueIdOf { site with projects := projects' } o id ↔
      site.QueueIdOf o id := by
    intro id
    refine exists_congr fun q => and_congr_right fun member => and_congr_right fun _ => ?_
    exact owners q member
  have jobId : ∀ id, JobIdOf { site with projects := projects' } o id ↔ site.JobIdOf o id := by
    intro id
    refine exists_congr fun j => and_congr_right fun _ => and_congr_right fun _ => ?_
    exact queueId j.queueId
  refine Tenant.ext rfl rfl ?_ ?_ ?_ ?_ ?_
  · ext q
    exact and_congr_right fun member => owners q member
  · ext j
    exact and_congr_right fun _ => queueId j.queueId
  · ext e
    exact and_congr_right fun _ => jobId e.jobId
  · ext l
    exact and_congr_right fun _ => jobId l.jobId
  · ext d
    exact and_congr_right fun _ => queueId d.entry.originalQueueId

/-- Other queues, under which every job and every dead letter keeps its owner. -/
theorem tenant_queues {queues' : List Queue} (o : UUID)
    (jobs : ∀ j ∈ site.jobs,
      (QueueIdOf { site with queues := queues' } o j.queueId ↔ site.QueueIdOf o j.queueId))
    (letters : ∀ d ∈ site.letters,
      (QueueIdOf { site with queues := queues' } o d.entry.originalQueueId ↔
        site.QueueIdOf o d.entry.originalQueueId)) :
    tenant { site with queues := queues' } o =
      { site.tenant o with queues := {q | q ∈ queues' ∧ site.QueueOf o q} } := by
  have jobId : ∀ id, JobIdOf { site with queues := queues' } o id ↔ site.JobIdOf o id := by
    intro id
    refine exists_congr fun j => and_congr_right fun member => and_congr_right fun _ => ?_
    exact jobs j member
  refine Tenant.ext rfl rfl rfl ?_ ?_ ?_ ?_
  · ext j
    exact and_congr_right fun member => jobs j member
  · ext e
    exact and_congr_right fun _ => jobId e.jobId
  · ext l
    exact and_congr_right fun _ => jobId l.jobId
  · ext d
    exact and_congr_right fun member => letters d member

/-- Other jobs, under which every execution and every log line keeps its owner. -/
theorem tenant_jobs {jobs' : List Job} (o : UUID)
    (executions : ∀ e ∈ site.executions,
      (JobIdOf { site with jobs := jobs' } o e.jobId ↔ site.JobIdOf o e.jobId))
    (logs : ∀ l ∈ site.logs,
      (JobIdOf { site with jobs := jobs' } o l.jobId ↔ site.JobIdOf o l.jobId)) :
    tenant { site with jobs := jobs' } o =
      { site.tenant o with jobs := {j | j ∈ jobs' ∧ site.QueueIdOf o j.queueId} } := by
  refine Tenant.ext rfl rfl rfl rfl ?_ ?_ rfl
  · ext e
    exact and_congr_right fun member => executions e member
  · ext l
    exact and_congr_right fun member => logs l member

/-! ## Insertions -/

theorem tenant_insertProject (valid : site.Valid) {project : Project}
    (fresh : ∀ p ∈ site.projects, p.id ≠ project.id) (o : UUID) :
    tenant { site with projects := site.projects ++ [project] } o =
      { site.tenant o with
        projects := {p | p ∈ site.projects ++ [project] ∧ p.orgId = o} } := by
  refine tenant_projects o fun q member => ?_
  refine exists_append_iff (fun (p : Project) => p.orgId = o) ?_ (valid.queueProjects q member)
  intro p old new listed
  rw [List.mem_singleton.mp listed]
  exact fresh p old

theorem tenant_insertQueue (valid : site.Valid) {queue : Queue}
    (fresh : ∀ q ∈ site.queues, q.id ≠ queue.id) (o : UUID) :
    tenant { site with queues := site.queues ++ [queue] } o =
      { site.tenant o with
        queues := {q | q ∈ site.queues ++ [queue] ∧ site.QueueOf o q} } := by
  have apart : ∀ q ∈ site.queues, ∀ new ∈ [queue], q.id ≠ new.id := by
    intro q old new listed
    rw [List.mem_singleton.mp listed]
    exact fresh q old
  refine tenant_queues o ?_ ?_
  · intro j member
    exact exists_append_iff (site.QueueOf o) apart (valid.jobQueues j member)
  · intro d member
    exact exists_append_iff (site.QueueOf o) apart (valid.letterQueues d member)

theorem tenant_insertJobs (valid : site.Valid) {rows : List Job}
    (fresh : ∀ j ∈ site.jobs, ∀ row ∈ rows, j.id ≠ row.id) (o : UUID) :
    tenant { site with jobs := site.jobs ++ rows } o =
      { site.tenant o with
        jobs := {j | j ∈ site.jobs ++ rows ∧ site.QueueIdOf o j.queueId} } := by
  refine tenant_jobs o ?_ ?_
  · intro e member
    exact exists_append_iff (fun (j : Job) => site.QueueIdOf o j.queueId) fresh
      (valid.executionJobs e member)
  · intro l member
    exact exists_append_iff (fun (j : Job) => site.QueueIdOf o j.queueId) fresh
      (valid.logJobs l member)

/-! ## Updates -/

section Updates

variable {selectsOrg : Organization → Prop} [DecidablePred selectsOrg]
  {rewriteOrg : Organization → Organization}
  {selectsProject : Project → Prop} [DecidablePred selectsProject]
  {rewriteProject : Project → Project} {selectsQueue : Queue → Prop} [DecidablePred selectsQueue]
  {rewriteQueue : Queue → Queue} {selectsJob : Job → Prop} [DecidablePred selectsJob]
  {rewriteJob : Job → Job}

/-- An update that keeps the keys of the organizations. -/
theorem tenant_updateOrganizations (ids : ∀ org, (rewriteOrg org).id = org.id) (o : UUID) :
    tenant { site with organizations := update selectsOrg rewriteOrg site.organizations } o =
      { site.tenant o with
        organizations := updated selectsOrg rewriteOrg (site.tenant o).organizations } := by
  rw [tenant_organizations]
  refine congrArg (fun rows => { site.tenant o with organizations := rows }) ?_
  ext org
  exact mem_update_and (fun (org : Organization) => org.id = o) fun org => by rw [ids]

/-- An update that keeps the keys of the projects. -/
theorem tenant_updateProjects (ids : ∀ p, (rewriteProject p).id = p.id)
    (orgs : ∀ p, (rewriteProject p).orgId = p.orgId) (o : UUID) :
    tenant { site with projects := update selectsProject rewriteProject site.projects } o =
      { site.tenant o with
        projects := updated selectsProject rewriteProject (site.tenant o).projects } := by
  have owners : ∀ q ∈ site.queues, (QueueOf
      { site with projects := update selectsProject rewriteProject site.projects } o q ↔
      site.QueueOf o q) := by
    intro q _
    exact exists_mem_update_iff (fun (p : Project) => p.id = q.projectId ∧ p.orgId = o)
      fun p => by rw [ids, orgs]
  rw [tenant_projects o owners]
  refine congrArg (fun rows => { site.tenant o with projects := rows }) ?_
  ext p'
  exact mem_update_and (fun (p : Project) => p.orgId = o) fun p => by rw [orgs]

/-- An update that keeps the keys of the queues. -/
theorem tenant_updateQueues (ids : ∀ q, (rewriteQueue q).id = q.id)
    (projects : ∀ q, (rewriteQueue q).projectId = q.projectId) (o : UUID) :
    tenant { site with queues := update selectsQueue rewriteQueue site.queues } o =
      { site.tenant o with
        queues := updated selectsQueue rewriteQueue (site.tenant o).queues } := by
  have owners : ∀ q, site.QueueOf o (rewriteQueue q) ↔ site.QueueOf o q := by
    intro q
    unfold QueueOf Database.QueueInOrg
    rw [projects]
  have kept : ∀ id, QueueIdOf
      { site with queues := update selectsQueue rewriteQueue site.queues } o id ↔
      site.QueueIdOf o id := by
    intro id
    exact exists_mem_update_iff (fun (q : Queue) => q.id = id ∧ site.QueueOf o q)
      fun q => and_congr (by rw [ids]) (owners q)
  rw [tenant_queues o (fun j _ => kept _) (fun d _ => kept _)]
  refine congrArg (fun rows => { site.tenant o with queues := rows }) ?_
  ext q'
  exact mem_update_and (site.QueueOf o) owners

/-- An update that keeps the keys of the jobs. -/
theorem tenant_updateJobs (ids : ∀ j, (rewriteJob j).id = j.id)
    (queues : ∀ j, (rewriteJob j).queueId = j.queueId) (o : UUID) :
    tenant { site with jobs := update selectsJob rewriteJob site.jobs } o =
      { site.tenant o with
        jobs := updated selectsJob rewriteJob (site.tenant o).jobs } := by
  have kept : ∀ id, JobIdOf { site with jobs := update selectsJob rewriteJob site.jobs } o id ↔
      site.JobIdOf o id := by
    intro id
    exact exists_mem_update_iff (fun (j : Job) => j.id = id ∧ site.QueueIdOf o j.queueId)
      fun j => by rw [ids, queues]
  rw [tenant_jobs o (fun e _ => kept _) (fun l _ => kept _)]
  refine congrArg (fun rows => { site.tenant o with jobs := rows }) ?_
  ext j'
  exact mem_update_and (fun (j : Job) => site.QueueIdOf o j.queueId) fun j => by rw [queues]

/-- Such an update, with the dead letters of a job deleted. -/
theorem tenant_retry (ids : ∀ j, (rewriteJob j).id = j.id)
    (queues : ∀ j, (rewriteJob j).queueId = j.queueId) (id o : UUID) :
    tenant { site with
        jobs := update selectsJob rewriteJob site.jobs
        letters := site.letters.filter (·.entry.jobId ≠ id) } o =
      { site.tenant o with
        jobs := updated selectsJob rewriteJob (site.tenant o).jobs
        letters := {d ∈ (site.tenant o).letters | d.entry.jobId ≠ id} } := by
  have rows : tenant { site with jobs := update selectsJob rewriteJob site.jobs } o = _ :=
    tenant_updateJobs ids queues o
  calc tenant
        { site with
          jobs := update selectsJob rewriteJob site.jobs
          letters := site.letters.filter (·.entry.jobId ≠ id) } o
      = { tenant { site with jobs := update selectsJob rewriteJob site.jobs } o with
          letters := {d | d ∈ site.letters.filter (·.entry.jobId ≠ id) ∧
            site.QueueIdOf o d.entry.originalQueueId} } := rfl
    _ = { site.tenant o with
          jobs := updated selectsJob rewriteJob (site.tenant o).jobs
          letters := {d | d ∈ site.letters.filter (·.entry.jobId ≠ id) ∧
            site.QueueIdOf o d.entry.originalQueueId} } := by rw [rows]
    _ = _ := by
        refine congrArg (fun letters =>
          { site.tenant o with
            jobs := updated selectsJob rewriteJob (site.tenant o).jobs, letters := letters }) ?_
        ext d
        simp only [tenant, Set.mem_ofPred_eq, List.mem_filter, decide_eq_true_eq]
        exact and_right_comm

end Updates

/-! ## Deletions -/

theorem queueIdOf_deleteQueues (gone : List UUID) (o id : UUID) :
    (site.deleteQueues gone).QueueIdOf o id ↔ site.QueueIdOf o id ∧ id ∉ gone := by
  constructor
  · rintro ⟨q, member, rfl, owner⟩
    obtain ⟨member, kept⟩ := List.mem_filter.mp member
    exact ⟨⟨q, member, rfl, owner⟩, of_decide_eq_true kept⟩
  · rintro ⟨⟨q, member, rfl, owner⟩, kept⟩
    exact ⟨q, List.mem_filter.mpr ⟨member, decide_eq_true kept⟩, rfl, owner⟩

theorem mem_goneJobs {gone : List UUID} {id : UUID} :
    id ∈ (site.jobs.filter (·.queueId ∈ gone)).map (·.id) ↔
      ∃ j ∈ site.jobs, j.queueId ∈ gone ∧ j.id = id := by
  simp only [List.mem_map, List.mem_filter, decide_eq_true_eq]
  constructor
  · rintro ⟨j, ⟨member, inside⟩, same⟩
    exact ⟨j, member, inside, same⟩
  · rintro ⟨j, member, inside, same⟩
    exact ⟨j, ⟨member, inside⟩, same⟩

/-- The jobs whose executions and log lines survive the deletion of queues. -/
theorem survives_deleteQueues (valid : site.Valid) (gone : List UUID) (o id : UUID) :
    id ∉ (site.jobs.filter (·.queueId ∈ gone)).map (·.id) ∧
        (site.deleteQueues gone).JobIdOf o id ↔
      site.JobIdOf o id ∧ id ∉ (site.tenant o).jobsIn {id | id ∈ gone} := by
  rw [mem_goneJobs]
  constructor
  · rintro ⟨kept, j, member, same, owner⟩
    obtain ⟨member, _⟩ := List.mem_filter.mp member
    refine ⟨⟨j, member, same, ((queueIdOf_deleteQueues gone o _).mp owner).1⟩, ?_⟩
    rintro ⟨j', ⟨member', _⟩, inside, same'⟩
    exact kept ⟨j', member', inside, same'⟩
  · rintro ⟨⟨j, member, same, owner⟩, kept⟩
    have outside : j.queueId ∉ gone := fun inside => kept ⟨j, ⟨member, owner⟩, inside, same⟩
    refine ⟨?_, j, List.mem_filter.mpr ⟨member, decide_eq_true outside⟩, same,
      (queueIdOf_deleteQueues gone o _).mpr ⟨owner, outside⟩⟩
    rintro ⟨j', member', inside, same'⟩
    rw [eq_of_key_eq valid.jobKeys member' member (same'.trans same.symm)] at inside
    exact outside inside

theorem rows_deleteQueues {α : Type} (valid : site.Valid) (gone : List UUID) (o : UUID)
    (rows : List α) (jobOf : α → UUID) :
    {row | row ∈ rows.filter (jobOf · ∉ (site.jobs.filter (·.queueId ∈ gone)).map (·.id)) ∧
        (site.deleteQueues gone).JobIdOf o (jobOf row)} =
      {row ∈ {row | row ∈ rows ∧ site.JobIdOf o (jobOf row)} |
        jobOf row ∉ (site.tenant o).jobsIn {id | id ∈ gone}} := by
  ext row
  have survives := survives_deleteQueues valid gone o (jobOf row)
  constructor
  · rintro ⟨member, owner⟩
    obtain ⟨member, kept⟩ := List.mem_filter.mp member
    obtain ⟨owner, outside⟩ := survives.mp ⟨of_decide_eq_true kept, owner⟩
    exact ⟨⟨member, owner⟩, outside⟩
  · rintro ⟨⟨member, owner⟩, outside⟩
    obtain ⟨kept, owner⟩ := survives.mpr ⟨owner, outside⟩
    exact ⟨List.mem_filter.mpr ⟨member, decide_eq_true kept⟩, owner⟩

/-- No dead letter of the organization goes with a foreign job. -/
def LettersStay (site : Site) (o : UUID) (gone : List UUID) : Prop :=
  ∀ d ∈ site.letters, site.QueueIdOf o d.entry.originalQueueId →
    ∀ j ∈ site.jobs, j.id = d.entry.jobId → j.queueId ∈ gone → site.QueueIdOf o j.queueId

theorem LettersFollow.stay (follow : site.LettersFollow) (o : UUID) (gone : List UUID) :
    site.LettersStay o gone := by
  intro d letter owner j job same _
  rw [← follow d letter j job same]
  exact owner

/-- Deleting queues. -/
theorem tenant_deleteQueues (valid : site.Valid) {gone : List UUID} {o : UUID}
    (stay : site.LettersStay o gone) :
    (site.deleteQueues gone).tenant o = (site.tenant o).dropQueues {id | id ∈ gone} := by
  refine Tenant.ext rfl rfl ?_ ?_ ?_ ?_ ?_
  · ext q
    simp only [deleteQueues, tenant, Tenant.dropQueues, Set.mem_ofPred_eq, List.mem_filter,
      decide_eq_true_eq]
    exact and_right_comm
  · ext j
    have owner : (site.deleteQueues gone).QueueIdOf o j.queueId ↔ _ :=
      queueIdOf_deleteQueues gone o j.queueId
    constructor
    · rintro ⟨member, kept⟩
      obtain ⟨member, _⟩ := List.mem_filter.mp member
      exact ⟨⟨member, (owner.mp kept).1⟩, (owner.mp kept).2⟩
    · rintro ⟨⟨member, kept⟩, outside⟩
      exact ⟨List.mem_filter.mpr ⟨member, decide_eq_true outside⟩, owner.mpr ⟨kept, outside⟩⟩
  · exact rows_deleteQueues valid gone o site.executions (·.jobId)
  · exact rows_deleteQueues valid gone o site.logs (·.jobId)
  · ext d
    constructor
    · rintro ⟨member, owner⟩
      obtain ⟨member, kept⟩ := List.mem_filter.mp member
      rw [decide_eq_true_eq, mem_goneJobs] at kept
      refine ⟨⟨member, ((queueIdOf_deleteQueues gone o _).mp owner).1⟩, ?_, kept.2⟩
      rintro ⟨j, ⟨job, _⟩, inside, same⟩
      exact kept.1 ⟨j, job, inside, same⟩
    · rintro ⟨⟨member, owner⟩, outside, original⟩
      refine ⟨List.mem_filter.mpr ⟨member, ?_⟩, (queueIdOf_deleteQueues gone o _).mpr ⟨owner, original⟩⟩
      rw [decide_eq_true_eq, mem_goneJobs]
      refine ⟨?_, original⟩
      rintro ⟨j, job, inside, same⟩
      exact outside ⟨j, ⟨job, stay d member owner j job same inside⟩, inside, same⟩

/-- The identifiers of the queues of deleted projects. -/
def queuesOf (site : Site) (gone : List UUID) : List UUID :=
  (site.queues.filter (·.projectId ∈ gone)).map (·.id)

theorem Valid.mem_queuesOf (valid : site.Valid) {gone : List UUID} {q : Queue}
    (member : q ∈ site.queues) : q.id ∈ site.queuesOf gone ↔ q.projectId ∈ gone := by
  constructor
  · intro listed
    obtain ⟨q', listed, same⟩ := List.mem_map.mp listed
    obtain ⟨member', inside⟩ := List.mem_filter.mp listed
    rw [← eq_of_key_eq valid.queueKeys member' member same]
    exact of_decide_eq_true inside
  · intro inside
    exact List.mem_map.mpr ⟨q, List.mem_filter.mpr ⟨member, decide_eq_true inside⟩, rfl⟩

/-- A queue of the organization is in a deleted project as the tenant sees it. -/
theorem Valid.mem_queuesOf_iff (valid : site.Valid) {gone : List UUID} {o id : UUID}
    (owner : site.QueueIdOf o id) :
    id ∈ site.queuesOf gone ↔ id ∈ (site.tenant o).queuesIn {id | id ∈ gone} := by
  obtain ⟨q, member, rfl, owner⟩ := owner
  rw [valid.mem_queuesOf member]
  constructor
  · intro inside
    exact ⟨q, ⟨member, owner⟩, inside, rfl⟩
  · rintro ⟨q', ⟨member', _⟩, inside, same⟩
    rw [eq_of_key_eq valid.queueKeys member' member same] at inside
    exact inside

/-- Deleting projects. -/
theorem tenant_deleteProjects (valid : site.Valid) {gone : List UUID} {o : UUID}
    (stay : site.LettersStay o (site.queuesOf gone)) :
    (site.deleteProjects gone).tenant o = (site.tenant o).dropProjects {id | id ∈ gone} := by
  -- a queue that is left is in a project that is left
  have owners : ∀ q ∈ (site.deleteQueues (site.queuesOf gone)).queues,
      (QueueOf { site.deleteQueues (site.queuesOf gone) with
        projects := site.projects.filter (·.id ∉ gone) } o q ↔
      (site.deleteQueues (site.queuesOf gone)).QueueOf o q) := by
    intro q member
    obtain ⟨member, kept⟩ := List.mem_filter.mp member
    rw [decide_eq_true_eq, valid.mem_queuesOf member] at kept
    constructor
    · rintro ⟨p, listed, same, owner⟩
      exact ⟨p, (List.mem_filter.mp listed).1, same, owner⟩
    · rintro ⟨p, listed, same, owner⟩
      exact ⟨p, List.mem_filter.mpr ⟨listed, decide_eq_true (same ▸ kept)⟩, same, owner⟩
  have dropped : (site.tenant o).dropQueues {id | id ∈ site.queuesOf gone} =
      (site.tenant o).dropQueues ((site.tenant o).queuesIn {id | id ∈ gone}) := by
    refine Tenant.dropQueues_congr ?_ ?_ ?_
    · rintro q ⟨member, owner⟩
      exact valid.mem_queuesOf_iff ⟨q, member, rfl, owner⟩
    · rintro j ⟨_, owner⟩
      exact valid.mem_queuesOf_iff owner
    · rintro d ⟨_, owner⟩
      exact valid.mem_queuesOf_iff owner
  calc (site.deleteProjects gone).tenant o
      = { (site.deleteQueues (site.queuesOf gone)).tenant o with
          projects := {p | p ∈ site.projects.filter (·.id ∉ gone) ∧ p.orgId = o} } :=
        tenant_projects o owners
    _ = { (site.tenant o).dropQueues ((site.tenant o).queuesIn {id | id ∈ gone}) with
          projects := {p | p ∈ site.projects.filter (·.id ∉ gone) ∧ p.orgId = o} } := by
        rw [tenant_deleteQueues valid stay, dropped]
    _ = (site.tenant o).dropProjects {id | id ∈ gone} := by
        unfold Tenant.dropProjects
        refine congrArg (fun rows =>
          { (site.tenant o).dropQueues ((site.tenant o).queuesIn {id | id ∈ gone}) with
            projects := rows }) ?_
        ext p
        simp only [tenant, Set.mem_ofPred_eq, List.mem_filter, decide_eq_true_eq]
        exact and_right_comm

end Site

end JobScheduler
