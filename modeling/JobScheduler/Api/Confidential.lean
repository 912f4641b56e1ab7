import JobScheduler.Api.Isolation
import Mathlib.Algebra.BigOperators.Group.List.Basic

/-!
# Tenant confidentiality

Two databases that agree on the rows of an organization and on the retry policies cannot be
told apart by that organization: a request gets the same response in both, and the rows of
the organization are the same afterwards.

A read selects rows of the organization only, so it finds, lists and counts the same rows. A
write mirrors the same write of the tenant in both databases. Two routes are left out: the
list of workers, which are not of any organization, and the update of the organization, whose
slug is unique among all organizations.
-/

set_option autoImplicit false

namespace JobScheduler

open Relational Transition

namespace Site

/-- The rows of the organization and the retry policies are the same. -/
structure Agree (orgId : UUID) (first second : Site) : Prop where
  tenant : first.tenant orgId = second.tenant orgId
  retryPolicies : ∀ policy, policy ∈ first.retryPolicies ↔ policy ∈ second.retryPolicies

namespace Agree

variable {orgId : UUID} {first second : Site} (agree : Agree orgId first second)
include agree

theorem organizations (org : Organization) :
    org ∈ first.organizations ∧ org.id = orgId ↔ org ∈ second.organizations ∧ org.id = orgId :=
  Set.ext_iff.mp (congrArg Tenant.organizations agree.tenant) org

theorem projects (project : Project) :
    project ∈ first.projects ∧ project.orgId = orgId ↔
      project ∈ second.projects ∧ project.orgId = orgId :=
  Set.ext_iff.mp (congrArg Tenant.projects agree.tenant) project

theorem queues (queue : Queue) :
    queue ∈ first.queues ∧ first.QueueOf orgId queue ↔
      queue ∈ second.queues ∧ second.QueueOf orgId queue :=
  Set.ext_iff.mp (congrArg Tenant.queues agree.tenant) queue

theorem jobs (job : Job) :
    job ∈ first.jobs ∧ first.QueueIdOf orgId job.queueId ↔
      job ∈ second.jobs ∧ second.QueueIdOf orgId job.queueId :=
  Set.ext_iff.mp (congrArg Tenant.jobs agree.tenant) job

theorem executions (row : ExecutionRow) :
    row ∈ first.executions ∧ first.JobIdOf orgId row.jobId ↔
      row ∈ second.executions ∧ second.JobIdOf orgId row.jobId :=
  Set.ext_iff.mp (congrArg Tenant.executions agree.tenant) row

theorem logs (row : LogRow) :
    row ∈ first.logs ∧ first.JobIdOf orgId row.jobId ↔
      row ∈ second.logs ∧ second.JobIdOf orgId row.jobId :=
  Set.ext_iff.mp (congrArg Tenant.logs agree.tenant) row

theorem letters (letter : Letter) :
    letter ∈ first.letters ∧ first.QueueIdOf orgId letter.entry.originalQueueId ↔
      letter ∈ second.letters ∧ second.QueueIdOf orgId letter.entry.originalQueueId :=
  Set.ext_iff.mp (congrArg Tenant.letters agree.tenant) letter

theorem policies : first.policies = second.policies := by
  ext id
  exact exists_congr fun policy => and_congr_left fun _ => agree.retryPolicies policy

/-- The organization has the same queues. -/
theorem queueIdOf (id : UUID) : first.QueueIdOf orgId id ↔ second.QueueIdOf orgId id := by
  rw [queueIdOf_iff, queueIdOf_iff, agree.tenant]

end Agree

/-! ## Reads -/

section Reads

variable {orgId : UUID} {first second : Site}

theorem getOrg_congr (agree : Agree orgId first second) (valid : first.Valid) :
    first.getOrg orgId = second.getOrg orgId := by
  have found : (first.organizations.find? fun org => org.id = orgId) =
      second.organizations.find? fun org => org.id = orgId := by
    refine find?_eq_of_same (fun org => ?_) ?_
    · rw [decide_eq_true_eq]
      exact agree.organizations org
    · intro org member other member' selected selected'
      rw [decide_eq_true_eq] at selected selected'
      exact eq_of_key_eq valid.organizationKeys member member' (selected.trans selected'.symm)
  unfold getOrg
  rw [found]

theorem getProject_congr (agree : Agree orgId first second) (valid : first.Valid) (id : UUID) :
    first.getProject id orgId = second.getProject id orgId := by
  unfold getProject
  rw [find?_owned_eq valid.projectKeys agree.projects]

theorem getQueue_congr (agree : Agree orgId first second) (valid : first.Valid) (id : UUID) :
    first.getQueue id orgId = second.getQueue id orgId := by
  have same : ∀ q, q ∈ first.core.queues ∧ first.core.QueueInOrg orgId q ↔
      q ∈ second.core.queues ∧ second.core.QueueInOrg orgId q := agree.queues
  have keys : (first.core.queues.map (·.id)).Nodup := valid.queueKeys
  unfold getQueue Database.getQueue
  rw [find?_owned_eq keys same]

theorem getJob_congr (agree : Agree orgId first second) (valid : first.Valid) (id : UUID) :
    first.getJob id orgId = second.getJob id orgId := by
  unfold getJob
  rw [find?_owned_eq valid.jobKeys agree.jobs]

variable (agree : Agree orgId first second) (valid : first.Valid) (valid' : second.Valid)
include agree valid valid'

theorem listProjects_congr (ilike : String → String → Bool) (limit : Nat)
    (cursor : Option (Timestamptz × UUID)) (name : String) :
    first.listProjects ilike orgId limit cursor name =
      second.listProjects ilike orgId limit cursor name := by
  unfold listProjects
  rw [orderBy_filter_eq valid.projectKeys valid'.projectKeys]
  intro p
  have same := agree.projects p
  simp only [decide_eq_true_eq]
  tauto

theorem listQueues_congr (ilike : String → String → Bool) (limit : Nat)
    (cursor : Option (Timestamptz × UUID)) (name : String) (isPaused : Option Bool)
    (projectId : Option UUID) :
    first.listQueues ilike orgId limit cursor name isPaused projectId =
      second.listQueues ilike orgId limit cursor name isPaused projectId := by
  unfold listQueues
  rw [orderBy_filter_eq valid.queueKeys valid'.queueKeys]
  intro q
  have same := agree.queues q
  simp only [decide_eq_true_eq]
  tauto

theorem listByQueue_congr (rank : UUID → Nat) (queueId : UUID) (status : String) (limit : Nat) :
    first.listByQueue rank queueId orgId status limit =
      second.listByQueue rank queueId orgId status limit := by
  unfold listByQueue
  rw [orderBy_filter_eq valid.jobKeys valid'.jobKeys]
  intro j
  have same := agree.jobs j
  simp only [decide_eq_true_eq]
  tauto

theorem listAll_congr (rank : UUID → Nat) (status : String) (queueId : Option UUID)
    (limit : Nat) :
    first.listAll rank orgId status queueId limit =
      second.listAll rank orgId status queueId limit := by
  unfold listAll
  rw [orderBy_filter_eq valid.jobKeys valid'.jobKeys]
  intro j
  have same := agree.jobs j
  simp only [decide_eq_true_eq]
  tauto

theorem getExecutions_congr (rank : UUID → Nat) (jobId : UUID) :
    first.getExecutions rank jobId orgId = second.getExecutions rank jobId orgId := by
  unfold getExecutions
  rw [orderBy_filter_eq valid.executionKeys valid'.executionKeys]
  intro e
  have same := agree.executions e
  simp only [decide_eq_true_eq]
  tauto

theorem getLogs_congr (rank : UUID → Nat) (jobId : UUID) :
    first.getLogs rank jobId orgId = second.getLogs rank jobId orgId := by
  unfold getLogs
  rw [orderBy_filter_eq valid.logKeys valid'.logKeys]
  intro l
  have same := agree.logs l
  simp only [decide_eq_true_eq]
  tauto

/-- The queue of the organization with this identifier is the same row. -/
theorem find?_queue_congr {id : UUID} (owner : first.QueueIdOf orgId id) :
    (first.queues.find? fun q => q.id = id) = second.queues.find? fun q => q.id = id := by
  have owner' := (agree.queueIdOf id).mp owner
  refine find?_eq_of_same (fun q => ?_) ?_
  · rw [decide_eq_true_eq]
    constructor
    · rintro ⟨member, rfl⟩
      exact ⟨((agree.queues q).mp ⟨member, valid.queueOf_of_queueIdOf member owner⟩).1, rfl⟩
    · rintro ⟨member, rfl⟩
      exact ⟨((agree.queues q).mpr ⟨member, valid'.queueOf_of_queueIdOf member owner'⟩).1, rfl⟩
  · intro q member q' member' selected selected'
    rw [decide_eq_true_eq] at selected selected'
    exact eq_of_key_eq valid.queueKeys member member' (selected.trans selected'.symm)

theorem listDLQ_congr (rank : UUID → Nat) (limit : Nat) :
    first.listDLQ rank orgId limit = second.listDLQ rank orgId limit := by
  have rows : orderBy (- ·.entry.failedAt) (rank ·.id) (·.id) (first.letters.filter fun d =>
        first.QueueIdOf orgId d.entry.originalQueueId) =
      orderBy (- ·.entry.failedAt) (rank ·.id) (·.id) (second.letters.filter fun d =>
        second.QueueIdOf orgId d.entry.originalQueueId) := by
    refine orderBy_filter_eq valid.letterKeys valid'.letterKeys fun d => ?_
    simp only [decide_eq_true_eq]
    exact agree.letters d
  unfold listDLQ
  rw [← rows]
  refine congrArg (limitPage limit) (List.filterMap_congr ?_)
  intro d listed
  rw [orderBy, List.mem_insertionSort, List.mem_filter, decide_eq_true_eq] at listed
  rw [find?_queue_congr agree valid valid' listed.2]

end Reads

/-! ## Statistics -/

theorem average_eq_of_perm {values values' : List Int} (perm : values.Perm values') :
    average values = average values' := by
  have empty : values = [] ↔ values' = [] := by
    rw [← List.length_eq_zero_iff, ← List.length_eq_zero_iff, perm.length_eq]
  unfold average
  rw [perm.sum_eq, perm.length_eq, if_congr empty rfl rfl]

theorem percentile95_eq_of_perm {values values' : List Int} (perm : values.Perm values') :
    percentile95 values = percentile95 values' := by
  have sorted : values.insertionSort (· ≤ ·) = values'.insertionSort (· ≤ ·) := by
    refine List.Perm.eq_of_pairwise ?_ (List.pairwise_insertionSort _ _)
      (List.pairwise_insertionSort _ _) ?_
    · intro a b _ _ before after
      exact le_antisymm before after
    · exact ((List.perm_insertionSort _ _).trans perm).trans (List.perm_insertionSort _ _).symm
  unfold percentile95
  rw [sorted, perm.length_eq]

section Stats

variable {orgId : UUID} {first second : Site} (agree : Agree orgId first second)
include agree

/-- The jobs of a queue of the organization. -/
theorem mem_jobs_congr {queueId : UUID} (owner : first.QueueIdOf orgId queueId) (job : Job) :
    job ∈ first.jobs ∧ job.queueId = queueId ↔ job ∈ second.jobs ∧ job.queueId = queueId := by
  have owner' := (agree.queueIdOf queueId).mp owner
  constructor
  · rintro ⟨member, rfl⟩
    exact ⟨((agree.jobs job).mp ⟨member, owner⟩).1, rfl⟩
  · rintro ⟨member, rfl⟩
    exact ⟨((agree.jobs job).mpr ⟨member, owner'⟩).1, rfl⟩

/-- The executions of the jobs of a queue of the organization. -/
theorem mem_executions_congr {queueId : UUID} (owner : first.QueueIdOf orgId queueId)
    (row : ExecutionRow) :
    (row ∈ first.executions ∧ ∃ j ∈ first.jobs, j.id = row.jobId ∧ j.queueId = queueId) ↔
      row ∈ second.executions ∧ ∃ j ∈ second.jobs, j.id = row.jobId ∧ j.queueId = queueId := by
  have owner' := (agree.queueIdOf queueId).mp owner
  constructor
  · rintro ⟨member, j, job, same, rfl⟩
    refine ⟨((agree.executions row).mp ⟨member, j, job, same, owner⟩).1, j, ?_, same, rfl⟩
    exact ((mem_jobs_congr agree owner j).mp ⟨job, rfl⟩).1
  · rintro ⟨member, j, job, same, rfl⟩
    refine ⟨((agree.executions row).mpr ⟨member, j, job, same, owner'⟩).1, j, ?_, same, rfl⟩
    exact ((mem_jobs_congr agree owner j).mpr ⟨job, rfl⟩).1

variable (valid : first.Valid) (valid' : second.Valid)
include valid valid'

theorem recentExecutions_perm (now : Timestamptz) {queueId : UUID}
    (owner : first.QueueIdOf orgId queueId) :
    (first.recentExecutions now queueId).Perm (second.recentExecutions now queueId) := by
  refine filter_perm_of_same valid.executionKeys.of_map valid'.executionKeys.of_map fun e => ?_
  simp only [decide_eq_true_eq]
  rw [← and_assoc, ← and_assoc]
  exact and_congr_left fun _ => mem_executions_congr agree owner e

theorem depth_congr {queueId : UUID} (owner : first.QueueIdOf orgId queueId) :
    (first.jobs.countP fun j => j.queueId = queueId ∧ j.status = .queued) =
      second.jobs.countP fun j => j.queueId = queueId ∧ j.status = .queued := by
  refine countP_eq_of_same valid.jobKeys.of_map valid'.jobKeys.of_map fun j => ?_
  have same := mem_jobs_congr agree owner j
  simp only [decide_eq_true_eq]
  tauto

theorem getQueueStats_congr (now : Timestamptz) {queueId : UUID}
    (owner : first.QueueIdOf orgId queueId) :
    first.getQueueStats now queueId = second.getQueueStats now queueId := by
  have recent := recentExecutions_perm agree valid valid' now owner
  have completed := recent.filter fun e => decide (e.status = "completed")
  have durations := completed.filterMap (·.durationMs)
  unfold getQueueStats
  rw [find?_queue_congr agree valid valid' owner]
  dsimp only
  rw [depth_congr agree valid valid' owner, completed.countP_eq, completed.length_eq,
    recent.countP_eq, average_eq_of_perm durations, percentile95_eq_of_perm durations]

end Stats

end Site

/-! ## Parts of handlers -/

/-- Two outcomes that the organization cannot tell apart. -/
def Alike (orgId : UUID) (first second : ApiResponse × Site) : Prop :=
  first.1 = second.1 ∧ Site.Agree orgId first.2 second.2

section Steps

variable {α : Type} {orgId : UUID} {first second : Site} (agree : Site.Agree orgId first second)
include agree

theorem withId_alike {what : String} {id : Option UUID} {next next' : UUID → ApiResponse × Site}
    (alike : ∀ id, Alike orgId (next id) (next' id)) :
    Alike orgId (withId first what id next) (withId second what id next') := by
  cases id with
  | none => exact ⟨rfl, agree⟩
  | some id => exact alike id

theorem withBody_alike {body : Body α} {next next' : α → ApiResponse × Site}
    (alike : ∀ req, body = .ok req → Alike orgId (next req) (next' req)) :
    Alike orgId (withBody first body next) (withBody second body next') := by
  cases body with
  | error message => exact ⟨rfl, agree⟩
  | ok req => exact alike req rfl

/-- The lookups find the same. -/
theorem withFound_alike {found found' : Except StoreError α} (same : found = found')
    {next next' : α → ApiResponse × Site}
    (alike : ∀ value, found = .ok value → Alike orgId (next value) (next' value)) :
    Alike orgId (withFound first found next) (withFound second found' next') := by
  subst same
  cases found with
  | error e => exact ⟨rfl, agree⟩
  | ok value => exact alike value rfl

theorem withNameAndSlug_alike {name slug : Option String} {next next' : ApiResponse × Site}
    (alike : Alike orgId next next') :
    Alike orgId (withNameAndSlug first name slug next)
      (withNameAndSlug second name slug next') := by
  unfold withNameAndSlug
  split
  · exact ⟨rfl, agree⟩
  · split
    · exact ⟨rfl, agree⟩
    · exact alike

/-- Both writes mirror one write of the tenant. -/
theorem conclude_alike {γ : Type} {rel rel' : α → γ → Prop} {result result' : Except StoreError α}
    {spec : Except StoreError γ} (mirrors : Mirrors rel result spec)
    (mirrors' : Mirrors rel' result' spec) {fails : StoreError → ApiResponse}
    {done : α → ApiResponse × Site}
    (alike : ∀ value value' outcome, rel value outcome → rel' value' outcome →
      Alike orgId (done value) (done value')) :
    Alike orgId (conclude first result fails done) (conclude second result' fails done) := by
  cases mirrors with
  | error e =>
      cases mirrors'
      exact ⟨rfl, agree⟩
  | ok related =>
      cases mirrors' with
      | ok related' => exact alike _ _ _ related related'

theorem Site.Agree.confined {given given' : Prop} {first' second' : Site} {tenant' : Tenant}
    (confined : Site.Confined given orgId first first' tenant')
    (confined' : Site.Confined given' orgId second second' tenant') :
    Site.Agree orgId first' second' where
  tenant := confined.own.trans confined'.own.symm
  retryPolicies policy := by
    rw [confined.retryPolicies, confined'.retryPolicies]
    exact agree.retryPolicies policy

/-- A write that answers with a fixed response. -/
theorem concludeWith_alike {given given' : Prop} {result result' : Except StoreError Site}
    {spec spec' : Except StoreError Tenant} (same : spec = spec')
    (mirrors : Mirrors (Site.Confined given orgId first) result spec)
    (mirrors' : Mirrors (Site.Confined given' orgId second) result' spec')
    {fails : StoreError → ApiResponse} {response : ApiResponse} :
    Alike orgId (conclude first result fails fun site' => (response, site'))
      (conclude second result' fails fun site' => (response, site')) := by
  subst same
  exact conclude_alike agree mirrors mirrors' fun _ _ _ confined confined' =>
    ⟨rfl, agree.confined confined confined'⟩

/-- A write that answers with its result. -/
theorem answer_alike {β : Type} {given given' : Prop}
    {result result' : Except StoreError (Site × β)}
    {spec spec' : Except StoreError (Tenant × β)} (same : spec = spec')
    (mirrors : Mirrors (Site.Answers given orgId first) result spec)
    (mirrors' : Mirrors (Site.Answers given' orgId second) result' spec')
    {fails : StoreError → ApiResponse} (response : β → ApiResponse) :
    Alike orgId (conclude first result fails fun done => (response done.2, done.1))
      (conclude second result' fails fun done => (response done.2, done.1)) := by
  subst same
  refine conclude_alike agree mirrors mirrors' fun done done' outcome answers answers' => ?_
  exact ⟨congrArg response (answers.2.trans answers'.2.symm),
    agree.confined answers.1 answers'.1⟩

theorem OrgHandler.ownOnly_alike {id : Option UUID} {next next' : UUID → ApiResponse × Site}
    (alike : Alike orgId (next orgId) (next' orgId)) :
    Alike orgId (OrgHandler.ownOnly orgId first id next)
      (OrgHandler.ownOnly orgId second id next') := by
  refine withId_alike agree fun id => ?_
  by_cases same : orgId = id
  · rw [if_neg (not_not.mpr same), if_neg (not_not.mpr same), ← same]
    exact alike
  · rw [if_pos same, if_pos same]
    exact ⟨rfl, agree⟩

end Steps

/-! ## Handlers -/

section Handlers

variable {env : ApiEnv} {orgId : UUID} {first second : Site}
  (agree : Site.Agree orgId first second) (valid : first.Valid)
include agree valid

theorem OrgHandler.get_alike (id : Option UUID) :
    Alike orgId (OrgHandler.get orgId first id) (OrgHandler.get orgId second id) :=
  OrgHandler.ownOnly_alike agree
    (withFound_alike agree (Site.getOrg_congr agree valid) fun _ _ => ⟨rfl, agree⟩)

theorem ProjectHandler.get_alike (id : Option UUID) :
    Alike orgId (ProjectHandler.get orgId first id) (ProjectHandler.get orgId second id) :=
  withId_alike agree fun id =>
    withFound_alike agree (Site.getProject_congr agree valid id) fun _ _ => ⟨rfl, agree⟩

theorem ProjectHandler.update_alike (id : Option UUID) (body : Body UpdateProjectRequest) :
    Alike orgId (ProjectHandler.update env orgId first id body)
      (ProjectHandler.update env orgId second id body) := by
  refine withId_alike agree fun id => withBody_alike agree fun req _ =>
    withFound_alike agree (Site.getProject_congr agree valid id) fun project _ =>
      withNameAndSlug_alike agree ?_
  exact concludeWith_alike agree (by rw [agree.tenant]) (Site.updateProject_mirrors _ id _ _ _)
    (Site.updateProject_mirrors _ id _ _ _)

theorem QueueHandler.get_alike (id : Option UUID) :
    Alike orgId (QueueHandler.get orgId first id) (QueueHandler.get orgId second id) :=
  withId_alike agree fun id =>
    withFound_alike agree (Site.getQueue_congr agree valid id) fun _ _ => ⟨rfl, agree⟩

variable (valid' : second.Valid)
include valid'

theorem OrgHandler.delete_alike (id : Option UUID) :
    Alike orgId (OrgHandler.delete env orgId first id) (OrgHandler.delete env orgId second id) := by
  refine OrgHandler.ownOnly_alike agree ?_
  exact concludeWith_alike agree (by rw [agree.tenant]) (Site.deleteOrg_mirrors valid)
    (Site.deleteOrg_mirrors valid')

theorem ProjectHandler.create_alike (body : Body CreateProjectRequest) {fresh : UUID}
    (unused : ∀ p ∈ first.projects, p.id ≠ fresh) (unused' : ∀ p ∈ second.projects, p.id ≠ fresh) :
    Alike orgId (ProjectHandler.create env orgId first body fresh)
      (ProjectHandler.create env orgId second body fresh) := by
  refine withBody_alike agree fun req _ => ?_
  split
  · exact concludeWith_alike agree (by rw [agree.tenant])
      (Site.createProject_mirrors valid _ _ _ _ unused)
      (Site.createProject_mirrors valid' _ _ _ _ unused')
  · exact ⟨rfl, agree⟩

theorem ProjectHandler.list_alike (name : String) (page : PageQuery) :
    Alike orgId (ProjectHandler.list env orgId first name page)
      (ProjectHandler.list env orgId second name page) := by
  unfold ProjectHandler.list
  split
  · exact ⟨rfl, agree⟩
  · rw [Site.listProjects_congr agree valid valid']
    exact ⟨rfl, agree⟩

theorem ProjectHandler.delete_alike (id : Option UUID) :
    Alike orgId (ProjectHandler.delete env orgId first id)
      (ProjectHandler.delete env orgId second id) :=
  withId_alike agree fun id => concludeWith_alike agree (by rw [agree.tenant])
    (Site.deleteProject_mirrors valid id) (Site.deleteProject_mirrors valid' id)

theorem QueueHandler.create_alike (body : Body CreateQueueRequest) {fresh : UUID}
    (unused : ∀ q ∈ first.queues, q.id ≠ fresh) (unused' : ∀ q ∈ second.queues, q.id ≠ fresh) :
    Alike orgId (QueueHandler.create env orgId first body fresh)
      (QueueHandler.create env orgId second body fresh) := by
  refine withBody_alike agree fun req _ => ?_
  split
  next projectId _ _ =>
    have same := Site.getProject_congr agree valid projectId
    refine withFound_alike agree same fun project found => ?_
    split
    · exact ⟨rfl, agree⟩
    · exact concludeWith_alike agree (by rw [agree.tenant, agree.policies])
        (Site.createQueue_mirrors valid env.now unused (Site.owner_of_getProject found))
        (Site.createQueue_mirrors valid' env.now unused'
          (Site.owner_of_getProject (same.symm.trans found)))
  · exact ⟨rfl, agree⟩

theorem QueueHandler.list_alike (name : String) (isPaused : Param Bool) (projectId : Param UUID)
    (page : PageQuery) :
    Alike orgId (QueueHandler.list env orgId first name isPaused projectId page)
      (QueueHandler.list env orgId second name isPaused projectId page) := by
  unfold QueueHandler.list
  rw [Site.listQueues_congr agree valid valid']
  split <;> exact ⟨rfl, agree⟩

theorem QueueHandler.update_alike (id : Option UUID) (body : Body UpdateQueueRequest) :
    Alike orgId (QueueHandler.update env orgId first id body)
      (QueueHandler.update env orgId second id body) := by
  refine withId_alike agree fun id => withBody_alike agree fun req _ =>
    withFound_alike agree (Site.getQueue_congr agree valid id) fun queue _ =>
      withNameAndSlug_alike agree ?_
  split
  · exact ⟨rfl, agree⟩
  · exact concludeWith_alike agree (by rw [agree.tenant, agree.policies])
      (Site.updateQueue_mirrors valid env.now _) (Site.updateQueue_mirrors valid' env.now _)

theorem QueueHandler.delete_alike (id : Option UUID) :
    Alike orgId (QueueHandler.delete env orgId first id)
      (QueueHandler.delete env orgId second id) :=
  withId_alike agree fun id => concludeWith_alike agree (by rw [agree.tenant])
    (Site.deleteQueue_mirrors valid id) (Site.deleteQueue_mirrors valid' id)

theorem QueueHandler.setPaused_alike (id : Option UUID) (paused : Bool) :
    Alike orgId (QueueHandler.setPaused env orgId first id paused)
      (QueueHandler.setPaused env orgId second id paused) :=
  withId_alike agree fun id => concludeWith_alike agree (by rw [agree.tenant])
    (Site.setPaused_mirrors valid env.now id paused)
    (Site.setPaused_mirrors valid' env.now id paused)

theorem JobHandler.create_alike (queueId : Option UUID) (body : Body CreateJobRequest)
    {fresh : UUID} (unused : ∀ j ∈ first.jobs, j.id ≠ fresh)
    (unused' : ∀ j ∈ second.jobs, j.id ≠ fresh) :
    Alike orgId (JobHandler.create env orgId first queueId body fresh)
      (JobHandler.create env orgId second queueId body fresh) := by
  refine withId_alike agree fun id => withBody_alike agree fun req _ =>
    withFound_alike agree (Site.getQueue_congr agree valid id) fun queue found => ?_
  obtain ⟨member, _, owner⟩ := Site.owner_of_getQueue found
  split
  · exact ⟨rfl, agree⟩
  next input builds =>
    have mine : first.QueueIdOf orgId input.queueId :=
      ⟨queue, member, (buildJobInput_columns builds).1.symm, owner⟩
    exact answer_alike agree (by rw [agree.tenant])
      (Site.createJob_mirrors valid env.now unused mine)
      (Site.createJob_mirrors valid' env.now unused' ((agree.queueIdOf _).mp mine))
      fun result => ⟨if result.created then 201 else 200, .job result.job⟩

theorem JobHandler.createBatch_alike (queueId : Option UUID)
    {body : Body (List (UUID × CreateJobRequest))} (batchId : UUID)
    (unused : ∀ jobs, body = .ok jobs → first.Unused (jobs.map (·.1)))
    (unused' : ∀ jobs, body = .ok jobs → second.Unused (jobs.map (·.1))) :
    Alike orgId (JobHandler.createBatch env orgId first queueId body batchId)
      (JobHandler.createBatch env orgId second queueId body batchId) := by
  refine withId_alike agree fun id => withBody_alike agree fun jobs decoded => ?_
  split
  · exact ⟨rfl, agree⟩
  · split
    · exact ⟨rfl, agree⟩
    · refine withFound_alike agree (Site.getQueue_congr agree valid id) fun queue found => ?_
      obtain ⟨member, _, owner⟩ := Site.owner_of_getQueue found
      split
      · exact ⟨rfl, agree⟩
      next inputs builds =>
        obtain ⟨ids, queues, _⟩ := buildInputs_columns builds
        have free := unused jobs decoded
        have free' := unused' jobs decoded
        rw [← ids] at free free'
        have mine : ∀ entry ∈ inputs, first.QueueIdOf orgId entry.2.queueId :=
          fun entry listed => ⟨queue, member, (queues entry listed).symm, owner⟩
        exact answer_alike agree (by rw [agree.tenant])
          (Site.createJobBatch_mirrors env.now inputs valid free.distinct free.jobs mine)
          (Site.createJobBatch_mirrors env.now inputs valid' free'.distinct free'.jobs
            fun entry listed => (agree.queueIdOf _).mp (mine entry listed))
          fun jobs => ⟨201, .batch batchId jobs⟩

theorem JobHandler.retry_alike (id : Option UUID) :
    Alike orgId (JobHandler.retry env orgId first id) (JobHandler.retry env orgId second id) :=
  withId_alike agree fun id => answer_alike agree (by rw [agree.tenant])
    (Site.retryDLQJob_mirrors valid env.now id) (Site.retryDLQJob_mirrors valid' env.now id)
    fun job => ⟨200, .job job⟩

theorem JobHandler.listJobs_alike (status : String) (queueId : Param UUID) (page : PageQuery) :
    Alike orgId (JobHandler.listJobs env orgId first status queueId page)
      (JobHandler.listJobs env orgId second status queueId page) := by
  unfold JobHandler.listJobs
  rw [Site.listAll_congr agree valid valid']
  split <;> exact ⟨rfl, agree⟩

theorem StatsHandler.queueStats_alike (queueId : Option UUID) :
    Alike orgId (StatsHandler.queueStats env orgId first queueId)
      (StatsHandler.queueStats env orgId second queueId) := by
  refine withId_alike agree fun id =>
    withFound_alike agree (Site.getQueue_congr agree valid id) fun queue found => ?_
  obtain ⟨member, same, owner⟩ := Site.owner_of_getQueue found
  rw [Site.getQueueStats_congr agree valid valid' env.now ⟨queue, member, same, owner⟩]
  split <;> exact ⟨rfl, agree⟩

end Handlers

/-! ## Every request -/

theorem handle_alike (env : ApiEnv) {orgId : UUID} {first second : Site}
    (agree : Site.Agree orgId first second) (valid : first.Valid) (valid' : second.Valid)
    {request : ApiRequest} (unused : first.Unused request.drawn)
    (unused' : second.Unused request.drawn) (notWorkers : request ≠ .listWorkers)
    (notUpdate : ∀ id body, request ≠ .updateOrg id body) :
    Alike orgId (request.handle env orgId first) (request.handle env orgId second) := by
  cases request with
  | getOrg id => exact OrgHandler.get_alike agree valid id
  | updateOrg id body => exact absurd rfl (notUpdate id body)
  | deleteOrg id => exact OrgHandler.delete_alike agree valid valid' id
  | listProjects name page => exact ProjectHandler.list_alike agree valid valid' name page
  | createProject body fresh =>
      exact ProjectHandler.create_alike agree valid valid' body
        unused.project_ne
        unused'.project_ne
  | getProject id => exact ProjectHandler.get_alike agree valid id
  | updateProject id body => exact ProjectHandler.update_alike agree valid id body
  | deleteProject id => exact ProjectHandler.delete_alike agree valid valid' id
  | listQueues name isPaused projectId page =>
      exact QueueHandler.list_alike agree valid valid' name isPaused projectId page
  | createQueue body fresh =>
      exact QueueHandler.create_alike agree valid valid' body
        unused.queue_ne
        unused'.queue_ne
  | getQueue id => exact QueueHandler.get_alike agree valid id
  | updateQueue id body => exact QueueHandler.update_alike agree valid valid' id body
  | deleteQueue id => exact QueueHandler.delete_alike agree valid valid' id
  | pauseQueue id => exact QueueHandler.setPaused_alike agree valid valid' id true
  | resumeQueue id => exact QueueHandler.setPaused_alike agree valid valid' id false
  | createJob queueId body fresh =>
      exact JobHandler.create_alike agree valid valid' queueId body
        unused.job_ne
        unused'.job_ne
  | createBatch queueId body batchId =>
      refine JobHandler.createBatch_alike agree valid valid' queueId batchId ?_ ?_
      · rintro jobs rfl
        exact unused
      · rintro jobs rfl
        exact unused'
  | retryJob id => exact JobHandler.retry_alike agree valid valid' id
  | listJobs status queueId page =>
      exact JobHandler.listJobs_alike agree valid valid' status queueId page
  | getJob id =>
      exact withId_alike agree fun id =>
        withFound_alike agree (Site.getJob_congr agree valid id) fun _ _ => ⟨rfl, agree⟩
  | getExecutions id =>
      refine withId_alike agree fun id => ⟨?_, agree⟩
      rw [Site.getExecutions_congr agree valid valid']
  | getLogs id =>
      refine withId_alike agree fun id => ⟨?_, agree⟩
      rw [Site.getLogs_congr agree valid valid']
  | listByQueue queueId status page =>
      refine withId_alike agree fun id => ⟨?_, agree⟩
      rw [Site.listByQueue_congr agree valid valid']
  | listDLQ page =>
      refine ⟨?_, agree⟩
      rw [ApiRequest.handle, JobHandler.listDLQ, Site.listDLQ_congr agree valid valid']
      rfl
  | queueStats queueId => exact StatsHandler.queueStats_alike agree valid valid' queueId
  | listWorkers => exact absurd rfl notWorkers

/-- The database after the second organization has deleted its queue. -/
def withoutSecondQueue : Site := (QueueHandler.delete plainEnv 2 twoOrganizations (some 200)).2

theorem withoutSecondQueue_valid : withoutSecondQueue.Valid where
  organizationKeys := by decide
  projectKeys := by decide
  queueKeys := by decide
  jobKeys := by decide
  executionKeys := by decide
  logKeys := by decide
  letterKeys := by decide
  queueProjects := by decide
  jobQueues := by decide
  executionJobs := by decide
  logJobs := by decide
  letterJobs := by decide
  letterQueues := by decide
  idempotencyKeys := by
    intro j member j' _ _ keyed
    have unkeyed : ∀ j ∈ withoutSecondQueue.jobs, j.idempotencyKey = none := by decide
    rw [unkeyed j member] at keyed
    cases keyed

theorem handle_alike_listDLQ :
    twoOrganizations.letters.length = 2 ∧ withoutSecondQueue.letters.length = 1 ∧
      Alike 1 ((ApiRequest.listDLQ ⟨20, .absent⟩).handle plainEnv 1 twoOrganizations)
        ((ApiRequest.listDLQ ⟨20, .absent⟩).handle plainEnv 1 withoutSecondQueue) := by
  have spares : Site.Spares 2 twoOrganizations withoutSecondQueue :=
    QueueHandler.delete_spares twoOrganizations_valid twoOrganizations_lettersFollow (some 200)
  have agree : Site.Agree 1 twoOrganizations withoutSecondQueue :=
    ⟨(spares 1 (by decide)).1.symm, fun _ => Iff.rfl⟩
  refine ⟨by decide, by decide, handle_alike plainEnv agree twoOrganizations_valid
    withoutSecondQueue_valid Site.unused_nil Site.unused_nil ?_ ?_⟩
  · intro same
    cases same
  · intro id body same
    cases same

end JobScheduler
