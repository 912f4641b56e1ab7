import JobScheduler.Domain.Models
import JobScheduler.Relational.Table
import JobScheduler.Transition.Outcome

/-!
# Organizations, projects and queues

The writes of `OrgRepository`, `ProjectRepository` and `QueueRepository`
(`internal/store/org.go`, `project.go`, `queue.go`) together with the constraints of the
schema they can trip: unique slugs, foreign keys, and the cascades of `ON DELETE CASCADE`
that take the queues, jobs, executions, logs and dead letters of a deleted ancestor with
it.

The identifiers are parameters: the code draws them with `uuid.New`.
-/

set_option autoImplicit false

namespace JobScheduler

open Relational Transition

/-- The range of a PostgreSQL `INT`. -/
def InInt4 (n : Int) : Prop := -2147483648 ≤ n ∧ n ≤ 2147483647

instance (n : Int) : Decidable (InInt4 n) :=
  inferInstanceAs (Decidable (_ ∧ _))

namespace Database

variable (db : Database)

/-! ## Ownership and cascades -/

/-- `queues.project_id = p.id AND p.org_id = $2`. -/
def QueueInOrg (orgId : UUID) (queue : Queue) : Prop :=
  ∃ p ∈ db.projects, p.id = queue.projectId ∧ p.orgId = orgId

instance (orgId : UUID) : DecidablePred (db.QueueInOrg orgId) :=
  fun queue => inferInstanceAs (Decidable (∃ p ∈ db.projects, p.id = queue.projectId ∧ _))

/-- `REFERENCES retry_policies(id)`. -/
def RetryPolicyExists (policy : Option UUID) : Prop :=
  ∀ id ∈ policy, ∃ p ∈ db.retryPolicies, p.id = id

instance (policy : Option UUID) : Decidable (db.RetryPolicyExists policy) :=
  match policy with
  | none => isTrue fun _ member => by cases member
  | some id => decidable_of_iff (∃ p ∈ db.retryPolicies, p.id = id)
      (by simp [RetryPolicyExists])

/-- Delete queues, with the jobs, executions, logs and dead letters that go with
them. -/
def deleteQueues (gone : List UUID) : Database :=
  let goneJobs := (db.jobs.filter (·.queueId ∈ gone)).map (·.id)
  { db with
    queues := db.queues.filter (·.id ∉ gone)
    jobs := db.jobs.filter (·.queueId ∉ gone)
    jobExecutions := db.jobExecutions.filter (·.jobId ∉ goneJobs)
    jobLogs := db.jobLogs.filter (·.jobId ∉ goneJobs)
    deadLetterQueue := db.deadLetterQueue.filter
      fun entry => entry.jobId ∉ goneJobs ∧ entry.originalQueueId ∉ gone }

/-- Delete projects, with their queues. -/
def deleteProjects (gone : List UUID) : Database :=
  { db.deleteQueues ((db.queues.filter (·.projectId ∈ gone)).map (·.id)) with
    projects := db.projects.filter (·.id ∉ gone) }

/-! ## Organizations -/

/-- `OrgRepository.Create`. -/
def createOrg (now : Timestamptz) (id : UUID) (name slug : String) :
    Except StoreError Database :=
  if ∃ o ∈ db.organizations, o.slug = slug then .error .conflict
  else .ok { db with organizations := db.organizations ++ [⟨id, name, slug, now, now⟩] }

/-- `OrgRepository.Update`. -/
def updateOrg (now : Timestamptz) (id : UUID) (name slug : String) :
    Except StoreError Database :=
  if ¬ ∃ o ∈ db.organizations, o.id = id then .error .notFound
  else if ∃ o ∈ db.organizations, o.id ≠ id ∧ o.slug = slug then .error .conflict
  else .ok { db with
    organizations := update (·.id = id)
      (fun o => { o with name := name, slug := slug, updatedAt := now }) db.organizations }

/-- `OrgRepository.Delete`: the projects of the organization go with it. -/
def deleteOrg (id : UUID) : Except StoreError Database :=
  if ¬ ∃ o ∈ db.organizations, o.id = id then .error .notFound
  else .ok { db.deleteProjects ((db.projects.filter (·.orgId = id)).map (·.id)) with
    organizations := db.organizations.filter (·.id ≠ id) }

/-! ## Projects -/

/-- `ProjectRepository.Create`. -/
def createProject (now : Timestamptz) (id orgId : UUID) (name slug : String)
    (description : Option String) : Except StoreError Database :=
  if ¬ ∃ o ∈ db.organizations, o.id = orgId then .error .foreignKeyViolation
  else if ∃ p ∈ db.projects, p.orgId = orgId ∧ p.slug = slug then .error .conflict
  else .ok { db with
    projects := db.projects ++ [⟨id, orgId, name, slug, description, now, now⟩] }

/-- `ProjectRepository.Update`. -/
def updateProject (now : Timestamptz) (id orgId : UUID) (name slug : String)
    (description : Option String) : Except StoreError Database :=
  if ¬ ∃ p ∈ db.projects, p.id = id ∧ p.orgId = orgId then .error .notFound
  else if ∃ p ∈ db.projects, p.id ≠ id ∧ p.orgId = orgId ∧ p.slug = slug then
    .error .conflict
  else .ok { db with
    projects := update (fun p => p.id = id ∧ p.orgId = orgId)
      (fun p => { p with
        name := name, slug := slug, description := description, updatedAt := now })
      db.projects }

/-- `ProjectRepository.Delete`. -/
def deleteProject (id orgId : UUID) : Except StoreError Database :=
  if ¬ ∃ p ∈ db.projects, p.id = id ∧ p.orgId = orgId then .error .notFound
  else .ok (db.deleteProjects [id])

/-! ## Queues -/

/-- `QueueRepository.Create` with the fields of `queue`; the timestamps are set by the
server. -/
def createQueue (now : Timestamptz) (queue : Queue) : Except StoreError Database :=
  if ¬ (InInt4 queue.priorityDefault ∧ ∀ limit ∈ queue.concurrencyLimit, InInt4 limit) then
    .error .numericOutOfRange
  else if ∃ q ∈ db.queues, q.projectId = queue.projectId ∧ q.slug = queue.slug then
    .error .conflict
  else if ¬ (∃ p ∈ db.projects, p.id = queue.projectId) ∨
      ¬ db.RetryPolicyExists queue.retryPolicyId then
    .error .foreignKeyViolation
  else .ok { db with queues := db.queues ++ [{ queue with createdAt := now, updatedAt := now }] }

/-- `QueueRepository.GetByID`. -/
def getQueue (id orgId : UUID) : Except StoreError Queue :=
  match db.queues.find? fun q => q.id = id ∧ db.QueueInOrg orgId q with
  | some queue => .ok queue
  | none => .error .notFound

/-- `QueueRepository.Update` with the fields of `queue`. -/
def updateQueue (now : Timestamptz) (queue : Queue) (orgId : UUID) :
    Except StoreError Database :=
  if ¬ (InInt4 queue.priorityDefault ∧ ∀ limit ∈ queue.concurrencyLimit, InInt4 limit) then
    .error .numericOutOfRange
  else if ¬ ∃ q ∈ db.queues, q.id = queue.id ∧ db.QueueInOrg orgId q then .error .notFound
  else if ∃ q ∈ db.queues, q.id = queue.id ∧
      ∃ other ∈ db.queues, other.id ≠ q.id ∧ other.projectId = q.projectId ∧
        other.slug = queue.slug then
    .error .conflict
  else if ¬ db.RetryPolicyExists queue.retryPolicyId then .error .foreignKeyViolation
  else .ok { db with
    queues := update (fun q => q.id = queue.id ∧ db.QueueInOrg orgId q)
      (fun q => { q with
        name := queue.name
        slug := queue.slug
        retryPolicyId := queue.retryPolicyId
        priorityDefault := queue.priorityDefault
        concurrencyLimit := queue.concurrencyLimit
        paused := queue.paused
        updatedAt := now })
      db.queues }

/-- `QueueRepository.Delete`. -/
def deleteQueue (id orgId : UUID) : Except StoreError Database :=
  if ¬ ∃ q ∈ db.queues, q.id = id ∧ db.QueueInOrg orgId q then .error .notFound
  else .ok (db.deleteQueues [id])

/-- `QueueRepository.SetPaused`. -/
def setPaused (now : Timestamptz) (id orgId : UUID) (paused : Bool) :
    Except StoreError Database :=
  if ¬ ∃ q ∈ db.queues, q.id = id ∧ db.QueueInOrg orgId q then .error .notFound
  else .ok { db with
    queues := update (fun q => q.id = id ∧ db.QueueInOrg orgId q)
      (fun q => { q with paused := paused, updatedAt := now }) db.queues }

/-! ## What a successful write has checked and what it has done -/

variable {db} {db' : Database} {now : Timestamptz} {id orgId : UUID} {name slug : String}
  {description : Option String} {queue : Queue}

theorem createOrg_spec (creates : db.createOrg now id name slug = .ok db') :
    (¬ ∃ o ∈ db.organizations, o.slug = slug) ∧
      db' = { db with organizations := db.organizations ++ [⟨id, name, slug, now, now⟩] } := by
  obtain ⟨free, done⟩ := passed_check creates
  cases done
  exact ⟨free, rfl⟩

theorem updateOrg_spec (updates : db.updateOrg now id name slug = .ok db') :
    (∃ o ∈ db.organizations, o.id = id) ∧
      (¬ ∃ o ∈ db.organizations, o.id ≠ id ∧ o.slug = slug) ∧
      db' = { db with
        organizations := update (·.id = id)
          (fun o => { o with name := name, slug := slug, updatedAt := now }) db.organizations } := by
  obtain ⟨found, updates⟩ := passed_check updates
  obtain ⟨free, done⟩ := passed_check updates
  cases done
  exact ⟨not_not.mp found, free, rfl⟩

theorem deleteOrg_spec (deletes : db.deleteOrg id = .ok db') :
    (∃ o ∈ db.organizations, o.id = id) ∧
      db' = { db.deleteProjects ((db.projects.filter (·.orgId = id)).map (·.id)) with
        organizations := db.organizations.filter (·.id ≠ id) } := by
  obtain ⟨found, done⟩ := passed_check deletes
  cases done
  exact ⟨not_not.mp found, rfl⟩

theorem createProject_spec
    (creates : db.createProject now id orgId name slug description = .ok db') :
    (∃ o ∈ db.organizations, o.id = orgId) ∧
      (¬ ∃ p ∈ db.projects, p.orgId = orgId ∧ p.slug = slug) ∧
      db' = { db with
        projects := db.projects ++ [⟨id, orgId, name, slug, description, now, now⟩] } := by
  obtain ⟨found, creates⟩ := passed_check creates
  obtain ⟨free, done⟩ := passed_check creates
  cases done
  exact ⟨not_not.mp found, free, rfl⟩

theorem updateProject_spec
    (updates : db.updateProject now id orgId name slug description = .ok db') :
    (∃ p ∈ db.projects, p.id = id ∧ p.orgId = orgId) ∧
      (¬ ∃ p ∈ db.projects, p.id ≠ id ∧ p.orgId = orgId ∧ p.slug = slug) ∧
      db' = { db with
        projects := update (fun p => p.id = id ∧ p.orgId = orgId)
          (fun p => { p with
            name := name, slug := slug, description := description, updatedAt := now })
          db.projects } := by
  obtain ⟨found, updates⟩ := passed_check updates
  obtain ⟨free, done⟩ := passed_check updates
  cases done
  exact ⟨not_not.mp found, free, rfl⟩

theorem deleteProject_spec (deletes : db.deleteProject id orgId = .ok db') :
    (∃ p ∈ db.projects, p.id = id ∧ p.orgId = orgId) ∧ db' = db.deleteProjects [id] := by
  obtain ⟨found, done⟩ := passed_check deletes
  cases done
  exact ⟨not_not.mp found, rfl⟩

theorem createQueue_spec (creates : db.createQueue now queue = .ok db') :
    (InInt4 queue.priorityDefault ∧ ∀ limit ∈ queue.concurrencyLimit, InInt4 limit) ∧
      (¬ ∃ q ∈ db.queues, q.projectId = queue.projectId ∧ q.slug = queue.slug) ∧
      (∃ p ∈ db.projects, p.id = queue.projectId) ∧ db.RetryPolicyExists queue.retryPolicyId ∧
      db' = { db with
        queues := db.queues ++ [{ queue with createdAt := now, updatedAt := now }] } := by
  obtain ⟨range, creates⟩ := passed_check creates
  obtain ⟨free, creates⟩ := passed_check creates
  obtain ⟨references, done⟩ := passed_check creates
  obtain ⟨project, policy⟩ := not_or.mp references
  cases done
  exact ⟨not_not.mp range, free, not_not.mp project, not_not.mp policy, rfl⟩

theorem updateQueue_spec (updates : db.updateQueue now queue orgId = .ok db') :
    (InInt4 queue.priorityDefault ∧ ∀ limit ∈ queue.concurrencyLimit, InInt4 limit) ∧
      (∃ q ∈ db.queues, q.id = queue.id ∧ db.QueueInOrg orgId q) ∧
      (¬ ∃ q ∈ db.queues, q.id = queue.id ∧
        ∃ other ∈ db.queues, other.id ≠ q.id ∧ other.projectId = q.projectId ∧
          other.slug = queue.slug) ∧
      db.RetryPolicyExists queue.retryPolicyId ∧
      db' = { db with
        queues := update (fun q => q.id = queue.id ∧ db.QueueInOrg orgId q)
          (fun q => { q with
            name := queue.name
            slug := queue.slug
            retryPolicyId := queue.retryPolicyId
            priorityDefault := queue.priorityDefault
            concurrencyLimit := queue.concurrencyLimit
            paused := queue.paused
            updatedAt := now })
          db.queues } := by
  obtain ⟨range, updates⟩ := passed_check updates
  obtain ⟨found, updates⟩ := passed_check updates
  obtain ⟨free, updates⟩ := passed_check updates
  obtain ⟨policy, done⟩ := passed_check updates
  cases done
  exact ⟨not_not.mp range, not_not.mp found, free, not_not.mp policy, rfl⟩

theorem deleteQueue_spec (deletes : db.deleteQueue id orgId = .ok db') :
    (∃ q ∈ db.queues, q.id = id ∧ db.QueueInOrg orgId q) ∧ db' = db.deleteQueues [id] := by
  obtain ⟨found, done⟩ := passed_check deletes
  cases done
  exact ⟨not_not.mp found, rfl⟩

theorem setPaused_spec {paused : Bool} (sets : db.setPaused now id orgId paused = .ok db') :
    (∃ q ∈ db.queues, q.id = id ∧ db.QueueInOrg orgId q) ∧
      db' = { db with
        queues := update (fun q => q.id = id ∧ db.QueueInOrg orgId q)
          (fun q => { q with paused := paused, updatedAt := now }) db.queues } := by
  obtain ⟨found, done⟩ := passed_check sets
  cases done
  exact ⟨not_not.mp found, rfl⟩

end Database

end JobScheduler
