import JobScheduler.Api.Writes
import JobScheduler.Relational.Constraints

/-!
# The schema under every write

The constraints of `migrations/`: primary keys, unique indexes, foreign keys and the range of an
`INT`, and that a dead letter is in the queue of its job, which no constraint says. Every write of
the store on behalf of a caller keeps them all, so every request does.
-/

set_option autoImplicit false

namespace JobScheduler

open Relational Transition

/-- The tables satisfy the constraints of the schema. -/
structure Site.Sound (site : Site) : Prop extends Site.Valid site where
  lettersFollow : site.LettersFollow
  organizationSlugs : (site.organizations.map (·.slug)).Nodup
  userKeys : (site.users.map (·.id)).Nodup
  userOrganizations : References User.orgId Organization.id site.users site.organizations
  userEmails : (site.users.map fun u => (u.orgId, u.email)).Nodup
  projectOrganizations :
    References Project.orgId Organization.id site.projects site.organizations
  projectSlugs : (site.projects.map fun p => (p.orgId, p.slug)).Nodup
  queueSlugs : (site.queues.map fun q => (q.projectId, q.slug)).Nodup
  queuePolicies : ∀ q ∈ site.queues, site.core.RetryPolicyExists q.retryPolicyId
  queueRanges : ∀ q ∈ site.queues,
    InInt4 q.priorityDefault ∧ ∀ limit ∈ q.concurrencyLimit, InInt4 limit
  jobPolicies : ∀ j ∈ site.jobs, site.core.RetryPolicyExists j.retryPolicyId
  jobWorkers : ∀ j ∈ site.jobs, ∀ id ∈ j.workerId, ∃ w ∈ site.workers, w.id = id
  jobRanges : ∀ j ∈ site.jobs, InInt4 j.priority ∧ InInt4 j.maxAttempts ∧ InInt4 j.attempts
  letterJobKeys : (site.letters.map (·.entry.jobId)).Nodup

namespace Site.Sound

variable {site : Site}

/-! ## The foreign keys -/

theorem queueReferences (sound : site.Sound) :
    References Queue.projectId Project.id site.queues site.projects := sound.queueProjects

theorem jobReferences (sound : site.Sound) :
    References Job.queueId Queue.id site.jobs site.queues := sound.jobQueues

theorem executionReferences (sound : site.Sound) :
    References ExecutionRow.jobId Job.id site.executions site.jobs := sound.executionJobs

theorem logReferences (sound : site.Sound) :
    References LogRow.jobId Job.id site.logs site.jobs := sound.logJobs

theorem letterReferences (sound : site.Sound) :
    References (fun d : Letter => d.entry.jobId) Job.id site.letters site.jobs := sound.letterJobs

theorem letterQueueReferences (sound : site.Sound) :
    References (fun d : Letter => d.entry.originalQueueId) Queue.id site.letters site.queues :=
  sound.letterQueues

/-! ## Organizations and projects -/

section Tenancy

variable {now : Timestamptz} {id orgId : UUID} {name slug : String} {description : Option String}

theorem insertOrganization (sound : site.Sound) {org : Organization}
    (fresh : ∀ o ∈ site.organizations, o.id ≠ org.id)
    (free : ¬ ∃ o ∈ site.organizations, o.slug = org.slug) :
    Site.Sound { site with organizations := site.organizations ++ [org] } :=
  { sound with
    organizationKeys := nodup_map_append sound.organizationKeys
      fun ⟨o, member, same⟩ => fresh o member same
    organizationSlugs := nodup_map_append sound.organizationSlugs free
    userOrganizations := sound.userOrganizations.targets_append _
    projectOrganizations := sound.projectOrganizations.targets_append _ }

theorem insertUser (sound : site.Sound) {user : User} (fresh : ∀ u ∈ site.users, u.id ≠ user.id)
    (found : ∃ o ∈ site.organizations, o.id = user.orgId)
    (free : ¬ ∃ u ∈ site.users, u.orgId = user.orgId ∧ u.email = user.email) :
    Site.Sound { site with users := site.users ++ [user] } :=
  { sound with
    userKeys := nodup_map_append sound.userKeys fun ⟨u, member, same⟩ => fresh u member same
    userOrganizations := sound.userOrganizations.append found
    userEmails := nodup_map_append sound.userEmails
      fun ⟨u, member, same⟩ => free ⟨u, member, Prod.mk.inj same⟩ }

theorem updateOrg (sound : site.Sound) {site' : Site}
    (done : site.updateOrg now id name slug = .ok site') : site'.Sound := by
  obtain ⟨db, updates, rfl⟩ := succeeded_of_map done
  obtain ⟨_, free, rfl⟩ := Database.updateOrg_spec updates
  have ids : ∀ org : Organization, ({ org with name := name, slug := slug, updatedAt := now } :
      Organization).id = org.id := fun _ => rfl
  exact { sound with
    organizationKeys := nodup_map_update ids sound.organizationKeys
    organizationSlugs := nodup_map_update_of_free sound.organizationKeys sound.organizationSlugs
      (fun _ _ selected => selected) fun _ _ _ => free
    userOrganizations := sound.userOrganizations.targets_update ids
    projectOrganizations := sound.projectOrganizations.targets_update ids }

theorem createProject (sound : site.Sound) (fresh : ∀ p ∈ site.projects, p.id ≠ id) {site' : Site}
    (done : site.createProject now id orgId name slug description = .ok site') : site'.Sound := by
  obtain ⟨db, creates, rfl⟩ := succeeded_of_map done
  obtain ⟨found, free, rfl⟩ := Database.createProject_spec creates
  exact { sound with
    projectKeys := nodup_map_append sound.projectKeys
      fun ⟨p, member, same⟩ => fresh p member same
    projectOrganizations := sound.projectOrganizations.append found
    projectSlugs := nodup_map_append sound.projectSlugs
      fun ⟨p, member, same⟩ => free ⟨p, member, Prod.mk.inj same⟩
    queueProjects := sound.queueReferences.targets_append _ }

theorem updateProject (sound : site.Sound) {site' : Site}
    (done : site.updateProject now id orgId name slug description = .ok site') :
    site'.Sound := by
  obtain ⟨db, updates, rfl⟩ := succeeded_of_map done
  obtain ⟨_, free, rfl⟩ := Database.updateProject_spec updates
  have ids : ∀ p : Project, ({ p with
      name := name, slug := slug, description := description, updatedAt := now } :
      Project).id = p.id := fun _ => rfl
  refine { sound with
    projectKeys := nodup_map_update ids sound.projectKeys
    projectOrganizations := sound.projectOrganizations.update fun _ => rfl
    projectSlugs := nodup_map_update_of_free sound.projectKeys sound.projectSlugs
      (fun _ _ selected => selected.1) ?_
    queueProjects := sound.queueReferences.targets_update ids }
  rintro p _ ⟨_, owner⟩ ⟨other, listed, elsewhere, same⟩
  obtain ⟨org, taken⟩ := Prod.mk.inj same
  exact free ⟨other, listed, elsewhere, org.trans owner, taken⟩

end Tenancy

/-! ## Queues -/

section Queues

variable {now : Timestamptz} {id orgId : UUID} {queue : Queue} {site' : Site}

theorem createQueue (sound : site.Sound) (fresh : ∀ q ∈ site.queues, q.id ≠ queue.id)
    (done : site.createQueue now queue = .ok site') : site'.Sound := by
  obtain ⟨db, creates, rfl⟩ := succeeded_of_map done
  obtain ⟨ranges, free, project, policy, rfl⟩ := Database.createQueue_spec creates
  exact { sound with
    queueKeys := nodup_map_append sound.queueKeys fun ⟨q, member, same⟩ => fresh q member same
    queueProjects := sound.queueReferences.append project
    jobQueues := sound.jobReferences.targets_append _
    letterQueues := sound.letterQueueReferences.targets_append _
    queueSlugs := nodup_map_append sound.queueSlugs
      fun ⟨q, member, same⟩ => free ⟨q, member, Prod.mk.inj same⟩
    queuePolicies := forall_mem_append_singleton sound.queuePolicies policy
    queueRanges := forall_mem_append_singleton sound.queueRanges ranges }

theorem updateQueue (sound : site.Sound) (done : site.updateQueue now queue orgId = .ok site') :
    site'.Sound := by
  obtain ⟨db, updates, rfl⟩ := succeeded_of_map done
  obtain ⟨ranges, _, free, policy, rfl⟩ := Database.updateQueue_spec updates
  refine { sound with
    queueKeys := nodup_map_update (fun _ => rfl) sound.queueKeys
    queueProjects := sound.queueReferences.update fun _ => rfl
    jobQueues := sound.jobReferences.targets_update fun _ => rfl
    letterQueues := sound.letterQueueReferences.targets_update fun _ => rfl
    queueSlugs := nodup_map_update_of_free sound.queueKeys sound.queueSlugs
      (fun _ _ selected => selected.1) ?_
    queuePolicies := forall_mem_update sound.queuePolicies fun _ _ _ => policy
    queueRanges := forall_mem_update sound.queueRanges fun _ _ _ => ranges }
  rintro q member ⟨same, _⟩ ⟨other, listed, elsewhere, both⟩
  obtain ⟨project, taken⟩ := Prod.mk.inj both
  exact free ⟨q, member, same, other, listed, same ▸ elsewhere, project, taken⟩

theorem setPaused (sound : site.Sound) {paused : Bool}
    (done : site.setPaused now id orgId paused = .ok site') : site'.Sound := by
  obtain ⟨db, sets, rfl⟩ := succeeded_of_map done
  obtain ⟨_, rfl⟩ := Database.setPaused_spec sets
  refine { sound with
    queueKeys := nodup_map_update (fun _ => rfl) sound.queueKeys
    queueProjects := sound.queueReferences.update fun _ => rfl
    jobQueues := sound.jobReferences.targets_update fun _ => rfl
    letterQueues := sound.letterQueueReferences.targets_update fun _ => rfl
    queueSlugs := ?_
    queuePolicies := forall_mem_update sound.queuePolicies fun q member _ =>
      sound.queuePolicies q member
    queueRanges := forall_mem_update sound.queueRanges fun q member _ =>
      sound.queueRanges q member }
  exact nodup_map_update (fun _ => rfl) sound.queueSlugs

end Queues

/-! ## Jobs -/

section Jobs

variable {now : Timestamptz} {orgId : UUID}

theorem createJob (sound : site.Sound) {id : UUID} {input : CreateJobInput}
    (fresh : ∀ j ∈ site.jobs, j.id ≠ id) {done : Site × CreateJobResult}
    (creates : site.createJob now id input = .ok done) : done.1.Sound := by
  obtain ⟨db, made, rfl⟩ := succeeded_of_map creates
  obtain ⟨ranges, _⟩ := passed_check made
  have kept := (createJob_keeps sound.toValid fresh creates).1
  rcases createJob_cases creates with same | ⟨same, _⟩
  · rw [same]
    exact sound
  · rw [same] at kept ⊢
    obtain ⟨priority, maxAttempts⟩ := not_not.mp ranges
    exact { sound with
      toValid := kept
      lettersFollow := by
        intro d letter j listed
        rcases List.mem_append.mp listed with old | new
        · exact sound.lettersFollow d letter j old
        · intro here
          obtain ⟨j', member, same'⟩ := sound.letterJobs d letter
          rw [List.mem_singleton.mp new] at here
          exact absurd (same'.trans here.symm) (fresh j' member)
      jobPolicies := forall_mem_append_singleton sound.jobPolicies fun _ none => by cases none
      jobWorkers := forall_mem_append_singleton sound.jobWorkers fun _ none => by cases none
      jobRanges := forall_mem_append_singleton sound.jobRanges
        ⟨priority, maxAttempts, by simp [InInt4, Job.inserted]⟩ }

theorem createJobBatch : ∀ {inputs : List (UUID × CreateJobInput)} {site : Site}, site.Sound →
    (inputs.map (·.1)).Nodup → (∀ j ∈ site.jobs, j.id ∉ inputs.map (·.1)) →
    ∀ {site' : Site} {rows : List Job}, site.createJobBatch now inputs = .ok (site', rows) →
      site'.Sound
  | [], site, sound, _, _, site', rows, creates => by
      cases creates
      exact sound
  | (id, input) :: rest, site, sound, distinct, fresh, site', rows, creates => by
      rw [List.map_cons, List.nodup_cons] at distinct
      have unused : ∀ j ∈ site.jobs, j.id ≠ id := by
        rintro j member rfl
        exact fresh j member List.mem_cons_self
      rw [createJobBatch_cons] at creates
      split at creates
      · cases creates
      next first made =>
        split at creates
        · cases creates
        next last later =>
          cases creates
          refine createJobBatch (sound.createJob unused made) distinct.2 ?_ later
          intro j member
          rcases (createJob_keeps sound.toValid unused made).2.1 j member with old | new
          · exact fun drawn => fresh j old (List.mem_cons_of_mem _ drawn)
          · rw [new]
            exact distinct.1

theorem retryDLQJob (sound : site.Sound) {id : UUID} {done : Site × Job}
    (retries : site.retryDLQJob now id orgId = .ok done) : done.1.Sound := by
  obtain ⟨⟨db, job⟩, made, rfl⟩ := succeeded_of_map retries
  obtain ⟨_, rfl⟩ := site.core.retryDLQJob_spec made
  have keys : ∀ j ∈ update (·.id = id) (Job.retryDLQ now) site.jobs,
      ∃ old ∈ site.jobs, old.fixed = j.fixed := by
    intro j member
    rcases cases_mem_update member with ⟨before, _⟩ | ⟨old, before, _, rfl⟩
    · exact ⟨j, before, rfl⟩
    · exact ⟨old, before, rfl⟩
  refine { sound with
    jobKeys := nodup_map_update (fun _ => rfl) sound.jobKeys
    letterKeys := nodup_map_filter sound.letterKeys _
    jobQueues := sound.jobReferences.update fun _ => rfl
    executionJobs := sound.executionReferences.targets_update fun _ => rfl
    logJobs := sound.logReferences.targets_update fun _ => rfl
    letterJobs := sound.letterReferences.filter.targets_update fun _ => rfl
    letterQueues := forall_mem_filter sound.letterQueues
    idempotencyKeys := ?_
    lettersFollow := ?_
    jobPolicies := forall_mem_update sound.jobPolicies fun j member _ => sound.jobPolicies j member
    jobWorkers := forall_mem_update sound.jobWorkers fun _ _ _ _ none => by cases none
    jobRanges := forall_mem_update sound.jobRanges fun j member _ =>
      ⟨(sound.jobRanges j member).1, (sound.jobRanges j member).2.1, by
        simp [InInt4, Job.retryDLQ]⟩
    letterJobKeys := nodup_map_filter sound.letterJobKeys _ }
  · -- rows with the fixed columns of the old ones
    intro first firstMember second secondMember sameQueue keyed sameKey
    have ids : ((update (·.id = id) (Job.retryDLQ now) site.jobs).map (·.id)).Nodup :=
      nodup_map_update (fun _ => rfl) sound.jobKeys
    obtain ⟨old, oldMember, fixed⟩ := keys first firstMember
    obtain ⟨old', oldMember', fixed'⟩ := keys second secondMember
    refine eq_of_key_eq ids firstMember secondMember ?_
    rw [← Job.id_eq_of_fixed fixed, ← Job.id_eq_of_fixed fixed']
    rw [← Job.queueId_eq_of_fixed fixed, ← Job.queueId_eq_of_fixed fixed'] at sameQueue
    rw [← Job.idempotencyKey_eq_of_fixed fixed] at keyed
    rw [← Job.idempotencyKey_eq_of_fixed fixed, ← Job.idempotencyKey_eq_of_fixed fixed'] at sameKey
    rw [sound.idempotencyKeys old oldMember old' oldMember' sameQueue keyed sameKey]
  · intro d letter j member here
    obtain ⟨old, oldMember, fixed⟩ := keys j member
    rw [← Job.queueId_eq_of_fixed fixed]
    rw [← Job.id_eq_of_fixed fixed] at here
    exact sound.lettersFollow d (List.mem_of_mem_filter letter) old oldMember here

end Jobs

/-! ## Deletions -/

theorem deleteQueues (sound : site.Sound) (gone : List UUID) : (site.deleteQueues gone).Sound := by
  have jobsStay : ∀ {id : UUID}, id ∉ (site.jobs.filter (·.queueId ∈ gone)).map (·.id) →
      ∀ j ∈ site.jobs, j.id = id → j.queueId ∉ gone := by
    rintro id stays j member rfl inside
    exact stays (mem_goneJobs.mpr ⟨j, member, inside, rfl⟩)
  exact { sound with
    queueKeys := nodup_map_filter sound.queueKeys _
    jobKeys := nodup_map_filter sound.jobKeys _
    executionKeys := nodup_map_filter sound.executionKeys _
    logKeys := nodup_map_filter sound.logKeys _
    letterKeys := nodup_map_filter sound.letterKeys _
    queueProjects := forall_mem_filter sound.queueProjects
    jobQueues := sound.jobReferences.cascade
      fun j _ kept q _ same => by rw [same]; exact kept
    executionJobs := sound.executionReferences.cascade
      fun e _ kept j member same =>
        decide_eq_true (jobsStay (of_decide_eq_true kept) j member same)
    logJobs := sound.logReferences.cascade
      fun l _ kept j member same =>
        decide_eq_true (jobsStay (of_decide_eq_true kept) j member same)
    letterJobs := sound.letterReferences.cascade
      fun d _ kept j member same =>
        decide_eq_true (jobsStay (of_decide_eq_true kept).1 j member same)
    letterQueues := sound.letterQueueReferences.cascade
      fun d _ kept q _ same => by
        rw [same]
        exact decide_eq_true (of_decide_eq_true kept).2
    idempotencyKeys := fun first firstMember second secondMember =>
      sound.idempotencyKeys first (List.mem_of_mem_filter firstMember) second
        (List.mem_of_mem_filter secondMember)
    lettersFollow := fun d letter j member =>
      sound.lettersFollow d (List.mem_of_mem_filter letter) j (List.mem_of_mem_filter member)
    queueSlugs := nodup_map_filter sound.queueSlugs _
    queuePolicies := forall_mem_filter sound.queuePolicies
    queueRanges := forall_mem_filter sound.queueRanges
    jobPolicies := forall_mem_filter sound.jobPolicies
    jobWorkers := forall_mem_filter sound.jobWorkers
    jobRanges := forall_mem_filter sound.jobRanges
    letterJobKeys := nodup_map_filter sound.letterJobKeys _ }

theorem deleteProjects (sound : site.Sound) (gone : List UUID) :
    (site.deleteProjects gone).Sound := by
  have rest := sound.deleteQueues (site.queuesOf gone)
  exact { rest with
    projectKeys := nodup_map_filter sound.projectKeys _
    queueProjects := sound.queueReferences.cascade
      fun q member kept p _ same => by
        rw [decide_eq_true_eq] at kept ⊢
        rw [same]
        exact fun inside => kept ((sound.mem_queuesOf member).mpr inside)
    projectOrganizations := sound.projectOrganizations.filter
    projectSlugs := nodup_map_filter sound.projectSlugs _ }

theorem deleteOrg (sound : site.Sound) {id : UUID} {site' : Site}
    (done : site.deleteOrg id = .ok site') : site'.Sound := by
  obtain ⟨db, deletes, rfl⟩ := succeeded_of_map done
  obtain ⟨_, rfl⟩ := Database.deleteOrg_spec deletes
  have rest := sound.deleteProjects ((site.projects.filter (·.orgId = id)).map (·.id))
  exact { rest with
    organizationKeys := nodup_map_filter sound.organizationKeys _
    organizationSlugs := nodup_map_filter sound.organizationSlugs _
    userKeys := nodup_map_filter sound.userKeys _
    userOrganizations := sound.userOrganizations.cascade fun u _ kept o _ same => by
      rw [decide_eq_true_eq] at kept ⊢
      exact fun here => kept (same.symm.trans here)
    userEmails := nodup_map_filter sound.userEmails _
    projectOrganizations := sound.projectOrganizations.cascade fun p member kept o _ same => by
      rw [decide_eq_true_eq] at kept ⊢
      rintro here
      exact kept (List.mem_map_of_mem
        (List.mem_filter.mpr ⟨member, decide_eq_true (same.symm.trans here)⟩)) }

/-! ## Every write -/

/-- **Every write keeps the schema.** -/
theorem write (sound : site.Sound) {env : ApiEnv} {orgId : UUID} {drawn : List UUID}
    (unused : site.Unused drawn) {site' : Site} (write : site.Write env orgId drawn site') :
    site'.Sound := by
  cases write with
  | updateOrg done => exact sound.updateOrg done
  | deleteOrg done => exact sound.deleteOrg done
  | createProject draws done =>
      subst draws
      exact sound.createProject unused.project_ne done
  | updateProject done => exact sound.updateProject done
  | deleteProject done =>
      obtain ⟨_, _, rfl⟩ := succeeded_of_map done
      exact sound.deleteProjects _
  | createQueue draws owner done =>
      subst draws
      exact sound.createQueue unused.queue_ne done
  | updateQueue done => exact sound.updateQueue done
  | deleteQueue done =>
      obtain ⟨_, _, rfl⟩ := succeeded_of_map done
      exact sound.deleteQueues _
  | setPaused done => exact sound.setPaused done
  | createJob draws found builds done =>
      subst draws
      exact sound.createJob unused.job_ne done
  | createJobBatch draws sized found builds done =>
      subst draws
      have ids := (buildInputs_columns builds).1
      refine sound.createJobBatch ?_ ?_ done
      · rw [ids]
        exact unused.tail.distinct
      · rw [ids]
        exact unused.tail.jobs
  | retryDLQJob done => exact sound.retryDLQJob done

end Site.Sound

end JobScheduler
