import JobScheduler.Api.Service
import JobScheduler.System.World

/-!
# The service as a part of the whole system

The whole system knows of the API its writing repository calls, the service what the handlers do
around them. Every step of the service is matched: it leaves the tables as they are, or it makes
exactly one writing call of the system, with a row of `users` besides when an account registers.
So the tables that requests lead to are tables that the whole system reaches without an engine, and
its invariants hold of them.

The API server and the database read one clock here, as the whole system does.
-/

set_option autoImplicit false

namespace JobScheduler

open Relational Transition

/-- How a row of the history is read, with the job it belongs to. -/
structure RowReader where
  execution : ExecutionRow → JobExecution
  log : LogRow → JobLogEntry
  executionJob : ∀ e, (execution e).jobId = e.jobId
  logJob : ∀ l, (log l).jobId = l.jobId

variable (read : RowReader)

/-- The tables of the service as the whole system sees them. -/
def Site.database (site : Site) : Database :=
  { site.core with
    jobExecutions := site.executions.map read.execution
    jobLogs := site.logs.map read.log
    deadLetterQueue := site.letters.map (·.entry) }

namespace Site

variable {read} {site site' : Site}

/-! ## Deletions -/

theorem map_filter_eq {α β : Type} {f : α → β} {keep : α → Bool} {keep' : β → Bool}
    (same : ∀ row, keep' (f row) = keep row) (rows : List α) :
    (rows.filter keep).map f = (rows.map f).filter keep' := by
  rw [List.filter_map]
  congr 2
  funext row
  exact (same row).symm

theorem database_deleteQueues (gone : List UUID) :
    (site.deleteQueues gone).database read = (site.database read).deleteQueues gone := by
  unfold deleteQueues database Database.deleteQueues core
  dsimp only
  generalize (site.jobs.filter (·.queueId ∈ gone)).map (·.id) = goneJobs
  have executions : (site.executions.filter (·.jobId ∉ goneJobs)).map read.execution =
      (site.executions.map read.execution).filter (·.jobId ∉ goneJobs) :=
    map_filter_eq (fun e => by simp only [read.executionJob]) _
  have logs : (site.logs.filter (·.jobId ∉ goneJobs)).map read.log =
      (site.logs.map read.log).filter (·.jobId ∉ goneJobs) :=
    map_filter_eq (fun l => by simp only [read.logJob]) _
  have letters : (site.letters.filter fun letter =>
        letter.entry.jobId ∉ goneJobs ∧ letter.entry.originalQueueId ∉ gone).map (·.entry) =
      (site.letters.map (·.entry)).filter fun entry =>
        entry.jobId ∉ goneJobs ∧ entry.originalQueueId ∉ gone := by
    rw [List.filter_map]
    rfl
  rw [executions, logs, letters]

theorem database_deleteProjects (gone : List UUID) :
    (site.deleteProjects gone).database read = (site.database read).deleteProjects gone := by
  have queues : (site.deleteQueues (site.queuesOf gone)).database read = _ :=
    database_deleteQueues _
  calc (site.deleteProjects gone).database read
      = { (site.deleteQueues (site.queuesOf gone)).database read with
          projects := site.projects.filter (·.id ∉ gone) } := rfl
    _ = (site.database read).deleteProjects gone := by
        rw [queues]
        rfl

/-! ## Insertions of jobs -/

theorem database_createJob {now : Timestamptz} {id : UUID} {input : CreateJobInput}
    {result : CreateJobResult} (creates : site.createJob now id input = .ok (site', result)) :
    (site.database read).createJob now id input = .ok (site'.database read, result) := by
  obtain ⟨⟨db, result'⟩, made, same⟩ := succeeded_of_map creates
  cases same
  unfold Database.createJob at made ⊢
  obtain ⟨ranges, made⟩ := passed_check made
  rw [if_neg ranges]
  split at made
  next existing found =>
    cases made
    have found' : (site.database read).jobs.find? _ = some existing := found
    rw [found']
    rfl
  next absent =>
    obtain ⟨queue, made⟩ := passed_check made
    cases made
    have absent' : (site.database read).jobs.find? _ = none := absent
    rw [absent']
    exact if_neg queue

theorem database_createJobBatch {now : Timestamptz} :
    ∀ {inputs : List (UUID × CreateJobInput)} {site site' : Site} {rows : List Job},
      site.createJobBatch now inputs = .ok (site', rows) →
        Database.createJobBatch now inputs (site.database read) = .ok (site'.database read, rows)
  | [], site, site', rows, creates => by
      cases creates
      rfl
  | (id, input) :: rest, site, site', rows, creates => by
      rw [createJobBatch_cons] at creates
      split at creates
      · cases creates
      next first made =>
        split at creates
        · cases creates
        next last later =>
          cases creates
          rw [Database.createJobBatch, database_createJob made]
          dsimp only
          rw [database_createJobBatch later]

theorem database_retryDLQJob {now : Timestamptz} {id orgId : UUID} {job : Job}
    (retries : site.retryDLQJob now id orgId = .ok (site', job)) :
    (site.database read).retryDLQJob now id orgId = .ok (site'.database read, job) := by
  obtain ⟨⟨db, job'⟩, made, same⟩ := succeeded_of_map retries
  cases same
  have letters : (site.letters.filter (·.entry.jobId ≠ id)).map (·.entry) =
      (site.letters.map (·.entry)).filter (·.jobId ≠ id) := by
    rw [List.filter_map]
    rfl
  unfold Database.retryDLQJob at made ⊢
  split at made
  · cases made
  next job found =>
    cases made
    have found' : (site.database read).jobs.find?
        ((site.database read).Retriable id orgId) = some job := found
    rw [found']
    exact congrArg (fun rows : List DeadLetterEntry =>
      (Except.ok ({ site.database read with
        jobs := update (·.id = id) (Job.retryDLQ now) site.jobs
        deadLetterQueue := rows }, job.retryDLQ now) : Except StoreError (Database × Job)))
      letters.symm

/-! ## Every write -/

variable {env : ApiEnv} {orgId : UUID} {drawn : List UUID}

/-- The writing call of the whole system that a write is, with the identifiers it draws. -/
def Performs (read : RowReader) (env : ApiEnv) (site site' : Site) (drawn : List UUID)
    (request : Request) : Prop :=
  request.perform env.cron env.now (site.database read) = some (site'.database read) ∧
    request.drawn = drawn

/-- A write that draws nothing and one that does are told apart by the route. -/
theorem Write.performs (write : site.Write env orgId drawn site')
    (oneClock : env.instant = env.now.toTime) :
    ∃ request ids, Performs read env site site' ids request ∧ ids.Sublist drawn := by
  cases write with
  | @updateOrg name slug done =>
      obtain ⟨db, updates, rfl⟩ := succeeded_of_map done
      obtain ⟨found, free, rfl⟩ := Database.updateOrg_spec updates
      refine ⟨.updateOrg orgId name slug, [], ⟨?_, rfl⟩, List.nil_sublist _⟩
      have same : (site.database read).updateOrg env.now orgId name slug = .ok _ :=
        (if_neg (not_not.mpr found)).trans (if_neg free)
      simp only [Request.perform, same]
      rfl
  | deleteOrg done =>
      obtain ⟨db, deletes, rfl⟩ := succeeded_of_map done
      obtain ⟨found, rfl⟩ := Database.deleteOrg_spec deletes
      refine ⟨.deleteOrg orgId, [], ⟨?_, rfl⟩, List.nil_sublist _⟩
      have same : (site.database read).deleteOrg orgId = .ok _ := if_neg (not_not.mpr found)
      simp only [Request.perform, same]
      refine congrArg some ?_
      have projects : (site.deleteProjects ((site.projects.filter (·.orgId = orgId)).map
        (·.id))).database read = _ := database_deleteProjects _
      exact congrArg (fun db : Database => { db with
        organizations := site.organizations.filter (·.id ≠ orgId) }) projects.symm
  | @createProject id name slug description draws done =>
      obtain ⟨db, creates, rfl⟩ := succeeded_of_map done
      obtain ⟨found, free, rfl⟩ := Database.createProject_spec creates
      refine ⟨.createProject id orgId name slug description, [id], ⟨?_, rfl⟩, by rw [draws]⟩
      have same : (site.database read).createProject env.now id orgId name slug description =
          .ok _ := (if_neg (not_not.mpr found)).trans (if_neg free)
      simp only [Request.perform, same]
      rfl
  | @updateProject id name slug description done =>
      obtain ⟨db, updates, rfl⟩ := succeeded_of_map done
      obtain ⟨found, free, rfl⟩ := Database.updateProject_spec updates
      refine ⟨.updateProject id orgId name slug description, [], ⟨?_, rfl⟩, List.nil_sublist _⟩
      have same : (site.database read).updateProject env.now id orgId name slug description =
          .ok _ := (if_neg (not_not.mpr found)).trans (if_neg free)
      simp only [Request.perform, same]
      rfl
  | @deleteProject id done =>
      obtain ⟨db, deletes, rfl⟩ := succeeded_of_map done
      obtain ⟨found, rfl⟩ := Database.deleteProject_spec deletes
      refine ⟨.deleteProject id orgId, [], ⟨?_, rfl⟩, List.nil_sublist _⟩
      have same : (site.database read).deleteProject id orgId = .ok _ :=
        if_neg (not_not.mpr found)
      simp only [Request.perform, same]
      exact congrArg some (database_deleteProjects _).symm
  | @createQueue queue draws owner done =>
      obtain ⟨db, creates, rfl⟩ := succeeded_of_map done
      obtain ⟨ranges, free, project, policy, rfl⟩ := Database.createQueue_spec creates
      refine ⟨.createQueue queue, [queue.id], ⟨?_, rfl⟩, by rw [draws]⟩
      have same : (site.database read).createQueue env.now queue = .ok _ :=
        (if_neg (not_not.mpr ranges)).trans ((if_neg free).trans
          (if_neg (not_or.mpr ⟨not_not.mpr project, not_not.mpr policy⟩)))
      simp only [Request.perform, same]
      rfl
  | @updateQueue queue done =>
      obtain ⟨db, updates, rfl⟩ := succeeded_of_map done
      obtain ⟨ranges, found, free, policy, rfl⟩ := Database.updateQueue_spec updates
      refine ⟨.updateQueue queue orgId, [], ⟨?_, rfl⟩, List.nil_sublist _⟩
      have same : (site.database read).updateQueue env.now queue orgId = .ok _ :=
        (if_neg (not_not.mpr ranges)).trans ((if_neg (not_not.mpr found)).trans
          ((if_neg free).trans (if_neg (not_not.mpr policy))))
      simp only [Request.perform, same]
      rfl
  | @deleteQueue id done =>
      obtain ⟨db, deletes, rfl⟩ := succeeded_of_map done
      obtain ⟨found, rfl⟩ := Database.deleteQueue_spec deletes
      refine ⟨.deleteQueue id orgId, [], ⟨?_, rfl⟩, List.nil_sublist _⟩
      have same : (site.database read).deleteQueue id orgId = .ok _ := if_neg (not_not.mpr found)
      simp only [Request.perform, same]
      exact congrArg some (database_deleteQueues _).symm
  | @setPaused id paused done =>
      obtain ⟨db, sets, rfl⟩ := succeeded_of_map done
      obtain ⟨found, rfl⟩ := Database.setPaused_spec sets
      refine ⟨.setPaused id orgId paused, [], ⟨?_, rfl⟩, List.nil_sublist _⟩
      have same : (site.database read).setPaused env.now id orgId paused = .ok _ :=
        if_neg (not_not.mpr found)
      simp only [Request.perform, same]
      rfl
  | @createJob id req queue input result draws found builds done =>
      refine ⟨.createJob id req queue, [id], ⟨?_, rfl⟩, by rw [draws]⟩
      rw [oneClock] at builds
      simp only [Request.perform, builds, database_createJob done]
      rfl
  | @createJobBatch jobs queue batchId inputs rows draws sized found builds done =>
      subst draws
      refine ⟨.createBatch batchId jobs queue, _, ⟨?_, rfl⟩, List.Sublist.refl _⟩
      have built := buildInputs_toOption env.cron env.instant queue batchId 0 jobs
      rw [builds, oneClock] at built
      have fits : ¬ (jobs = [] ∨ 1000 < jobs.length) :=
        not_or.mpr ⟨sized.1, not_lt.mpr sized.2⟩
      simp only [Request.perform, if_neg fits, ← built, Except.toOption,
        database_createJobBatch done]
      rfl
  | @retryDLQJob id job done =>
      refine ⟨.retryDLQJob id orgId, [], ⟨?_, rfl⟩, List.nil_sublist _⟩
      simp only [Request.perform, database_retryDLQJob done]
      rfl

end Site

end JobScheduler
