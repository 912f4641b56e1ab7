import JobScheduler.Dashboard.Router
import JobScheduler.Api.Isolation

/-!
# Tenant integrity of the dashboard

A request should change nothing of another organization, and one that is answered with `404`
should change nothing at all. The statements of the dashboard carry the organization of the
caller, except the first statement of `retry`: it deletes the dead letters of the job before
anything is known about the job. So the routes keep to the rule, and `retry` keeps to it exactly
when the dead letters of the job are the caller's, by the job and by the queue they name.
-/

set_option autoImplicit false

namespace JobScheduler

open Relational Transition

/-- The dead letters of an organization, by their job or by the queue they were in. -/
def Site.lettersOf (site : Site) (orgId : UUID) : Set Letter :=
  {d | d ∈ site.letters ∧
    (site.QueueIdOf orgId d.entry.originalQueueId ∨ site.JobIdOf orgId d.entry.jobId)}

namespace Dashboard

/-- The rows of the other organizations are as they were. -/
def Spares (orgId : UUID) (site site' : Site) : Prop :=
  ∀ o, o ≠ orgId → site'.tenant o = site.tenant o ∧ site'.lettersOf o = site.lettersOf o

/-- Nothing of another organization changes, and `404` means that nothing changed. -/
def Sound (orgId : UUID) (site : Site) (outcome : Response × Site) : Prop :=
  Spares orgId site outcome.2 ∧ (outcome.1.status = 404 → outcome.2 = site)

/-- A `retry` of a job with dead letters is of a job of the caller, and so are the dead
letters. -/
def RetriesOwn (env : Env) (orgId : UUID) (site : Site) (request : Request) : Prop :=
  ∀ id jobId, route request.method request.path = some (.retryJob id) →
    env.parseUuid id = .ok jobId → ∀ d ∈ site.letters, d.entry.jobId = jobId →
      site.JobIdOf orgId jobId ∧ site.QueueIdOf orgId d.entry.originalQueueId

/-! ## Outcomes -/

section Outcomes

variable {orgId : UUID} {site site' : Site}

theorem Response.caught_status (message : String) : (Response.caught message).status ≠ 404 := by
  unfold Response.caught
  split
  · exact (by decide : 503 ≠ 404)
  · exact (by decide : 500 ≠ 404)

/-- A response without a write. -/
theorem sound_self (response : Response) : Sound orgId site (response, site) :=
  ⟨fun _ _ => ⟨rfl, rfl⟩, fun _ => rfl⟩

/-- A write that reaches no other organization, with a response that admits it. -/
theorem sound_of_spares {response : Response} (spares : Spares orgId site site')
    (status : response.status ≠ 404) : Sound orgId site (response, site') :=
  ⟨spares, fun missing => absurd missing status⟩

/-- Organizations with the same rows have the same dead letters in the same table. -/
theorem lettersOf_congr {o : UUID} (tenant : site'.tenant o = site.tenant o)
    (letters : site'.letters = site.letters) : site'.lettersOf o = site.lettersOf o := by
  ext d
  unfold Site.lettersOf
  rw [Set.mem_ofPred_eq, Set.mem_ofPred_eq, letters, Site.queueIdOf_iff, Site.queueIdOf_iff,
    Site.jobIdOf_iff, Site.jobIdOf_iff, tenant]

theorem spares_of_confined {tenant' : Tenant}
    (confined : Site.Confined True orgId site site' tenant')
    (letters : site'.letters = site.letters) : Spares orgId site site' := by
  intro o other
  have tenant := confined.others trivial o other
  exact ⟨tenant, lettersOf_congr tenant letters⟩

variable {α : Type}

theorem attempt_sound {result : Except String α} {next : α → Response × Site}
    (sound : ∀ value, result = .ok value → Sound orgId site (next value)) :
    Sound orgId site (attempt site result next) := by
  cases result with
  | error message => exact sound_self _
  | ok value => exact sound value rfl

/-- An expression that may throw after a write. -/
theorem attempt_sound_of_spares {result : Except String α} {response : α → Response}
    (spares : Spares orgId site site') (status : ∀ value, (response value).status ≠ 404) :
    Sound orgId site (attempt site' result fun value => (response value, site')) := by
  cases result with
  | error message => exact sound_of_spares spares (Response.caught_status message)
  | ok value => exact sound_of_spares spares (status value)

end Outcomes

/-! ## Handlers -/

section Handlers

variable {env : Env} {orgId : UUID} {site : Site}

theorem login_sound (body : Except String (Option Fields)) :
    Sound orgId site (login env site body) := by
  refine attempt_sound fun body _ => attempt_sound fun fields _ => ?_
  split
  · exact sound_self _
  · dsimp only
    generalize (if env.demoAuth then _ else _ : Option User) = user
    cases user with
    | none => exact sound_self _
    | some user => exact sound_self _

theorem queueStats_sound (id : String) : Sound orgId site (queueStats env orgId site id) := by
  refine attempt_sound fun queueId _ => ?_
  dsimp only
  split <;> exact sound_self _

theorem getJob_sound (id : String) : Sound orgId site (getJob env orgId site id) := by
  refine attempt_sound fun jobId _ => ?_
  split
  · exact sound_self _
  · exact attempt_sound fun _ _ => sound_self _

/-- An update of a queue that is not found changes nothing. -/
theorem rewriteQueue_eq_self {queueId : UUID} {rewrite : Queue → Queue}
    (missing : (site.queues.find? fun q => q.id = queueId ∧ site.QueueOf orgId q) = none) :
    rewriteQueue orgId site queueId rewrite = site := by
  have none : ∀ q ∈ site.queues, ¬ (q.id = queueId ∧ site.QueueOf orgId q) := by
    intro q member selected
    exact List.find?_eq_none.mp missing q member (decide_eq_true selected)
  unfold rewriteQueue
  rw [update_eq_self none]

variable (valid : site.Valid)
include valid

theorem createProject_sound (unused : ∀ p ∈ site.projects, p.id ≠ env.fresh)
    (body : Except String (Option Fields)) :
    Sound orgId site (createProject env orgId site body) := by
  refine attempt_sound fun body _ => attempt_sound fun fields _ => attempt_sound fun name _ =>
    attempt_sound fun slug _ => attempt_sound fun description _ => ?_
  split
  · exact sound_self _
  next site' creates =>
    obtain ⟨db, written, rfl⟩ := succeeded_of_map creates
    obtain ⟨_, _, rfl⟩ := Database.createProject_spec written
    exact sound_of_spares
      (spares_of_confined (Site.confined_insertProject valid unused rfl) rfl) (by simp)

theorem createQueue_sound (unused : ∀ q ∈ site.queues, q.id ≠ env.fresh)
    (body : Except String (Option Fields)) :
    Sound orgId site (createQueue env orgId site body) := by
  refine attempt_sound fun body _ => attempt_sound fun fields _ => attempt_sound fun projectId _ => ?_
  split
  · exact sound_self _
  next projectId found =>
    have owner : ∃ p ∈ site.projects, p.id = projectId ∧ p.orgId = orgId := by
      obtain ⟨_, own⟩ := Option.filter_eq_some_iff.mp found
      exact of_decide_eq_true own
    refine attempt_sound fun name _ => attempt_sound fun slug _ =>
      attempt_sound fun priorityDefault _ => attempt_sound fun concurrencyLimit _ => ?_
    dsimp only
    split
    · exact sound_self _
    next site' creates =>
      obtain ⟨db, written, rfl⟩ := succeeded_of_map creates
      obtain ⟨_, _, _, _, rfl⟩ := Database.createQueue_spec written
      exact sound_of_spares
        (spares_of_confined (Site.confined_insertQueue valid unused owner) rfl) (by simp)

theorem rewriteQueue_spares {queueId : UUID} {rewrite : Queue → Queue}
    (ids : ∀ q, (rewrite q).id = q.id) (projects : ∀ q, (rewrite q).projectId = q.projectId) :
    Spares orgId site (rewriteQueue orgId site queueId rewrite) :=
  spares_of_confined (Site.confined_updateQueue valid ids projects) rfl

theorem setPaused_sound (id : String) (paused : Bool) :
    Sound orgId site (setPaused env orgId site id paused) := by
  refine attempt_sound fun queueId _ => sound_of_spares ?_ (by simp)
  exact rewriteQueue_spares valid (fun _ => rfl) fun _ => rfl

theorem updateQueue_sound (id : String) (body : Except String (Option Fields)) :
    Sound orgId site (updateQueue env orgId site id body) := by
  refine attempt_sound fun body _ => attempt_sound fun fields _ => attempt_sound fun name _ =>
    attempt_sound fun priorityDefault _ => attempt_sound fun concurrencyLimit _ =>
    attempt_sound fun queueId _ => ?_
  split
  · exact sound_self _
  · dsimp only
    split
    next missing =>
      refine ⟨rewriteQueue_spares valid (fun _ => rfl) fun _ => rfl, fun _ => ?_⟩
      exact rewriteQueue_eq_self missing
    · exact sound_of_spares (rewriteQueue_spares valid (fun _ => rfl) fun _ => rfl) (by simp)

theorem createJob_sound (unused : ∀ j ∈ site.jobs, j.id ≠ env.fresh) (id : String)
    (body : Except String (Option Fields)) :
    Sound orgId site (createJob env orgId site id body) := by
  refine attempt_sound fun body _ => attempt_sound fun queueId _ => ?_
  split
  · exact sound_self _
  next queue found =>
    have member := List.mem_of_find?_eq_some found
    have selected := List.find?_some found
    rw [decide_eq_true_eq] at selected
    refine attempt_sound fun fields _ => attempt_sound fun key _ => ?_
    split
    · exact attempt_sound fun _ _ => sound_self _
    · refine attempt_sound fun priority _ => attempt_sound fun payload _ =>
        attempt_sound fun maxAttempts _ => attempt_sound fun delay _ =>
        attempt_sound fun cronExpr _ => ?_
      dsimp only
      split
      · exact sound_self _
      next site' inserts =>
        unfold insertJob at inserts
        split at inserts
        · cases inserts
        · split at inserts
          · cases inserts
          · cases inserts
            have mine : site.QueueIdOf orgId queueId := ⟨queue, member, selected⟩
            exact attempt_sound_of_spares
              (spares_of_confined (Site.confined_insertJob valid unused mine) rfl)
              fun _ => by simp

end Handlers

/-! ## Retry -/

section Retry

variable {env : Env} {orgId jobId : UUID} {site : Site}

/-- The tables after the two statements of `retry`. -/
theorem requeueJob_deleteLetters : requeueJob env orgId (deleteLetters site jobId) jobId =
    { site with
      jobs := update (fun j => j.id = jobId ∧ site.QueueIdOf orgId j.queueId)
        (Job.retryDLQ env.now) site.jobs
      letters := site.letters.filter (·.entry.jobId ≠ jobId) } := rfl

/-- Neither statement finds a row. -/
theorem retry_eq_self (free : ∀ d ∈ site.letters, d.entry.jobId ≠ jobId)
    (missing : ∀ j ∈ site.jobs, ¬ (j.id = jobId ∧ site.QueueIdOf orgId j.queueId)) :
    requeueJob env orgId (deleteLetters site jobId) jobId = site := by
  have letters : site.letters.filter (·.entry.jobId ≠ jobId) = site.letters := by
    rw [List.filter_eq_self]
    intro d member
    exact decide_eq_true (free d member)
  rw [requeueJob_deleteLetters, letters, update_eq_self missing]

/-- The dead letters are all of the caller. -/
theorem retry_spares (valid : site.Valid) (job : site.JobIdOf orgId jobId)
    (letters : ∀ d ∈ site.letters, d.entry.jobId = jobId →
      site.QueueIdOf orgId d.entry.originalQueueId) :
    Spares orgId site (requeueJob env orgId (deleteLetters site jobId) jobId) := by
  intro o other
  have tenant : (requeueJob env orgId (deleteLetters site jobId) jobId).tenant o =
      site.tenant o := by
    have ids : ∀ j, (Job.retryDLQ env.now j).id = j.id := fun _ => rfl
    have queues : ∀ j, (Job.retryDLQ env.now j).queueId = j.queueId := fun _ => rfl
    rw [requeueJob_deleteLetters, Site.tenant_retry ids queues, updated_eq_self]
    · refine congrArg (fun rows => { site.tenant o with letters := rows }) ?_
      ext d
      refine and_iff_left_of_imp ?_
      rintro ⟨letter, here⟩ about
      exact other (valid.queueId_owner here (letters d letter about))
    · rintro j ⟨_, here⟩ ⟨_, selected⟩
      exact other (valid.queueId_owner here selected)
  refine ⟨tenant, ?_⟩
  ext d
  unfold Site.lettersOf
  rw [Set.mem_ofPred_eq, Set.mem_ofPred_eq, Site.queueIdOf_iff, Site.jobIdOf_iff, tenant,
    ← Site.queueIdOf_iff, ← Site.jobIdOf_iff, requeueJob_deleteLetters]
  refine and_congr_left fun here => ?_
  rw [List.mem_filter, decide_eq_true_eq]
  refine and_iff_left_of_imp fun letter about => ?_
  rcases here with here | here
  · exact other (valid.queueId_owner here (letters d letter about))
  · rw [about] at here
    exact other (valid.jobId_owner here job)

/-- An organization owns every dead letter, through the queue it was in. -/
theorem exists_owner (valid : site.Valid) {d : Letter} (letter : d ∈ site.letters) :
    ∃ o, site.QueueIdOf o d.entry.originalQueueId := by
  obtain ⟨q, member, same⟩ := valid.letterQueues d letter
  obtain ⟨p, parent, project⟩ := valid.queueProjects q member
  exact ⟨p.orgId, q, member, same, p, parent, project, rfl⟩

/-- The condition is necessary: a dead letter of the job is lost. -/
theorem own_of_sound (valid : site.Valid) {id : String} (parses : env.parseUuid id = .ok jobId)
    (sound : Sound orgId site (retryJob env orgId site id)) {d : Letter}
    (letter : d ∈ site.letters) (about : d.entry.jobId = jobId) :
    site.JobIdOf orgId jobId ∧ site.QueueIdOf orgId d.entry.originalQueueId := by
  have lost : d ∉ (requeueJob env orgId (deleteLetters site jobId) jobId).letters := by
    intro listed
    exact of_decide_eq_true (List.mem_filter.mp listed).2 about
  unfold retryJob at sound
  rw [parses] at sound
  cases found : site.jobs.find? fun j => j.id = jobId ∧ site.QueueIdOf orgId j.queueId with
  | none =>
      -- answered with 404, although the dead letter is gone
      simp only [attempt, found] at sound
      have same : requeueJob env orgId (deleteLetters site jobId) jobId = site := sound.2 rfl
      rw [same] at lost
      exact absurd letter lost
  | some job =>
      have selected := List.find?_some found
      rw [decide_eq_true_eq] at selected
      refine ⟨⟨job, List.mem_of_find?_eq_some found, selected⟩, ?_⟩
      have spares : Spares orgId site (requeueJob env orgId (deleteLetters site jobId) jobId) := by
        simp only [attempt, found] at sound
        generalize mapJob env.parseJson (job.retryDLQ env.now) = mapped at sound
        cases mapped with
        | error message => exact sound.1
        | ok job => exact sound.1
      obtain ⟨o, owner⟩ := exists_owner valid letter
      by_cases same : o = orgId
      · rw [← same]
        exact owner
      · have kept : d ∈ (site.tenant o).letters := ⟨letter, owner⟩
        rw [← (spares o same).1] at kept
        exact absurd kept.1 lost

/-- The condition is enough. -/
theorem retryJob_sound (valid : site.Valid) {id : String}
    (own : ∀ jobId, env.parseUuid id = .ok jobId → ∀ d ∈ site.letters, d.entry.jobId = jobId →
      site.JobIdOf orgId jobId ∧ site.QueueIdOf orgId d.entry.originalQueueId) :
    Sound orgId site (retryJob env orgId site id) := by
  refine attempt_sound fun jobId parses => ?_
  dsimp only
  split
  next found =>
    have missing : ∀ j ∈ site.jobs, ¬ (j.id = jobId ∧ site.QueueIdOf orgId j.queueId) := by
      intro j member selected
      exact List.find?_eq_none.mp found j member (decide_eq_true selected)
    have free : ∀ d ∈ site.letters, d.entry.jobId ≠ jobId := by
      intro d letter about
      obtain ⟨j, member, selected⟩ := (own jobId parses d letter about).1
      exact missing j member selected
    rw [retry_eq_self free missing]
    exact sound_self _
  next job found =>
    have selected := List.find?_some found
    rw [decide_eq_true_eq] at selected
    have mine : site.JobIdOf orgId jobId := ⟨job, List.mem_of_find?_eq_some found, selected⟩
    exact attempt_sound_of_spares
      (retry_spares valid mine fun d letter about => (own jobId parses d letter about).2)
      fun _ => by simp

end Retry

/-! ## Every request -/

/-- **Integrity of the dashboard.** A request keeps to the rows of its organization, and changes
nothing when it is answered with `404`, exactly when it does not retry a job with dead letters
of others. -/
theorem handleApi_sound_iff (env : Env) {orgId : UUID} {site : Site} (valid : site.Valid)
    (unused : site.Unused [env.fresh]) {request : Request}
    (noTick : route request.method request.path ≠ some .pulse) :
    Sound orgId site (handleApi env orgId site request) ↔ RetriesOwn env orgId site request := by
  constructor
  · intro sound id jobId routed parses d letter about
    unfold handleApi at sound
    rw [routed] at sound
    exact own_of_sound valid parses sound letter about
  · intro own
    unfold handleApi
    cases routed : route request.method request.path with
    | none => exact sound_self _
    | some r =>
        cases r with
        | login => exact login_sound request.body
        | listProjects => exact sound_self _
        | createProject => exact createProject_sound valid unused.project_ne request.body
        | listQueues => exact sound_self _
        | createQueue => exact createQueue_sound valid unused.queue_ne request.body
        | queueStats id => exact queueStats_sound id
        | pauseQueue id => exact setPaused_sound valid id true
        | resumeQueue id => exact setPaused_sound valid id false
        | updateQueue id => exact updateQueue_sound valid id request.body
        | createJob id => exact createJob_sound valid unused.job_ne id request.body
        | pulse => exact absurd routed noTick
        | listJobs => exact attempt_sound fun _ _ => attempt_sound fun _ _ => sound_self _
        | getExecutions id => exact attempt_sound fun _ _ => sound_self _
        | getLogs id => exact attempt_sound fun _ _ => sound_self _
        | retryJob id => exact retryJob_sound valid fun jobId parses => own id jobId routed parses
        | getJob id => exact getJob_sound id
        | listWorkers => exact sound_self _
        | listDLQ => exact sound_self _

/-- Identifiers `1000` and `2000` are read, nothing else is. -/
def plainEnv : Env where
  parseUuid text :=
    if text = "1000" then .ok 1000 else if text = "2000" then .ok 2000
    else .error "invalid input syntax for type uuid"
  parseJson _ := .error "unexpected token"
  describe _ := "constraint violated"
  fresh := 3000
  now := 0
  rank _ := 0
  demoAuth := false
  signToken _ := ""
  tick site := (⟨200, .pulse 0 ""⟩, site)

/-- `POST jobs/…/retry`. -/
def retryRequest (id : String) : Request where
  method := .post
  path := ["jobs", id, "retry"]
  body := .error "Unexpected end of JSON input"
  status := ""
  queueId := .ok none

theorem plainEnv_unused : twoOrganizations.Unused [plainEnv.fresh] where
  distinct := by decide
  projects := by decide
  queues := by decide
  jobs := by decide

theorem handleApi_sound_iff_own :
    (handleApi plainEnv 1 twoOrganizations (retryRequest "1000")).1.status = 200 ∧
      Sound 1 twoOrganizations (handleApi plainEnv 1 twoOrganizations (retryRequest "1000")) := by
  have routed : route .post ["jobs", "1000", "retry"] = some (.retryJob "1000") := rfl
  refine ⟨by decide, (handleApi_sound_iff plainEnv twoOrganizations_valid plainEnv_unused ?_).mpr ?_⟩
  · rw [retryRequest, routed]
    intro same
    cases same
  · intro id jobId retries parses
    rw [retryRequest, routed] at retries
    cases retries
    cases parses
    decide

/-- The first organization retries a job of the second: the response is `404`, and the dead
letter of the second is gone. -/
theorem foreign_letter_deleted :
    twoOrganizations.Valid ∧ twoOrganizations.LettersFollow ∧
      (handleApi plainEnv 1 twoOrganizations (retryRequest "2000")).1.status = 404 ∧
      (∃ d ∈ (twoOrganizations.tenant 2).letters,
        d ∉ (handleApi plainEnv 1 twoOrganizations (retryRequest "2000")).2.letters) ∧
      ¬ Sound 1 twoOrganizations
        (handleApi plainEnv 1 twoOrganizations (retryRequest "2000")) := by
  have missing : (handleApi plainEnv 1 twoOrganizations (retryRequest "2000")).1.status = 404 := by
    decide
  have kept : (handleApi plainEnv 1 twoOrganizations (retryRequest "2000")).2.letters.length = 1 := by
    decide
  refine ⟨twoOrganizations_valid, twoOrganizations_lettersFollow, missing, ?_, ?_⟩
  · refine ⟨⟨2, ⟨2000, 200, .null, 0, none, 3, 0⟩⟩, ⟨List.mem_cons_of_mem _ List.mem_cons_self, ?_⟩, ?_⟩
    · decide
    · intro listed
      exact of_decide_eq_true (List.mem_filter.mp listed).2 rfl
  · intro sound
    rw [sound.2 missing] at kept
    exact absurd kept (by decide)

end Dashboard

end JobScheduler
