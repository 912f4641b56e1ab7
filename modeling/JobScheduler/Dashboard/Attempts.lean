import JobScheduler.Dashboard.Custody

/-!
# Attempts of the dashboard

`executeJob` counts an attempt before it enters the handler, and gives a job up after the
handler failed. A process that is killed during the last attempt leaves a running job with no
attempt left; the sweep of a later tick makes it queued and a claim takes it once more. And a
retry between the two, after the attempt is counted and before the handler is entered, sets the
count to zero without undoing the attempt.

When neither happens, attempts and executions stay within `max_attempts` in every run in which
ticks do not overlap. The invariant (`Within`) is about the rows and the place of the tick that
is under way.
-/

set_option autoImplicit false

namespace JobScheduler

open Relational Transition

namespace Dashboard

/-- The event is a reset of the job. -/
def Event.resets (id : UUID) : Event → Bool
  | .reset jobId => jobId = id
  | _ => false

/-- The executions of a job since it was inserted or reset. -/
def Deployment.executions (s : Deployment) (id : UUID) : Nat :=
  executionsSince (Event.resets id) id s.history

/-- The jobs created through the dashboard that may be tried keep to their attempts. -/
def WithinAttempts (s : Deployment) : Prop :=
  ∀ job ∈ s.site.jobs, job.id ∈ s.created → 1 ≤ job.maxAttempts →
    job.attempts ≤ job.maxAttempts ∧ (s.executions job.id : Int) ≤ job.maxAttempts

/-- At most one tick is under way. -/
def OneTick (s : Deployment) : Prop :=
  ∀ (i k : Nat) tick other, s.ticks[i]? = some tick → s.ticks[k]? = some other →
    tick.pc.running = true → other.pc.running = true → i = k

/-! ## The place of a tick -/

/-- The execution that is under way between its first and its last write. -/
def TickPc.attempt : TickPc → Option (Job × ExecPc)
  | .execute _ job pc _ _ => if pc.phase.executing = true then some (job, pc) else none
  | _ => none

/-- The claimed jobs that are not attempted yet. -/
def TickPc.waiting : TickPc → List Job
  | .execute _ job pc jobs _ =>
      match pc.phase with
      | .waiting => job :: jobs
      | _ => jobs
  | _ => []

/-- The attempt fails, and another one is left. -/
def ExecPc.requeues : ExecPc → Bool
  | .requeue _ _ _ => true
  | _ => false

/-- The tick that is under way. -/
def Deployment.current (s : Deployment) : TickPc :=
  ((s.ticks.find? fun tick => tick.pc.running).map fun tick => tick.pc).getD .returned

/-- No process or connection is lost during the last attempt of a job, and no retry comes between
the count of an attempt and the handler. -/
def SparesAttempts (s : Deployment) (a : Action) : Prop :=
  ∀ (i : Nat) tick job pc, s.ticks[i]? = some tick → tick.pc.attempt = some (job, pc) →
    (a = .lose i ∨ a = .kill tick.process → job.id ∈ s.created → 1 ≤ job.maxAttempts →
      attemptOf job < job.maxAttempts) ∧
    ∀ k retry, a = .requeue k → s.retries[k]? = some retry → pc.phase = .preparing →
      retry.jobId ≠ job.id

/-! ## The invariant -/

/-- A row keeps to its attempts. -/
structure RowWithin (executions : Nat) (row : Job) : Prop where
  nonneg : 0 ≤ row.attempts
  le : row.attempts ≤ row.maxAttempts
  /-- There is an attempt left for a job that may be claimed or is claimed. -/
  left : row.status = .queued ∨ row.status = .claimed → row.attempts < row.maxAttempts
  executed : (executions : Int) ≤ row.attempts

/-- The attempt of a claimed row is the next one. -/
structure Copied (executions : Nat) (job : Job) : Prop where
  nonneg : 0 ≤ job.attempts
  left : job.attempts < job.maxAttempts
  executed : (executions : Int) ≤ job.attempts

/-- An execution under way has counted its attempt, unless a retry took it back. -/
structure Attempted (executions : Nat) (job : Job) (pc : ExecPc) (row : Job) : Prop where
  nonneg : 0 ≤ job.attempts
  left : job.attempts < job.maxAttempts
  counted : row.attempts ≤ attemptOf job
  preparing : pc.phase = .preparing → (executions : Int) + 1 ≤ row.attempts
  requeues : pc.requeues = true → attemptOf job < job.maxAttempts

/-- The rows of the tracked jobs, and the tick that is under way. -/
structure Within (tracked : UUID → Prop) (executions : UUID → Nat) (jobs : List Job) (pc : TickPc) :
    Prop where
  rows : ∀ row ∈ jobs, tracked row.id → 1 ≤ row.maxAttempts → RowWithin (executions row.id) row
  running : ∀ row ∈ jobs, tracked row.id → 1 ≤ row.maxAttempts → row.status = .running →
    row.attempts < row.maxAttempts ∨ ∃ job e, pc.attempt = some (job, e) ∧ job.id = row.id
  present : ∀ job ∈ pc.held, ∃ row ∈ jobs, row.id = job.id
  once : (pc.held.map (·.id)).Nodup
  waiting : ∀ job ∈ pc.waiting, ∀ row ∈ jobs, row.id = job.id →
    row.maxAttempts = job.maxAttempts ∧
      (tracked row.id → 1 ≤ row.maxAttempts → Copied (executions row.id) job)
  attempt : ∀ job e, pc.attempt = some (job, e) → ∀ row ∈ jobs, row.id = job.id →
    row.maxAttempts = job.maxAttempts ∧
      (tracked row.id → 1 ≤ row.maxAttempts → Attempted (executions row.id) job e row)

section Place

variable {workerId : UUID} {job : Job} {pc : ExecPc} {jobs : List Job} {queues : List UUID}

theorem TickPc.attempt_of_executing (executing : pc.phase.executing = true) :
    (TickPc.execute workerId job pc jobs queues).attempt = some (job, pc) := by
  simp only [TickPc.attempt, if_pos executing]

theorem TickPc.attempt_of_not (idle : pc.phase.executing = false) :
    (TickPc.execute workerId job pc jobs queues).attempt = none := by
  simp [TickPc.attempt, idle]

theorem TickPc.waiting_of_ne {phase : Phase} (here : pc.phase = phase) (begun : phase ≠ .waiting) :
    (TickPc.execute workerId job pc jobs queues).waiting = jobs := by
  rw [← here] at begun
  simp only [TickPc.waiting]

theorem TickPc.attempt_resume (workerId : UUID) (jobs : List Job) (queues : List UUID) :
    (TickPc.resume workerId jobs queues).attempt = none := by
  cases jobs <;> cases queues <;> rfl

theorem TickPc.waiting_resume (workerId : UUID) (jobs : List Job) (queues : List UUID) :
    (TickPc.resume workerId jobs queues).waiting = jobs := by
  cases jobs <;> cases queues <;> rfl

theorem TickPc.attempt_of_idle {pc : TickPc} (idle : pc.idle = true) : pc.attempt = none := by
  cases pc <;> first | rfl | cases idle

theorem TickPc.waiting_sublist (pc : TickPc) : pc.waiting.Sublist pc.held := by
  cases pc with
  | execute workerId job pc jobs queues =>
      simp only [TickPc.waiting, TickPc.held]
      cases pc.phase <;> simp
  | _ => exact List.Sublist.refl _

theorem TickPc.waiting_of_idle {pc : TickPc} (idle : pc.idle = true) : pc.waiting = [] := by
  cases pc <;> first | rfl | cases idle

/-- The job under way is held, and it is not one of those that wait. -/
theorem TickPc.held_of_attempt {pc : TickPc} {e : ExecPc} (attempt : pc.attempt = some (job, e)) :
    pc.held = job :: pc.waiting := by
  cases pc with
  | execute workerId job' e' jobs queues =>
      simp only [TickPc.attempt] at attempt
      split at attempt
      next executing =>
        cases attempt
        simp only [TickPc.held, TickPc.waiting]
        cases phase : e.phase <;> simp only [phase] at executing ⊢ <;> cases executing
      · cases attempt
  | _ => cases attempt

end Place

/-! ## Steps of a tick -/

section Steps

variable {tracked : UUID → Prop} {executions : UUID → Nat} {now : Timestamptz} {site site' : Site}

/-- No attempt is under way: every running job has an attempt left. -/
theorem Within.left {jobs : List Job} {pc : TickPc} (within : Within tracked executions jobs pc)
    (idle : pc.attempt = none) {row : Job} (member : row ∈ jobs) (track : tracked row.id)
    (may : 1 ≤ row.maxAttempts) (active : row.status = .queued ∨ row.status.Active) :
    row.attempts < row.maxAttempts := by
  rcases active with queued | claimed | running
  · exact (within.rows row member track may).left (.inl queued)
  · exact (within.rows row member track may).left (.inr claimed)
  · rcases within.running row member track may running with left | ⟨job, e, attempt, _⟩
    · exact left
    · rw [idle] at attempt
      cases attempt

/-- The rows and counts stay, and the tick goes on with the jobs it has. -/
theorem Within.move {jobs : List Job} {pc pc' : TickPc} (within : Within tracked executions jobs pc)
    (held : pc'.held.Sublist pc.held) (waiting : pc'.waiting ⊆ pc.waiting)
    (attempts : ∀ job e, pc.attempt = some (job, e) → ∃ e', pc'.attempt = some (job, e'))
    (attempt : ∀ job e', pc'.attempt = some (job, e') → ∃ e, pc.attempt = some (job, e) ∧
      (e'.phase = .preparing → e.phase = .preparing) ∧
      (e'.requeues = true → attemptOf job < job.maxAttempts)) :
    Within tracked executions jobs pc' where
  rows := within.rows
  running row member track may running := by
    rcases within.running row member track may running with left | ⟨job, e, here, same⟩
    · exact .inl left
    · obtain ⟨e', there⟩ := attempts job e here
      exact .inr ⟨job, e', there, same⟩
  present job holds := within.present job (held.subset holds)
  once := within.once.sublist (held.map _)
  waiting job waits := within.waiting job (waiting waits)
  attempt job e' there row member same := by
    obtain ⟨e, here, preparing, requeues⟩ := attempt job e' there
    obtain ⟨maxes, attempted⟩ := within.attempt job e here row member same
    refine ⟨maxes, fun track may => ?_⟩
    have attempted := attempted track may
    exact ⟨attempted.nonneg, attempted.left, attempted.counted,
      fun there => attempted.preparing (preparing there), requeues⟩

/-- A tick that holds nothing. -/
theorem Within.of_idle {jobs : List Job} {pc pc' : TickPc}
    (within : Within tracked executions jobs pc) (idle : pc.attempt = none)
    (idle' : pc'.idle = true) : Within tracked executions jobs pc' := by
  refine within.move ?_ ?_ ?_ ?_
  · rw [TickPc.held_of_idle idle']
    exact List.nil_sublist _
  · rw [TickPc.waiting_of_idle idle']
    exact List.nil_subset _
  · intro job e here
    rw [idle] at here
    cases here
  · intro job e there
    rw [TickPc.attempt_of_idle idle'] at there
    cases there

/-- The sweep of the only tick finds jobs with an attempt left. -/
theorem within_reap (within : Within tracked executions site.jobs .reap) :
    Within tracked executions (reaper now site).jobs .findWorker where
  rows row' member track may := by
    rcases cases_mem_update member with ⟨old, _⟩ | ⟨row, old, orphaned, rfl⟩
    · exact within.rows row' old track may
    · have rowWithin := within.rows row old track may
      have left : row.attempts < row.maxAttempts :=
        within.left rfl old track may (.inr orphaned.1)
      exact ⟨rowWithin.nonneg, rowWithin.le, fun _ => left, rowWithin.executed⟩
  running row' member track may running := by
    rcases cases_mem_update member with ⟨old, _⟩ | ⟨row, _, _, rfl⟩
    · exact .inl (within.left rfl old track may (.inr (.inr running)))
    · cases running
  present job holds := by cases holds
  once := List.nodup_nil
  waiting job waits := by cases waits
  attempt job e here := by cases here

/-- The claim of the only tick takes jobs with an attempt left. -/
theorem within_claim {choice : Choice} {workerId queueId : UUID} {left : Int} {queues : List UUID}
    {jobs : List Job} (unique : (site.jobs.map (·.id)).Nodup)
    (claims : claimDue now site choice workerId queueId left = .ok (site', jobs))
    (within : Within tracked executions site.jobs (.claim workerId queueId left queues)) :
    Within tracked executions site'.jobs (.resume workerId jobs queues) := by
  have rows : ∀ row' ∈ site'.jobs, tracked row'.id → 1 ≤ row'.maxAttempts →
      RowWithin (executions row'.id) row' := by
    intro row' member track may
    rcases cases_claimDue unique claims member with old | ⟨row, old, due, rfl⟩
    · exact within.rows row' old track may
    · have rowWithin := within.rows row old track may
      exact ⟨rowWithin.nonneg, rowWithin.le, fun _ => rowWithin.left (.inl due.2.1),
        rowWithin.executed⟩
  have returned {job : Job} (member : job ∈ jobs) : job ∈ site'.jobs ∧ job.status = .claimed := by
    obtain ⟨row, _, _, rfl, there⟩ := mem_claimed unique claims member
    exact ⟨there, rfl⟩
  refine ⟨rows, ?_, ?_, ?_, ?_, ?_⟩
  · intro row' member track may running
    rcases cases_claimDue unique claims member with old | ⟨row, _, _, rfl⟩
    · exact .inl (within.left rfl old track may (.inr (.inr running)))
    · cases running
  · intro job holds
    rw [TickPc.held_resume] at holds
    exact ⟨job, (returned holds).1, rfl⟩
  · rw [TickPc.held_resume]
    exact nodup_claimed unique claims
  · intro job waits row member same
    rw [TickPc.waiting_resume] at waits
    have unique' : (site'.jobs.map (·.id)).Nodup := by
      obtain ⟨_, _, updated, _⟩ := claimDue_spec claims
      rw [updated]
      exact nodup_map_update (fun _ => rfl) unique
    obtain ⟨there, claimed⟩ := returned waits
    cases eq_of_key_eq unique' member there same
    refine ⟨rfl, fun track may => ?_⟩
    have rowWithin := rows job there track may
    exact ⟨rowWithin.nonneg, rowWithin.left (.inr claimed), rowWithin.executed⟩
  · intro job e here
    rw [TickPc.attempt_resume] at here
    cases here

/-- A row whose attempt is counted. -/
theorem Copied.startAttempt {n : Nat} {job row : Job} (copied : Copied n job)
    (maxes : row.maxAttempts = job.maxAttempts) :
    RowWithin n (Job.startAttempt now (attemptOf job) row) := by
  have nonneg := copied.nonneg
  have left := copied.left
  have executed := copied.executed
  refine ⟨?_, ?_, ?_, ?_⟩
  · change 0 ≤ attemptOf job
    unfold attemptOf
    omega
  · change attemptOf job ≤ row.maxAttempts
    unfold attemptOf
    omega
  · rintro (queued | claimed)
    · cases queued
    · cases claimed
  · change (n : Int) ≤ attemptOf job
    unfold attemptOf
    omega

/-- A settled row: it is queued again only when an attempt is left. -/
theorem RowWithin.settle {n : Nat} {job row : Job} {pc : ExecPc} {rewrite : Job → Job}
    (rowWithin : RowWithin n row) (settles : Settles now pc rewrite)
    (attempted : Attempted n job pc row) (maxes : row.maxAttempts = job.maxAttempts) :
    RowWithin n (rewrite row) := by
  cases settles with
  | complete executionId duration =>
      refine ⟨rowWithin.nonneg, rowWithin.le, fun idle => ?_, rowWithin.executed⟩
      rcases idle with idle | idle <;> cases idle
  | deadLetter errMsg payload executionId duration =>
      refine ⟨rowWithin.nonneg, rowWithin.le, fun idle => ?_, rowWithin.executed⟩
      rcases idle with idle | idle <;> cases idle
  | requeue errMsg executionId duration =>
      refine ⟨rowWithin.nonneg, rowWithin.le, fun _ => ?_, rowWithin.executed⟩
      have counted := attempted.counted
      have left := attempted.requeues rfl
      change row.attempts < row.maxAttempts
      omega

theorem present_update {jobs : List Job} {id : UUID} {selects : Job → Prop}
    [DecidablePred selects] {rewrite : Job → Job} (ids : ∀ row, (rewrite row).id = row.id)
    (present : ∃ row ∈ jobs, row.id = id) : ∃ row ∈ update selects rewrite jobs, row.id = id := by
  refine (exists_mem_update_iff (fun row : Job => row.id = id) fun row => ?_).mpr present
  rw [ids]

/-- The attempt is counted. -/
theorem within_setRunning {workerId : UUID} {job : Job} {jobs : List Job} {queues : List UUID}
    {payload : Json}
    (within : Within tracked executions site.jobs (.execute workerId job .setRunning jobs queues)) :
    Within tracked executions
      (rewriteJob site job.id (Job.startAttempt now (attemptOf job))).jobs
      (.execute workerId job (.insertExecution payload) jobs queues) := by
  have first {row : Job} (old : row ∈ site.jobs) (same : row.id = job.id) :=
    within.waiting job List.mem_cons_self row old same
  refine ⟨?_, ?_, ?_, within.once, ?_, ?_⟩
  · intro row' member track may
    rcases cases_mem_update member with ⟨old, _⟩ | ⟨row, old, same, rfl⟩
    · exact within.rows row' old track may
    · obtain ⟨maxes, copied⟩ := first old same
      exact (copied track may).startAttempt maxes
  · intro row' member track may running
    rcases cases_mem_update member with ⟨old, _⟩ | ⟨row, _, same, rfl⟩
    · exact .inl (within.left rfl old track may (.inr (.inr running)))
    · exact .inr ⟨job, _, rfl, same.symm⟩
  · intro other holds
    exact present_update (fun _ => rfl) (within.present other holds)
  · -- the jobs behind it are other rows
    intro other waits row' member same
    have distinct : other.id ≠ job.id := id_ne_of_nodup within.once waits
    rcases cases_mem_update member with ⟨old, _⟩ | ⟨row, _, selected, rfl⟩
    · exact within.waiting other (List.mem_cons_of_mem _ waits) row' old same
    · exact absurd (same.symm.trans selected) distinct
  · intro other e here row' member same
    cases here
    rcases cases_mem_update member with ⟨_, missed⟩ | ⟨row, old, selected, rfl⟩
    · exact absurd same missed
    · obtain ⟨maxes, copied⟩ := first old selected
      refine ⟨maxes, fun track may => ?_⟩
      have copied := copied track may
      have executed := copied.executed
      refine ⟨copied.nonneg, copied.left, le_refl _, fun _ => ?_, fun requeues => ?_⟩
      · change (executions row.id : Int) + 1 ≤ attemptOf job
        unfold attemptOf
        omega
      · cases requeues

/-- The handler starts. -/
theorem within_start {workerId : UUID} {job : Job} {jobs rows : List Job} {queues : List UUID}
    {payload : Json} {executionId : UUID} {executions' : UUID → Nat}
    (one : executions' job.id = executions job.id + 1)
    (others : ∀ id, id ≠ job.id → executions' id = executions id)
    (within : Within tracked executions rows
      (.execute workerId job (.start payload executionId) jobs queues)) :
    Within tracked executions' rows
      (.execute workerId job (.handling payload executionId now) jobs queues) := by
  refine ⟨?_, ?_, within.present, within.once, ?_, ?_⟩
  · intro row member track may
    have rowWithin := within.rows row member track may
    refine ⟨rowWithin.nonneg, rowWithin.le, rowWithin.left, ?_⟩
    by_cases same : row.id = job.id
    · have attempted := (within.attempt job _ rfl row member same).2 track may
      rw [same, one, ← same]
      push_cast
      exact attempted.preparing rfl
    · rw [others row.id same]
      exact rowWithin.executed
  · intro row member track may running
    rcases within.running row member track may running with left | ⟨other, e, here, same⟩
    · exact .inl left
    · cases here
      exact .inr ⟨job, _, rfl, same⟩
  · intro other waits row member same
    have distinct : row.id ≠ job.id := by
      rw [same]
      exact id_ne_of_nodup within.once waits
    rw [others row.id distinct]
    exact within.waiting other waits row member same
  · intro other e here row member same
    cases here
    obtain ⟨maxes, attempted⟩ := within.attempt job _ rfl row member same
    refine ⟨maxes, fun track may => ?_⟩
    have attempted := attempted track may
    refine ⟨attempted.nonneg, attempted.left, attempted.counted, fun preparing => ?_,
      fun requeues => ?_⟩
    · cases preparing
    · cases requeues

/-- The last write of an execution. -/
theorem within_settle {workerId : UUID} {job : Job} {pc pc' : ExecPc} {jobs : List Job}
    {queues : List UUID} {rewrite : Job → Job} (settles : Settles now pc rewrite)
    (there : pc'.phase = .finished)
    (within : Within tracked executions site.jobs (.execute workerId job pc jobs queues)) :
    Within tracked executions (rewriteJob site job.id rewrite).jobs
      (.execute workerId job pc' jobs queues) := by
  have maxes : ∀ row, (rewrite row).maxAttempts = row.maxAttempts := by
    intro row
    cases settles <;> rfl
  have here : (TickPc.execute workerId job pc jobs queues).attempt = some (job, pc) :=
    TickPc.attempt_of_executing (by rw [settles.phase]; rfl)
  have held : (TickPc.execute workerId job pc jobs queues).held = job :: jobs :=
    TickPc.held_of_phase settles.phase (by simp)
  have once := within.once
  rw [held] at once
  refine ⟨?_, ?_, ?_, ?_, ?_, ?_⟩
  · intro row' member track may
    rcases cases_mem_update member with ⟨old, _⟩ | ⟨row, old, same, rfl⟩
    · exact within.rows row' old track may
    · rw [settles.id] at track ⊢
      rw [maxes] at may
      obtain ⟨sameMax, attempted⟩ := within.attempt job pc here row old same
      exact (within.rows row old track may).settle settles (attempted track may) sameMax
  · intro row' member track may running
    rcases cases_mem_update member with ⟨old, missed⟩ | ⟨row, _, _, rfl⟩
    · rcases within.running row' old track may running with left | ⟨other, e, at', same⟩
      · exact .inl left
      · rw [here] at at'
        cases at'
        exact absurd same.symm missed
    · cases settles <;> cases running
  · intro other holds
    rw [TickPc.held_of_finished there] at holds
    refine present_update settles.id (within.present other ?_)
    rw [held]
    exact List.mem_cons_of_mem _ holds
  · rw [TickPc.held_of_finished there]
    exact (List.nodup_cons.mp once).2
  · intro other waits row' member same
    rw [TickPc.waiting_of_ne there (by simp)] at waits
    rcases cases_mem_update member with ⟨old, _⟩ | ⟨row, _, selected, rfl⟩
    · refine within.waiting other ?_ row' old same
      rw [TickPc.waiting_of_ne settles.phase (by simp)]
      exact waits
    · rw [settles.id] at same
      exact absurd (same.symm.trans selected) (id_ne_of_nodup once waits)
  · intro other e at'
    rw [TickPc.attempt_of_not (by rw [there]; rfl)] at at'
    cases at'

section Proceed

variable {workerId : UUID} {job : Job} {pc pc' : ExecPc} {jobs rows : List Job}
  {queues : List UUID}

/-- An attempt goes on without a write to its row. -/
theorem Within.proceed
    (within : Within tracked executions rows (.execute workerId job pc jobs queues))
    (here : pc.phase.executing = true) (there : pc'.phase.executing = true)
    (preparing : pc'.phase = .preparing → pc.phase = .preparing)
    (requeues : pc'.requeues = true → attemptOf job < job.maxAttempts) :
    Within tracked executions rows (.execute workerId job pc' jobs queues) := by
  have begun {e : ExecPc} (executing : e.phase.executing = true) :
      (TickPc.execute workerId job e jobs queues).waiting = jobs ∧
        (TickPc.execute workerId job e jobs queues).held = job :: jobs := by
    constructor
    · refine TickPc.waiting_of_ne rfl fun waiting => ?_
      rw [waiting] at executing
      cases executing
    · refine TickPc.held_of_phase rfl fun finished => ?_
      rw [finished] at executing
      cases executing
  refine within.move ?_ ?_ ?_ ?_
  · rw [(begun here).2, (begun there).2]
  · rw [(begun here).1, (begun there).1]
    exact List.Subset.refl _
  · intro other e attempt
    rw [TickPc.attempt_of_executing here] at attempt
    cases attempt
    exact ⟨pc', TickPc.attempt_of_executing there⟩
  · intro other e attempt
    rw [TickPc.attempt_of_executing there] at attempt
    cases attempt
    exact ⟨pc, TickPc.attempt_of_executing here, preparing, requeues⟩

/-- An execution is over, and the tick goes on with the jobs behind it. -/
theorem Within.after {next : TickPc}
    (within : Within tracked executions rows (.execute workerId job pc jobs queues))
    (here : pc.phase = .finished) (held : next.held = jobs) (waiting : next.waiting = jobs)
    (attempt : next.attempt = none) : Within tracked executions rows next := by
  refine within.move ?_ ?_ ?_ ?_
  · rw [held, TickPc.held_of_finished here]
  · rw [waiting, TickPc.waiting_of_ne here (by simp)]
    exact List.Subset.refl _
  · intro other e at'
    rw [TickPc.attempt_of_not (by rw [here]; rfl)] at at'
    cases at'
  · intro other e at'
    rw [attempt] at at'
    cases at'

theorem afterHandler_requeues {payload : Json} {executionId : UUID} {duration : Int}
    {error : Option String}
    (requeues : (afterHandler job payload executionId duration error).requeues = true) :
    attemptOf job < job.maxAttempts := by
  cases error with
  | none => cases requeues
  | some errMsg =>
      simp only [afterHandler] at requeues
      split at requeues
      · cases requeues
      next left => exact not_le.mp left

theorem not_requeues_of_preparing (here : pc.phase = .preparing) : pc.requeues = false := by
  cases pc <;> first | rfl | cases here

end Proceed

/-- **A step of the only tick.** -/
theorem Effect.within {tickEnv : TickEnv} {choice : Choice} {pc pc' : TickPc}
    {event : Option Event} {executions' : UUID → Nat}
    (effect : Effect tickEnv choice now site pc site' pc' event)
    (unique : (site.jobs.map (·.id)).Nodup)
    (one : ∀ id, event = some (.executed id) → executions' id = executions id + 1)
    (others : ∀ id, event ≠ some (.executed id) → executions' id = executions id)
    (within : Within tracked executions site.jobs pc) :
    Within tracked executions' site'.jobs pc' := by
  have unseen (none : ∀ id, event ≠ some (.executed id)) : executions' = executions := by
    funext id
    exact others id (none id)
  cases effect with
  | reap =>
      rw [unseen (by simp)]
      exact within_reap within
  | pass idle idle' _ jobs _ =>
      rw [unseen (by simp), jobs]
      exact within.of_idle (TickPc.attempt_of_idle idle) idle'
  | budget _ _ =>
      rw [unseen (by simp)]
      exact within.move (List.Sublist.refl _) (List.Subset.refl _) (by simp [TickPc.attempt])
        (by simp [TickPc.attempt])
  | claim claims =>
      rw [unseen (by simp)]
      exact within_claim unique claims within
  | setRunning _ =>
      rw [unseen (by simp)]
      exact within_setRunning within
  | prepare here there same _ =>
      rw [unseen (by simp), same]
      refine within.proceed (by rw [here]; rfl) (by rw [there]; rfl) (fun _ => here) ?_
      rw [not_requeues_of_preparing there]
      exact fun never => by cases never
  | start =>
      refine within_start (one _ rfl) (fun id ne => others id ?_) within
      simpa using Ne.symm ne
  | handle =>
      rw [unseen (by simp)]
      refine within.proceed rfl (by rw [afterHandler_phase]; rfl) ?_ afterHandler_requeues
      rw [afterHandler_phase]
      exact fun never => by cases never
  | settle settles there =>
      rw [unseen (by simp)]
      exact within_settle settles there within
  | record here there same _ =>
      rw [unseen (by simp), same]
      exact within.after here (TickPc.held_of_finished there)
        (TickPc.waiting_of_ne there (by simp)) (TickPc.attempt_of_not (by rw [there]; rfl))
  | next here same _ =>
      rw [unseen (by simp), same]
      exact within.after here (TickPc.held_resume _ _ _) (TickPc.waiting_resume _ _ _)
        (TickPc.attempt_resume _ _ _)

end Steps

/-! ## The other actions -/

section Actions

variable {tracked : UUID → Prop} {executions : UUID → Nat} {jobs : List Job} {pc : TickPc}

/-- Before a job is created. -/
theorem within_untracked (executions : UUID → Nat) (jobs : List Job) :
    Within (· ∈ ([] : List UUID)) executions jobs .returned where
  rows row _ track := by cases track
  running row _ track := by cases track
  present job holds := by cases holds
  once := List.nodup_nil
  waiting job waits := by cases waits
  attempt job e here := by cases here

/-- The tick ends, and the attempt under way is not the last one. -/
theorem Within.stop (within : Within tracked executions jobs pc)
    (left : ∀ job e, pc.attempt = some (job, e) → tracked job.id → 1 ≤ job.maxAttempts →
      attemptOf job < job.maxAttempts) : Within tracked executions jobs .returned where
  rows := within.rows
  running row member track may running := by
    rcases within.running row member track may running with less | ⟨job, e, here, same⟩
    · exact .inl less
    · obtain ⟨maxes, attempted⟩ := within.attempt job e here row member same.symm
      have counted := (attempted track may).counted
      have more := left job e here (by rw [same]; exact track) (by rw [← maxes]; exact may)
      left
      omega
  present job holds := by cases holds
  once := List.nodup_nil
  waiting job waits := by cases waits
  attempt job e here := by cases here

/-- A job is inserted. -/
theorem Within.insert {tracked' : UUID → Prop} {executions' : UUID → Nat} {new : Job}
    (within : Within tracked executions jobs pc) (unused : ∀ row ∈ jobs, row.id ≠ new.id)
    (same : ∀ id, id ≠ new.id → (tracked' id ↔ tracked id) ∧ executions' id = executions id)
    (none : executions' new.id = 0) (queued : new.status = .queued) (untried : new.attempts = 0) :
    Within tracked' executions' (jobs ++ [new]) pc := by
  have cases' {row : Job} (member : row ∈ jobs ++ [new]) :
      row ∈ jobs ∧ (tracked' row.id ↔ tracked row.id) ∧ executions' row.id = executions row.id ∨
        row = new := by
    rcases List.mem_append.mp member with old | last
    · exact .inl ⟨old, same row.id (unused row old)⟩
    · exact .inr (List.mem_singleton.mp last)
  have held {job : Job} (holds : job ∈ pc.held) : job.id ≠ new.id := by
    obtain ⟨row, old, sameId⟩ := within.present job holds
    rw [← sameId]
    exact unused row old
  refine ⟨?_, ?_, ?_, within.once, ?_, ?_⟩
  · intro row member track may
    rcases cases' member with ⟨old, tracks, counts⟩ | rfl
    · rw [counts]
      exact within.rows row old (tracks.mp track) may
    · rw [none]
      exact ⟨by omega, by omega, fun _ => by omega, by omega⟩
  · intro row member track may running
    rcases cases' member with ⟨old, tracks, _⟩ | rfl
    · exact within.running row old (tracks.mp track) may running
    · rw [queued] at running
      cases running
  · intro job holds
    obtain ⟨row, old, sameId⟩ := within.present job holds
    exact ⟨row, List.mem_append_left _ old, sameId⟩
  · intro job waits row member sameId
    rcases cases' member with ⟨old, tracks, counts⟩ | rfl
    · rw [tracks, counts]
      exact within.waiting job waits row old sameId
    · exact absurd sameId.symm (held (pc.waiting_sublist.subset waits))
  · intro job e here row member sameId
    rcases cases' member with ⟨old, tracks, counts⟩ | rfl
    · rw [tracks, counts]
      exact within.attempt job e here row old sameId
    · refine absurd sameId.symm (held ?_)
      rw [TickPc.held_of_attempt here]
      exact List.mem_cons_self

section Retry

variable {n n' : Nat} {job row : Job} {e : ExecPc}

theorem RowWithin.mono (rowWithin : RowWithin n row) (fewer : n' ≤ n) : RowWithin n' row := by
  have executed := rowWithin.executed
  exact ⟨rowWithin.nonneg, rowWithin.le, rowWithin.left, by omega⟩

theorem Copied.mono (copied : Copied n job) (fewer : n' ≤ n) : Copied n' job := by
  have executed := copied.executed
  exact ⟨copied.nonneg, copied.left, by omega⟩

theorem Attempted.mono (attempted : Attempted n job e row) (fewer : n' ≤ n) :
    Attempted n' job e row := by
  refine ⟨attempted.nonneg, attempted.left, attempted.counted, fun preparing => ?_,
    attempted.requeues⟩
  have counted := attempted.preparing preparing
  omega

theorem rowWithin_retryDLQ (now : Timestamptz) (may : 1 ≤ row.maxAttempts) :
    RowWithin 0 (row.retryDLQ now) := by
  refine ⟨le_refl 0, ?_, fun _ => ?_, le_refl 0⟩
  · change 0 ≤ row.maxAttempts
    omega
  · change 0 < row.maxAttempts
    omega

/-- A retry takes the count of an attempt back whose handler has started. -/
theorem Attempted.retryDLQ (attempted : Attempted n job e row) (now : Timestamptz)
    (started : e.phase ≠ .preparing) : Attempted n' job e (row.retryDLQ now) := by
  have nonneg := attempted.nonneg
  refine ⟨nonneg, attempted.left, ?_, fun preparing => absurd preparing started,
    attempted.requeues⟩
  change 0 ≤ attemptOf job
  unfold attemptOf
  omega

end Retry

/-- A job is reset by a retry, which does not come between the count of an attempt and the
handler. -/
theorem Within.retry {executions' : UUID → Nat} {now : Timestamptz} {jobId : UUID}
    {selects : Job → Prop} [DecidablePred selects] (within : Within tracked executions jobs pc)
    (selected : ∀ row, selects row → row.id = jobId)
    (none : ∀ row ∈ jobs, selects row → executions' row.id = 0)
    (fewer : ∀ id, executions' id ≤ executions id)
    (apart : ∀ job e, pc.attempt = some (job, e) → e.phase = .preparing → job.id ≠ jobId) :
    Within tracked executions' (update selects (Job.retryDLQ now) jobs) pc := by
  refine ⟨?_, ?_, ?_, within.once, ?_, ?_⟩
  · intro row' member track may
    rcases cases_mem_update member with ⟨old, _⟩ | ⟨row, old, selects, rfl⟩
    · exact (within.rows row' old track may).mono (fewer _)
    · have zero : executions' (row.retryDLQ now).id = 0 := none row old selects
      rw [zero]
      exact rowWithin_retryDLQ now may
  · intro row' member track may running
    rcases cases_mem_update member with ⟨old, _⟩ | ⟨row, _, _, rfl⟩
    · exact within.running row' old track may running
    · cases running
  · intro job holds
    exact present_update (fun _ => rfl) (within.present job holds)
  · intro job waits row' member same
    have copied (row : Job) (old : row ∈ jobs) (same : row.id = job.id) :
        row.maxAttempts = job.maxAttempts ∧ (tracked row.id → 1 ≤ row.maxAttempts →
          Copied (executions' row.id) job) := by
      obtain ⟨maxes, copied⟩ := within.waiting job waits row old same
      exact ⟨maxes, fun track may => (copied track may).mono (fewer _)⟩
    rcases cases_mem_update member with ⟨old, _⟩ | ⟨row, old, _, rfl⟩
    · exact copied row' old same
    · exact copied row old same
  · intro job e here row' member same
    rcases cases_mem_update member with ⟨old, _⟩ | ⟨row, old, selects, rfl⟩
    · obtain ⟨maxes, attempted⟩ := within.attempt job e here row' old same
      exact ⟨maxes, fun track may => (attempted track may).mono (fewer _)⟩
    · obtain ⟨maxes, attempted⟩ := within.attempt job e here row old same
      refine ⟨maxes, fun track may => (attempted track may).retryDLQ now fun preparing => ?_⟩
      exact apart job e here preparing (same.symm.trans (selected row selects))

end Actions

/-! ## Runs -/

/-- The invariant, for the tick that is under way. -/
structure Bounded (s : Deployment) : Prop where
  keys : (s.site.jobs.map (·.id)).Nodup
  within : Within (· ∈ s.created) s.executions s.site.jobs s.current

section Current

variable {s s' : Deployment}

theorem current_cases (s : Deployment) :
    (∃ (i : Nat) (tick : Tick), s.ticks[i]? = some tick ∧ tick.pc.running = true ∧
      s.current = tick.pc) ∨
      (∀ (i : Nat) tick, s.ticks[i]? = some tick → ¬ tick.pc.running = true) ∧
        s.current = .returned := by
  unfold Deployment.current
  cases found : s.ticks.find? fun tick => tick.pc.running with
  | none =>
      refine .inr ⟨fun i tick listed => ?_, rfl⟩
      exact List.find?_eq_none.mp found tick (List.mem_of_getElem? listed)
  | some tick =>
      obtain ⟨i, listed⟩ := List.mem_iff_getElem?.mp (List.mem_of_find?_eq_some found)
      have running := List.find?_some found
      exact .inl ⟨i, tick, listed, running, rfl⟩

theorem current_of_running (one : OneTick s) {i : Nat} {tick : Tick}
    (found : s.ticks[i]? = some tick) (running : tick.pc.running = true) :
    s.current = tick.pc := by
  rcases current_cases s with ⟨k, other, found', running', same⟩ | ⟨none, _⟩
  · rw [← one i k tick other found found' running running'] at found'
    rw [found] at found'
    cases found'
    exact same
  · exact absurd running (none i tick found)

theorem current_of_none
    (none : ∀ (i : Nat) tick, s.ticks[i]? = some tick → ¬ tick.pc.running = true) :
    s.current = .returned := by
  rcases current_cases s with ⟨i, tick, found, running, _⟩ | ⟨_, same⟩
  · exact absurd running (none i tick found)
  · exact same

/-- Where ticks run, one ran before. -/
theorem OneTick.of_subset (one : OneTick s)
    (before : ∀ (i : Nat) tick, s'.ticks[i]? = some tick → tick.pc.running = true →
      ∃ old, s.ticks[i]? = some old ∧ old.pc.running = true) : OneTick s' := by
  intro i k tick other found found' running running'
  obtain ⟨old, old', wasRunning⟩ := before i tick found running
  obtain ⟨old₂, old₂', wasRunning₂⟩ := before k other found' running'
  exact one i k old old₂ old' old₂' wasRunning wasRunning₂

end Current

section Runs

variable {env : Env} {message : Json → String} {s s' : Deployment} {a : Action}

theorem executions_congr (history : s'.history = s.history) : s'.executions = s.executions := by
  funext id
  rw [Deployment.executions, Deployment.executions, history]

/-- Nothing that the invariant speaks about changed. -/
theorem Bounded.congr (bounded : Bounded s) (jobs : s'.site.jobs = s.site.jobs)
    (history : s'.history = s.history) (created : s'.created = s.created)
    (current : s'.current = s.current) : Bounded s' := by
  refine ⟨by rw [jobs]; exact bounded.keys, ?_⟩
  rw [jobs, created, current, executions_congr history]
  exact bounded.within

theorem Bounded.start (bounded : Bounded s) {p : Nat} (site : s'.site = s.site)
    (ticks : s'.ticks = s.ticks ++ [⟨p, .reap, 0⟩]) (history : s'.history = s.history)
    (created : s'.created = s.created) : Bounded s' := by
  refine ⟨by rw [site]; exact bounded.keys, ?_⟩
  rw [site, created, executions_congr history]
  have within := bounded.within
  cases found : s.ticks.find? fun tick => tick.pc.running with
  | none =>
      have here : s.current = .returned := by
        rw [Deployment.current, found]
        rfl
      have there : s'.current = .reap := by
        rw [Deployment.current, ticks, List.find?_append, found]
        rfl
      rw [here] at within
      rw [there]
      exact within.of_idle rfl rfl
  | some tick =>
      have same : s'.current = s.current := by
        rw [Deployment.current, Deployment.current, ticks, List.find?_append, found]
        rfl
      rw [same]
      exact within

theorem TickPc.eq_of_attempt {pc : TickPc} {job : Job} {e : ExecPc}
    (attempt : pc.attempt = some (job, e)) :
    e.phase.executing = true ∧
      ∃ workerId jobs queues, pc = .execute workerId job e jobs queues := by
  cases pc with
  | execute workerId job' e' jobs queues =>
      simp only [TickPc.attempt] at attempt
      split at attempt
      next executing =>
        cases attempt
        exact ⟨executing, workerId, jobs, queues, rfl⟩
      · cases attempt
  | _ => cases attempt

/-- Ticks end, but not during a last attempt. -/
theorem Bounded.stop (bounded : Bounded s) (one : OneTick s) (spares : SparesAttempts s a)
    (site : s'.site = s.site)
    (ticks : ∀ i, s'.ticks[i]? = s.ticks[i]? ∨ ∃ tick tick', s.ticks[i]? = some tick ∧
      Stops env message s a i tick ∧ s'.ticks[i]? = some tick' ∧ tick'.pc.running = false)
    (history : s'.history = s.history) (created : s'.created = s.created) : Bounded s' := by
  have old {k : Nat} {tick : Tick} (found : s'.ticks[k]? = some tick)
      (running : tick.pc.running = true) : s.ticks[k]? = some tick := by
    rcases ticks k with same | ⟨_, tick', _, _, found', ended⟩
    · rw [← same]
      exact found
    · rw [found] at found'
      cases found'
      rw [running] at ended
      cases ended
  have one' : OneTick s' :=
    one.of_subset fun i tick found running => ⟨tick, old found running, running⟩
  rcases current_cases s with ⟨i, tick, found, running, here⟩ | ⟨none, here⟩
  · rcases ticks i with same | ⟨tick₀, tick', found₀, stops, found', ended⟩
    · rw [found] at same
      exact bounded.congr (by rw [site]) history created
        ((current_of_running one' same running).trans here.symm)
    · rw [found] at found₀
      cases found₀
      -- the tick that was under way is over
      have there : s'.current = .returned := by
        refine current_of_none fun k other listed running' => ?_
        cases one k i other tick (old listed running') found running' running
        rw [found'] at listed
        cases listed
        rw [running'] at ended
        cases ended
      refine ⟨by rw [site]; exact bounded.keys, ?_⟩
      rw [site, created, executions_congr history, there]
      have within := bounded.within
      rw [here] at within
      refine within.stop fun job e attempt track may => ?_
      cases stops with
      | lose => exact (spares i tick job e found attempt).1 (.inl rfl) track may
      | kill => exact (spares i tick job e found attempt).1 (.inr rfl) track may
      | throw throws =>
          obtain ⟨executing, workerId, jobs, queues, pc⟩ := TickPc.eq_of_attempt attempt
          rw [pc] at throws
          refine absurd (within.present job ?_) (TickPc.step_throws throws executing)
          rw [TickPc.held_of_attempt attempt]
          exact List.mem_cons_self
  · refine bounded.congr (by rw [site]) history created ?_
    rw [here]
    exact current_of_none fun k other listed running =>
      none k other (old listed running) running

/-- Ticks do not reset attempts. -/
theorem Effect.not_resets {tickEnv : TickEnv} {choice : Choice} {now : Timestamptz}
    {site site' : Site} {pc pc' : TickPc} {event : Option Event} {id : UUID} {e : Event}
    (effect : Effect tickEnv choice now site pc site' pc' event) (shown : event = some e) :
    Event.resets id e = false := by
  cases effect <;> cases shown <;> rfl

/-- The only tick takes a step. -/
theorem Bounded.tick (bounded : Bounded s) (one : OneTick s) {i : Nat} {choice : Choice}
    {tick tick' : Tick} {event : Option Event}
    (steps : Steps env message s s' a i choice tick tick' event)
    (created : s'.created = s.created) : Bounded s' := by
  have within := bounded.within
  rw [current_of_running one steps.found steps.effect.running] at within
  refine ⟨by rw [steps.effect.jobIds]; exact bounded.keys, ?_⟩
  have next : Within (· ∈ s'.created) s'.executions s'.site.jobs tick'.pc := by
    rw [created]
    refine steps.effect.within bounded.keys (fun id executed => ?_) (fun id unseen => ?_) within
    · rw [Deployment.executions, steps.history, executed]
      exact executionsSince_executed rfl
    · rw [Deployment.executions, steps.history]
      cases event with
      | none => rfl
      | some event =>
          exact executionsSince_of_ne (steps.effect.not_resets rfl)
            fun executed => unseen (by rw [executed])
  have before (k : Nat) (there : Tick) (found : s'.ticks[k]? = some there)
      (running : there.pc.running = true) :
      ∃ old, s.ticks[k]? = some old ∧ old.pc.running = true := by
    by_cases same : k = i
    · exact ⟨tick, by rw [same]; exact steps.found, steps.effect.running⟩
    · rw [steps.others same] at found
      exact ⟨there, found, running⟩
  cases running : tick'.pc.running with
  | true =>
      rw [current_of_running (one.of_subset before) steps.there running]
      exact next
  | false =>
      have there : s'.current = .returned := by
        refine current_of_none fun k other listed running' => ?_
        obtain ⟨old, found, wasRunning⟩ := before k other listed running'
        cases one k i old tick found steps.found wasRunning steps.effect.running
        rw [steps.there] at listed
        cases listed
        rw [running] at running'
        cases running'
      rw [there]
      refine next.stop fun job e attempt => ?_
      obtain ⟨_, workerId, jobs, queues, pc⟩ := TickPc.eq_of_attempt attempt
      rw [pc] at running
      cases running

theorem current_congr (ticks : s'.ticks = s.ticks) : s'.current = s.current := by
  rw [Deployment.current, Deployment.current, ticks]

/-- The count of a new job begins. -/
theorem Bounded.insert (bounded : Bounded s) {new : NewJob}
    (keys : (s'.site.jobs.map (·.id)).Nodup) (unused : ∀ j ∈ s.site.jobs, j.id ≠ new.id)
    (jobs : s'.site.jobs = s.site.jobs ++ [s.newRow env new]) (ticks : s'.ticks = s.ticks)
    (history : s'.history = .reset new.id :: s.history)
    (created : s'.created = new.id :: s.created) : Bounded s' := by
  refine ⟨keys, ?_⟩
  rw [jobs, current_congr ticks]
  refine bounded.within.insert unused (fun id other => ⟨?_, ?_⟩) ?_ rfl rfl
  · rw [created]
    exact ⟨fun listed => (List.mem_cons.mp listed).resolve_left other, List.mem_cons_of_mem _⟩
  · rw [Deployment.executions, history]
    exact executionsSince_of_ne (decide_eq_false (Ne.symm other)) (by simp)
  · rw [Deployment.executions, history]
    exact executionsSince_of_kind (decide_eq_true rfl)

/-- The count of a retried job begins again. -/
theorem Bounded.requeue (bounded : Bounded s) {orgId jobId : UUID}
    (keys : (s'.site.jobs.map (·.id)).Nodup)
    (apart : ∀ job e, s.current.attempt = some (job, e) → e.phase = .preparing → job.id ≠ jobId)
    (site : s'.site = requeueJob (s.clock env) orgId s.site jobId) (ticks : s'.ticks = s.ticks)
    (history : s'.history = ((s.retried orgId jobId).map fun _ => Event.reset jobId).toList ++
      s.history)
    (created : s'.created = s.created) : Bounded s' := by
  refine ⟨keys, ?_⟩
  rw [site, created, current_congr ticks]
  refine bounded.within.retry (fun row selected => selected.1) ?_ (fun id => ?_) apart
  · -- an updated row is returned, so the event is recorded
    intro row member selected
    cases retried : s.retried orgId jobId with
    | none => exact absurd (decide_eq_true selected) (List.find?_eq_none.mp retried row member)
    | some job =>
        rw [retried] at history
        rw [Deployment.executions, history]
        exact executionsSince_of_kind (decide_eq_true selected.1.symm)
  · rw [Deployment.executions, Deployment.executions, history]
    cases s.retried orgId jobId with
    | none => exact le_refl _
    | some job =>
        rw [Option.map_some, Option.toList_some, List.cons_append]
        by_cases same : jobId = id
        · rw [executionsSince_of_kind (decide_eq_true same)]
          exact Nat.zero_le _
        · rw [executionsSince_of_ne (decide_eq_false same) (by simp)]
          exact le_refl _

/-- **Step.** -/
theorem Bounded.step (bounded : Bounded s) (moves : Moves env message s s' a) (one : OneTick s)
    (spares : SparesAttempts s a) : Bounded s' := by
  have keys := moves.jobKeys bounded.keys
  cases moves with
  | waited _ same =>
      subst same
      exact ⟨bounded.keys, bounded.within⟩
  | quiet _ jobs _ ticks history created =>
      exact bounded.congr jobs history created (current_congr ticks)
  | started p _ _ site ticks history created => exact bounded.start site ticks history created
  | stopped _ site ticks history created =>
      exact bounded.stop one spares site ticks history created
  | @ticked i choice tick tick' event found effect _ ticks history created =>
      exact bounded.tick one ⟨rfl, found, effect, ticks, history⟩ created
  | inserted unused _ jobs _ ticks history created =>
      exact bounded.insert keys unused jobs ticks history created
  | @requeued i _ _ _ _ found _ site ticks _ history created =>
      refine bounded.requeue keys (fun job e attempt preparing same => ?_) site ticks history
        created
      rcases current_cases s with ⟨k, tick, found', _, here⟩ | ⟨_, here⟩
      · rw [here] at attempt
        exact (spares k tick job e found' attempt).2 i _ rfl found preparing same.symm
      · rw [here] at attempt
        cases attempt

end Runs

instance : DecidablePred WithinAttempts :=
  fun s => inferInstanceAs (Decidable (∀ job ∈ s.site.jobs, _ → _ → _))

theorem oneTick_of_one {s : Deployment} (one : AtMostOne TickPc.running s) : OneTick s :=
  fun _ _ _ _ found found' running running' => one.eq found found' running running'

/-- The action ends ticks. -/
def Action.ends : Action → Bool
  | .lose _ | .kill _ => true
  | _ => false

/-- No retry comes, and the attempts that are lost are not the last ones. -/
def LosesNoLast (s : Deployment) (a : Action) : Prop :=
  s.retries.isEmpty = true ∧ (a.ends = true → ∀ tick ∈ s.ticks, ∀ attempt ∈ tick.pc.attempt,
    attemptOf attempt.1 < attempt.1.maxAttempts)

instance (s : Deployment) (a : Action) : Decidable (LosesNoLast s a) :=
  inferInstanceAs (Decidable (_ ∧ (_ → ∀ tick ∈ s.ticks, ∀ attempt ∈ tick.pc.attempt, _)))

theorem LosesNoLast.spares {s : Deployment} {a : Action} (loses : LosesNoLast s a) :
    SparesAttempts s a := by
  intro i tick job pc found attempt
  refine ⟨fun ends _ _ => ?_, fun k retry _ found' => ?_⟩
  · refine loses.2 ?_ tick (List.mem_of_getElem? found) _ attempt
    rcases ends with rfl | rfl <;> rfl
  · rw [List.isEmpty_iff.mp loses.1] at found'
    cases found'

/-- A job whose handler fails is created. -/
def createFailing (maxAttempts : Int) : Action :=
  .insert ⟨2, 100, 0, .null, none, maxAttempts, 0, none⟩

/-- The process dies in the first attempt; a later tick makes the next one. -/
def crashInHandler (maxAttempts : Int) : List Action :=
  [createFailing maxAttempts, .cron 0] ++ statements 0 11 ++ [.kill 0, .wait 31000000, .cron 0] ++
    statements 1 11

theorem oneQueue_initial : (atRest (oneQueue (some 1) [])).Initial :=
  ⟨by decide, by decide, rfl, rfl, rfl, rfl⟩

end Dashboard

end JobScheduler
