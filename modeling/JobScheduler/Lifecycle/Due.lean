import JobScheduler.System.World

/-!
# Which accepted jobs are claimed when they are due

`buildJobInput` gives a job that starts at once or after a delay the status `queued`, and
one with `run_at` or `cron_expr` the status `scheduled`. The claim query takes `queued`
rows only, and no statement of the repository moves a row from `scheduled` to `queued`.
So whether an accepted job is claimed once its run time has come is decided by its
scheduling mode (`claimed_when_due_iff`).
-/

set_option autoImplicit false

namespace JobScheduler

open Relational

/-! ## The initial status -/

section Status

variable {cron : CronParser} {now : Time} {req : CreateJobRequest} {queue : Queue}
  {input : CreateJobInput}

/-- A job waits as `queued` exactly when it asks for no instant and no recurrence. -/
theorem scheduleOf_queued_iff :
    (scheduleOf cron now req).1 = .queued ↔ req.runAt = none ∧ req.cronExpr = none := by
  unfold scheduleOf
  cases recurrence : req.cronExpr with
  | some expr =>
      cases parsed : cron expr with
      | error message => simp [parsed]
      | ok next => simp [parsed]
  | none =>
      cases instant : req.runAt with
      | some t => simp
      | none =>
          cases delay : req.delaySeconds with
          | some n => simp
          | none => simp

/-- The columns of an accepted request that bear on the claim. -/
theorem buildJobInput_schedule (builds : buildJobInput cron now req queue = .ok input) :
    input.queueId = queue.id ∧ input.status = (scheduleOf cron now req).1 ∧
      input.nextRunAt = some (scheduleOf cron now req).2 := by
  unfold buildJobInput at builds
  split at builds
  · cases builds
    exact ⟨rfl, rfl, rfl⟩
  · cases builds

end Status

/-! ## A claim with a budget for every due job -/

namespace Database

variable {db : Database} {now : Timestamptz} {tie emit : UUID → Nat} {workerId : UUID}
  {leaseSeconds : Int}

/-- With a budget for all the due jobs the inner `SELECT` of `claimQ` returns each of
them. -/
theorem mem_claimTargets_of_budget {queueId : UUID} {budget : Int} {job : Job}
    (member : job ∈ db.jobs) (claimable : job.Claimable queueId now)
    (enough : (db.jobs.countP (Job.Claimable queueId now) : Int) ≤ budget) :
    job.id ∈ db.claimTargets now tie queueId budget := by
  unfold claimTargets
  have all : ((db.jobs.filter (Job.Claimable queueId now)).insertionSort
      (Job.ClaimOrder tie)).length ≤ budget.toNat := by
    rw [List.length_insertionSort, ← List.countP_eq_length_filter]
    omega
  rw [List.take_of_length_le all]
  apply List.mem_map_of_mem
  rw [List.mem_insertionSort, List.mem_filter]
  exact ⟨member, decide_eq_true claimable⟩

/-- A call of `ClaimJobs` by a registered worker on the queue of `row`, not before the run
time of `row` and with a budget for every due job of the queue, in a database where `row`
is as it was inserted. -/
structure DueCall (db : Database) (queue : Queue) (row : Job) (workerId : UUID)
    (now : Timestamptz) : Prop where
  jobIds : (db.jobs.map (·.id)).Nodup
  queueIds : (db.queues.map (·.id)).Nodup
  listed : queue ∈ db.queues
  target : queue.id = row.queueId
  untouched : row ∈ db.jobs
  registered : ∃ w ∈ db.workers, w.id = workerId
  due : ∀ instant ∈ row.nextRunAt, instant ≤ now
  budget : (db.jobs.countP (Job.Claimable queue.id now) : Int) ≤ db.claimBudget queue

/-- The call succeeds, returns the row and writes it as claimed. -/
def Claims (db : Database) (row : Job) (workerId : UUID) (now : Timestamptz)
    (tie emit : UUID → Nat) (leaseSeconds : Int) : Prop :=
  ∃ db' jobs, db.claimJobs now tie emit workerId row.queueId leaseSeconds = .ok (db', jobs) ∧
    row.claim now workerId leaseSeconds ∈ jobs ∧ row.claim now workerId leaseSeconds ∈ db'.jobs

/-- A queued job is claimed by every such call. -/
theorem DueCall.claims {queue : Queue} {row : Job} (call : db.DueCall queue row workerId now)
    (queued : row.status = .queued) (dated : row.nextRunAt ≠ none) :
    db.Claims row workerId now tie emit leaseSeconds := by
  obtain ⟨instant, runsAt⟩ := Option.ne_none_iff_exists'.mp dated
  have claimable : row.Claimable queue.id now :=
    ⟨call.target.symm, queued, instant, runsAt, call.due instant runsAt⟩
  have positive : 0 < db.jobs.countP (Job.Claimable queue.id now) :=
    List.countP_pos_iff.mpr ⟨row, call.untouched, decide_eq_true claimable⟩
  have affordable := call.budget
  have target : row.id ∈ db.claimTargets now tie queue.id (db.claimBudget queue) :=
    mem_claimTargets_of_budget call.untouched claimable affordable
  have found : db.queues.find? (·.id = row.queueId) = some queue := by
    rw [← call.target]
    exact find?_key_eq call.queueIds call.listed
  unfold Claims claimJobs
  rw [found]
  dsimp only
  rw [if_neg (by omega), if_neg (by simp [call.registered]), ← call.target]
  refine ⟨_, _, rfl, ?_, mem_update_of_selects call.untouched target⟩
  rw [(arrange_perm _ _).mem_iff]
  apply List.mem_map_of_mem
  rw [List.mem_filter]
  exact ⟨call.untouched, decide_eq_true target⟩

/-- A row that `ClaimJobs` returns was queued. -/
theorem queued_of_claims {row : Job} (jobIds : (db.jobs.map (·.id)).Nodup)
    (untouched : row ∈ db.jobs) (claims : db.Claims row workerId now tie emit leaseSeconds) :
    row.status = .queued := by
  obtain ⟨db', jobs, answers, returned, _⟩ := claims
  obtain ⟨targets, claimable, _, listed⟩ := db.claimJobs_spec answers
  obtain ⟨old, oldMember, same⟩ := List.mem_map.mp (listed.mem_iff.mp returned)
  rw [List.mem_filter, decide_eq_true_eq] at oldMember
  obtain ⟨job, member, sameId, eligible⟩ := claimable old.id oldMember.2
  have claimedId := congrArg Job.id same
  have oldId : old.id = row.id := claimedId
  have eq := eq_of_key_eq jobIds member untouched (sameId.trans oldId)
  subst eq
  exact eligible.2.1

end Database

/-! ## Accepted jobs -/

/-- **When an accepted job is claimed.** Let a request be accepted and its job inserted.
Any later call of `ClaimJobs` on the queue, not before the job's run time and with a budget
for all due jobs, claims the untouched job exactly when the request has neither `run_at` nor
`cron_expr`. -/
theorem claimed_when_due_iff (cron : CronParser) (received : Time) (req : CreateJobRequest)
    (queue : Queue) (input : CreateJobInput)
    (builds : buildJobInput cron received req queue = .ok input)
    (db db' : Database) (created : Timestamptz) (id : UUID) (result : CreateJobResult)
    (creates : db.createJob created id input = .ok (db', result))
    (inserted : result.created = true)
    (later : Database) (target : Queue) (workerId : UUID) (now : Timestamptz)
    (call : later.DueCall target result.job workerId now) (tie emit : UUID → Nat)
    (leaseSeconds : Int) :
    later.Claims result.job workerId now tie emit leaseSeconds ↔
      req.runAt = none ∧ req.cronExpr = none := by
  obtain ⟨_, status, runsAt⟩ := buildJobInput_schedule builds
  have row := db.createJob_created creates inserted
  have rowStatus : result.job.status = (scheduleOf cron received req).1 := by
    rw [row]
    exact status
  have dated : result.job.nextRunAt ≠ none := by
    rw [row]
    simp [Job.inserted, runsAt]
  rw [← scheduleOf_queued_iff, ← rowStatus]
  constructor
  · intro claims
    exact Database.queued_of_claims call.jobIds call.untouched claims
  · intro queued
    exact call.claims queued dated

/-- A queue and a worker. -/
def idleQueue : Database :=
  { Database.migrated [] with
    queues := [Scenario.queue 3]
    workers := [⟨5, "worker", .active, 0, 0⟩] }

theorem claimed_when_due_immediate :
    ∃ input db result,
      buildJobInput Scenario.cron 1000 (Scenario.request none) (Scenario.queue 3) = .ok input ∧
      idleQueue.createJob 1 4 input = .ok (db, result) ∧
      db.Claims result.job 5 1 (fun _ => 0) (fun _ => 0) 30 := by
  refine ⟨_, _, _, rfl, rfl, ?_⟩
  refine (claimed_when_due_iff Scenario.cron 1000 (Scenario.request none) (Scenario.queue 3) _ rfl
    idleQueue _ 1 4 _ rfl rfl _ (Scenario.queue 3) 5 1 ?_ _ _ 30).mpr ⟨rfl, rfl⟩
  exact ⟨by decide, by decide, List.mem_singleton.mpr rfl, rfl, List.mem_singleton.mpr rfl,
    by decide, by decide, by decide⟩

/-- A job to run five microseconds after the epoch. -/
def datedRequest : CreateJobRequest :=
  { Scenario.request none with runAt := some 5000 }

/-- The dated job is due and alone in its queue, and still not claimed. -/
theorem dated_job_not_claimed :
    ¬ ∀ (cron : CronParser) (received : Time) (req : CreateJobRequest) (queue : Queue)
      (input : CreateJobInput), buildJobInput cron received req queue = .ok input →
      ∀ (db db' : Database) (created : Timestamptz) (id : UUID) (result : CreateJobResult),
      db.createJob created id input = .ok (db', result) → result.created = true →
      ∀ (later : Database) (target : Queue) (workerId : UUID) (now : Timestamptz),
      later.DueCall target result.job workerId now → ∀ (tie emit : UUID → Nat)
      (leaseSeconds : Int), later.Claims result.job workerId now tie emit leaseSeconds := by
  intro always
  obtain ⟨input, db, result, builds, creates, inserted, call, unclaimed⟩ :
      ∃ input db result,
        buildJobInput Scenario.cron 1000 datedRequest (Scenario.queue 3) = .ok input ∧
        idleQueue.createJob 1 4 input = .ok (db, result) ∧ result.created = true ∧
        db.DueCall (Scenario.queue 3) result.job 5 5 ∧ result.job.status ≠ .queued := by
    refine ⟨_, _, _, rfl, rfl, rfl, ?_, by decide⟩
    exact ⟨by decide, by decide, List.mem_singleton.mpr rfl, rfl, List.mem_singleton.mpr rfl,
      by decide, by decide, by decide⟩
  have claims := always _ _ _ _ input builds _ _ _ _ result creates inserted _ _ _ _ call
    (fun _ => 0) (fun _ => 0) 30
  exact unclaimed (Database.queued_of_claims call.jobIds call.untouched claims)

end JobScheduler
