import JobScheduler.Dashboard.Worker
import JobScheduler.Store.ClaimSelection

/-!
# The two claims

`ClaimJobs` of the Go workers and the claim in `runWorkerTick` select the jobs of a queue with
the same budget-and-order logic, written twice. They differ in two places. A job whose
`next_run_at` is `NULL` is never due for `ClaimJobs`, while a tick takes it before the jobs of
its priority. A queue without a concurrency limit has no limit for `ClaimJobs` and the limit
five for a tick.

So the claims are the same exactly when neither shows: enough due jobs of higher priority use
up the tick's budget before each job without a date, and a queue without a limit has no more
due jobs than five less the active ones.
-/

set_option autoImplicit false

namespace JobScheduler

open Relational

namespace Job

variable {queueId : UUID} {now : Timestamptz} {tie : UUID → Nat} {first second : Job}

instance (tie : UUID → Nat) : Std.Total (DueOrder tie) where
  total first second := by
    unfold DueOrder
    cases first.nextRunAt <;> cases second.nextRunAt <;>
      simp only [NullsFirst, Option.some.injEq, reduceCtorEq] <;> grind

instance (tie : UUID → Nat) : IsTrans Job (DueOrder tie) where
  trans first second third := by
    unfold DueOrder
    cases first.nextRunAt <;> cases second.nextRunAt <;> cases third.nextRunAt <;>
      simp only [NullsFirst, Option.some.injEq, reduceCtorEq] <;> grind

/-- A job without a date that a tick takes for due. -/
def Undated (queueId : UUID) (job : Job) : Prop :=
  job.queueId = queueId ∧ job.status = .queued ∧ job.nextRunAt = none

instance (queueId : UUID) : DecidablePred (Undated queueId) :=
  fun _ => inferInstanceAs (Decidable (_ ∧ _ ∧ _))

/-- The jobs that both take for due are the ones with a date. -/
theorem claimable_iff {job : Job} :
    job.Claimable queueId now ↔ job.nextRunAt.isSome = true ∧ job.Due queueId now := by
  cases dated : job.nextRunAt <;> simp [Claimable, Due, dated]

theorem undated_iff (now : Timestamptz) {job : Job} :
    job.Undated queueId ↔ job.nextRunAt.isSome = false ∧ job.Due queueId now := by
  cases dated : job.nextRunAt <;> simp [Undated, Due, dated]

/-- On jobs with a date the two orders are the same. -/
theorem dueOrder_iff_claimOrder (firstDated : first.nextRunAt.isSome = true)
    (secondDated : second.nextRunAt.isSome = true) :
    DueOrder tie first second ↔ ClaimOrder tie first second := by
  obtain ⟨a, firstDate⟩ := Option.isSome_iff_exists.mp firstDated
  obtain ⟨b, secondDate⟩ := Option.isSome_iff_exists.mp secondDated
  simp only [DueOrder, ClaimOrder, firstDate, secondDate, NullsFirst, Option.getD_some,
    Option.some.injEq]

/-- A job with a date comes before one without exactly when its priority is higher. -/
theorem dueOrder_undated (firstDated : first.nextRunAt.isSome = true)
    (secondUndated : second.nextRunAt.isSome = false) :
    DueOrder tie first second ↔ second.priority < first.priority := by
  obtain ⟨a, firstDate⟩ := Option.isSome_iff_exists.mp firstDated
  have none := Option.isSome_eq_false_iff.mp secondUndated
  simp only [DueOrder, firstDate, Option.isNone_iff_eq_none.mp none, NullsFirst]
  simp

end Job

namespace Dashboard

/-! ## The claim of a tick -/

/-- The budget of a tick, before the casts to `INT`. -/
def tickBudget (site : Site) (queue : Queue) : Int :=
  max (queue.concurrencyLimit.getD 5 - site.core.activeCount queue.id) 0

/-- The claim that a tick does for a queue when nothing else happens: both statements on the
same tables. A statement that fails claims nothing. -/
def claimQueue (now : Timestamptz) (choice : Choice) (workerId queueId : UUID) (site : Site) :
    Site × List Job :=
  match readBudget site queueId with
  | .error _ => (site, [])
  | .ok left =>
      if left ≤ 0 then (site, [])
      else
        match claimDue now site choice workerId queueId left with
        | .error _ => (site, [])
        | .ok claimed => claimed

/-- What the schema says of the tables that the claims read. -/
structure Stored (site : Site) : Prop where
  queueKeys : (site.queues.map (·.id)).Nodup
  jobKeys : (site.jobs.map (·.id)).Nodup
  limits : ∀ q ∈ site.queues, ∀ limit ∈ q.concurrencyLimit, InInt4 limit

section

variable {site : Site} {now : Timestamptz} {queue : Queue} {choice : Choice} {workerId : UUID}

/-- The claim is what the two statements of a tick do, one right after the other. -/
theorem claimQueue_of_steps {env : TickEnv} {queueId : UUID} {queues : List UUID} {left : Int}
    {site' : Site} {pc : TickPc} {done : Bool} {event : Option Event}
    (reads : (TickPc.budget workerId queueId queues).step env choice now site =
      some (.ok (site, .claim workerId queueId left queues, false, none)))
    (claims : (TickPc.claim workerId queueId left queues).step env choice now site =
      some (.ok (site', pc, done, event))) :
    ∃ jobs, claimQueue now choice workerId queueId site = (site', jobs) ∧
      pc = .resume workerId jobs queues := by
  simp only [TickPc.step, proceed] at reads claims
  cases budget : readBudget site queueId with
  | error e =>
      rw [budget] at reads
      cases reads
  | ok found =>
      simp only [budget, Option.some.injEq, Except.ok.injEq, Prod.mk.injEq, true_and,
        and_true] at reads
      split at reads
      · cases queues <;> cases reads
      next positive =>
        cases reads
        cases taken : claimDue now site choice workerId queueId left with
        | error e =>
            rw [taken] at claims
            cases claims
        | ok claimed =>
            rw [taken] at claims
            cases claims
            exact ⟨claimed.2, by simp only [claimQueue, budget, if_neg positive, taken], rfl⟩

/-- The budget statement returns the budget; it fails only when nothing is left. -/
theorem readBudget_spec (stored : Stored site) (member : queue ∈ site.queues) :
    readBudget site queue.id = .ok (tickBudget site queue) ∨
      ∃ e, readBudget site queue.id = .error e ∧ tickBudget site queue = 0 := by
  have found : site.queues.find? (·.id = queue.id) = some queue :=
    find?_key_eq stored.queueKeys member
  have limit : queue.concurrencyLimit.getD 5 ≤ 2147483647 := by
    cases given : queue.concurrencyLimit with
    | none => decide
    | some limit => exact (stored.limits queue member limit given).2
  simp only [readBudget, found]
  split
  next overflow =>
    refine .inr ⟨_, rfl, ?_⟩
    simp only [InInt4, tickBudget] at overflow ⊢
    omega
  · exact .inl rfl

/-- The claim of a tick rewrites and returns the first due jobs within its budget. -/
theorem claimQueue_eq (now : Timestamptz) (choice : Choice) (stored : Stored site)
    (member : queue ∈ site.queues)
    (registered : ∃ w ∈ site.workers, w.id = workerId) {targets : List UUID}
    (first : targets = dueTargets now site choice.tie queue.id (tickBudget site queue)) :
    claimQueue now choice workerId queue.id site =
      ({ site with
          jobs := update (·.id ∈ targets) (Job.claim now workerId leaseSeconds) site.jobs },
        arrange (choice.emit ·.id)
          ((site.jobs.filter (·.id ∈ targets)).map (Job.claim now workerId leaseSeconds))) := by
  have nothing (none : tickBudget site queue ≤ 0) : (site, ([] : List Job)) =
      ({ site with
          jobs := update (·.id ∈ targets) (Job.claim now workerId leaseSeconds) site.jobs },
        arrange (choice.emit ·.id)
          ((site.jobs.filter (·.id ∈ targets)).map (Job.claim now workerId leaseSeconds))) := by
    rw [dueTargets, Int.toNat_of_nonpos none] at first
    subst first
    simp [update_eq_self, arrange]
  rcases readBudget_spec stored member with reads | ⟨e, fails, none⟩
  · simp only [claimQueue, reads]
    split
    next none => exact nothing none
    · simp only [claimDue, ← first, registered, not_true_eq_false, and_false, if_false]
  · simp only [claimQueue, fails]
    exact nothing none.le

/-- `ClaimJobs` rewrites and returns the first claimable jobs within its budget. -/
theorem claimJobs_eq (now : Timestamptz) (tie emit : UUID → Nat) (seconds : Int)
    (stored : Stored site) (member : queue ∈ site.queues)
    (registered : ∃ w ∈ site.workers, w.id = workerId) {targets : List UUID}
    (first : targets = site.core.claimTargets now tie queue.id (site.core.claimBudget queue)) :
    site.core.claimJobs now tie emit workerId queue.id seconds = .ok
      ({ site.core with
          jobs := update (·.id ∈ targets) (Job.claim now workerId seconds) site.jobs },
        arrange (emit ·.id)
          ((site.jobs.filter (·.id ∈ targets)).map (Job.claim now workerId seconds))) := by
  have known : ∃ w ∈ site.core.workers, w.id = workerId := registered
  exact Database.claimJobs_eq stored.queueKeys member known first

/-! ## The jobs they take -/

section

variable (site now) (tie : UUID → Nat) (queueId : UUID)

/-- The due jobs of the queue, in the order of a tick. -/
def dueJobs : List Job :=
  (site.jobs.filter (Job.Due queueId now)).insertionSort (Job.DueOrder tie)

/-- The due jobs with a date, in the order of `ClaimJobs`. -/
def datedJobs : List Job :=
  (site.jobs.filter (Job.Claimable queueId now)).insertionSort (Job.ClaimOrder tie)

/-- The due jobs with a date, of a higher priority. -/
def outranking (job : Job) : Nat :=
  site.jobs.countP fun other => other.Claimable queueId now ∧ job.priority < other.priority

end

variable {tie : UUID → Nat} {queueId : UUID}

/-- Without the undated jobs, the order of a tick is the order of `ClaimJobs`. -/
theorem dueJobs_filter : (dueJobs site now tie queueId).filter (·.nextRunAt.isSome) =
    datedJobs site now tie queueId := by
  have dated : (site.jobs.filter (Job.Due queueId now)).filter (·.nextRunAt.isSome) =
      site.jobs.filter (Job.Claimable queueId now) := by
    rw [List.filter_filter]
    refine List.filter_congr fun job _ => ?_
    rw [Bool.eq_iff_iff, Bool.and_eq_true, decide_eq_true_eq, decide_eq_true_eq,
      Job.claimable_iff]
  rw [dueJobs, filter_insertionSort, dated]
  refine insertionSort_congr _ _ fun first firstMember second secondMember => ?_
  have datedOf : ∀ job ∈ site.jobs.filter (Job.Claimable queueId now),
      job.nextRunAt.isSome = true := by
    intro job member
    exact (Job.claimable_iff.mp (of_decide_eq_true (List.mem_filter.mp member).2)).1
  exact Job.dueOrder_iff_claimOrder (datedOf first firstMember) (datedOf second secondMember)

/-- How many dated jobs come before an undated one. -/
theorem countP_dueJobs {job : Job} (undated : job.nextRunAt.isSome = false) :
    ((dueJobs site now tie queueId).countP fun other =>
      other.nextRunAt.isSome = true ∧ Job.DueOrder tie other job) =
        outranking site now queueId job := by
  rw [dueJobs, (List.perm_insertionSort _ _).countP_eq, List.countP_filter, outranking]
  refine List.countP_congr fun other _ => ?_
  rw [Bool.and_eq_true, decide_eq_true_eq, decide_eq_true_eq, decide_eq_true_eq,
    Job.claimable_iff]
  constructor
  · rintro ⟨⟨dated, before⟩, due⟩
    exact ⟨⟨dated, due⟩, (Job.dueOrder_undated dated undated).mp before⟩
  · rintro ⟨⟨dated, due⟩, higher⟩
    exact ⟨⟨dated, (Job.dueOrder_undated dated undated).mpr higher⟩, due⟩

theorem mem_dueJobs {job : Job} :
    job ∈ dueJobs site now tie queueId ↔ job ∈ site.jobs ∧ job.Due queueId now := by
  rw [dueJobs, List.mem_insertionSort, List.mem_filter, decide_eq_true_eq]

/-- A tick takes no undated job exactly when its budget goes to jobs of higher priority. -/
theorem take_dated_iff (tie : UUID → Nat) (n : Nat) :
    (∀ job ∈ (dueJobs site now tie queueId).take n, job.nextRunAt.isSome = true) ↔
      ∀ job ∈ site.jobs, job.Undated queueId → n ≤ outranking site now queueId job := by
  have sorted : (dueJobs site now tie queueId).Pairwise (Job.DueOrder tie) :=
    List.pairwise_insertionSort _ _
  have untied : ∀ row ∈ dueJobs site now tie queueId, ∀ other ∈ dueJobs site now tie queueId,
      row.nextRunAt.isSome = true → other.nextRunAt.isSome = false →
      Job.DueOrder tie row other → ¬ Job.DueOrder tie other row := by
    intro row _ other _ dated undated before after
    have higher := (Job.dueOrder_undated dated undated).mp before
    rcases after with lower | ⟨same, _⟩
    · omega
    · omega
  rw [take_all_selected_iff sorted untied]
  constructor
  · intro outranked job member undated
    obtain ⟨none, due⟩ := (Job.undated_iff now).mp undated
    rw [← countP_dueJobs none]
    exact outranked job (mem_dueJobs.mpr ⟨member, due⟩) none
  · intro outranked job member none
    obtain ⟨listed, due⟩ := mem_dueJobs.mp member
    rw [countP_dueJobs none]
    exact outranked job listed ((Job.undated_iff now).mpr ⟨none, due⟩)

/-- The two queries return the same identifiers exactly when a tick takes no undated job and
both limits cut the due jobs with a date at the same place. -/
theorem same_targets_iff (unique : (site.jobs.map (·.id)).Nodup) (goBudget budget : Int) :
    (∀ id, id ∈ site.core.claimTargets now tie queueId goBudget ↔
        id ∈ dueTargets now site tie queueId budget) ↔
      (∀ job ∈ site.jobs, job.Undated queueId → budget.toNat ≤ outranking site now queueId job) ∧
        min goBudget.toNat (site.jobs.countP (Job.Claimable queueId now)) =
          min budget.toNat (site.jobs.countP (Job.Claimable queueId now)) := by
  have keys : ((datedJobs site now tie queueId).map (·.id)).Nodup := by
    refine ((List.perm_insertionSort _ _).map _).nodup_iff.mpr ?_
    exact nodup_map_filter unique _
  have count : (datedJobs site now tie queueId).length =
      site.jobs.countP (Job.Claimable queueId now) := by
    rw [datedJobs, List.length_insertionSort, List.countP_eq_length_filter]
  have fewer : (datedJobs site now tie queueId).length ≤
      (dueJobs site now tie queueId).length := by
    rw [← dueJobs_filter]
    exact List.length_filter_le _ _
  -- without undated jobs a tick takes a prefix of the dated ones
  have cut (all : ∀ job ∈ (dueJobs site now tie queueId).take budget.toNat,
      job.nextRunAt.isSome = true) : (dueJobs site now tie queueId).take budget.toNat =
        (datedJobs site now tie queueId).take
          (min budget.toNat (dueJobs site now tie queueId).length) := by
    have kept := filter_take (·.nextRunAt.isSome) budget.toNat (dueJobs site now tie queueId)
    rw [List.filter_eq_self.mpr all, List.countP_eq_length.mpr all, dueJobs_filter,
      List.length_take] at kept
    exact kept
  have goTargets : site.core.claimTargets now tie queueId goBudget =
      ((datedJobs site now tie queueId).take goBudget.toNat).map (·.id) := rfl
  have targets : dueTargets now site tie queueId budget =
      ((dueJobs site now tie queueId).take budget.toNat).map (·.id) := rfl
  rw [← take_dated_iff tie, ← count, goTargets, targets]
  constructor
  · intro same
    have all : ∀ job ∈ (dueJobs site now tie queueId).take budget.toNat,
        job.nextRunAt.isSome = true := by
      intro job taken
      have listed := (same job.id).mpr (List.mem_map_of_mem taken)
      obtain ⟨other, member, sameId⟩ := List.mem_map.mp listed
      have due := mem_dueJobs.mp (List.mem_of_mem_take taken)
      have claimable := List.mem_of_mem_take member
      rw [datedJobs, List.mem_insertionSort, List.mem_filter, decide_eq_true_eq] at claimable
      rw [← eq_of_key_eq unique claimable.1 due.1 sameId]
      exact (Job.claimable_iff.mp claimable.2).1
    refine ⟨all, ?_⟩
    rw [cut all] at same
    have lengths := (mem_take_iff_of_nodup keys _ _).mp same
    omega
  · rintro ⟨all, lengths⟩
    rw [cut all]
    refine (mem_take_iff_of_nodup keys _ _).mpr ?_
    omega

/-! ## Agreement -/

/-- The columns that a claim writes and that the two programs share. -/
def leaseColumns (job : Job) : UUID × JobStatus × Option Timestamptz × Option Timestamptz :=
  (job.id, job.status, job.claimedAt, job.leaseExpiresAt)

/-- Both claim the same jobs, and leave the same status, claim time and lease in every row. -/
structure ClaimsAgree (go : Database × List Job) (tick : Site × List Job) : Prop where
  ids : ∀ id, id ∈ go.2.map (·.id) ↔ id ∈ tick.2.map (·.id)
  written : go.1.jobs.map leaseColumns = tick.1.jobs.map leaseColumns

/-- The state of the queue in which the two claims do the same. -/
structure ClaimsCoincide (site : Site) (now : Timestamptz) (queue : Queue) : Prop where
  /-- Jobs of higher priority use up the budget of a tick before each undated job. -/
  outranked : ∀ job ∈ site.jobs, job.Undated queue.id →
    tickBudget site queue ≤ outranking site now queue.id job
  /-- The queue has a limit, or the limit of a tick is not reached, or the one of `ClaimJobs`
  is reached as well. -/
  limited : queue.concurrencyLimit ≠ none ∨
    (site.jobs.countP (Job.Claimable queue.id now) : Int) ≤
      max (5 - (site.core.activeCount queue.id : Int)) 0 ∨
    2147483647 ≤ site.core.activeCount queue.id

/-- The identifiers of the rows that a claim returns are its targets. -/
theorem mem_returned {targets : List UUID} {rank : UUID → Nat} {seconds : Int}
    (known : ∀ id ∈ targets, ∃ job ∈ site.jobs, job.id = id) (id : UUID) :
    id ∈ (arrange (rank ·.id)
      ((site.jobs.filter (·.id ∈ targets)).map (Job.claim now workerId seconds))).map (·.id) ↔
      id ∈ targets := by
  rw [((arrange_perm _ _).map _).mem_iff, List.map_map]
  constructor
  · intro listed
    obtain ⟨job, member, rfl⟩ := List.mem_map.mp listed
    exact of_decide_eq_true (List.mem_filter.mp member).2
  · intro target
    obtain ⟨job, member, rfl⟩ := known id target
    exact List.mem_map_of_mem (List.mem_filter.mpr ⟨member, decide_eq_true target⟩)

/-- Claims of the same targets leave the same columns, whoever claims. -/
theorem leaseColumns_update {targets targets' : List UUID}
    (same : ∀ id, id ∈ targets ↔ id ∈ targets')
    (worker worker' : UUID) (seconds : Int) (jobs : List Job) :
    (update (·.id ∈ targets) (Job.claim now worker seconds) jobs).map leaseColumns =
      (update (·.id ∈ targets') (Job.claim now worker' seconds) jobs).map leaseColumns := by
  rw [update, update, List.map_map, List.map_map]
  refine List.map_congr_left fun job _ => ?_
  by_cases target : job.id ∈ targets
  · simp only [Function.comp_apply, if_pos target, if_pos ((same _).mp target)]
    rfl
  · simp only [Function.comp_apply, if_neg target, if_neg (fun t => target ((same _).mpr t))]

/-- How the budgets compare. -/
theorem min_budgets_iff (due : Nat) :
    min (site.core.claimBudget queue).toNat due = min (tickBudget site queue).toNat due ↔
      queue.concurrencyLimit ≠ none ∨
        (due : Int) ≤ max (5 - (site.core.activeCount queue.id : Int)) 0 ∨
        2147483647 ≤ site.core.activeCount queue.id := by
  simp only [Database.claimBudget, tickBudget]
  cases queue.concurrencyLimit with
  | none =>
      simp only [Option.getD_none, ne_eq, not_true_eq_false, false_or]
      omega
  | some limit => simp

/-- **When the two claims agree**, for every queue and every time. -/
theorem claims_agree_iff (now : Timestamptz) (choice : Choice) (emit : UUID → Nat)
    (goWorker workerId : UUID) (stored : Stored site) (member : queue ∈ site.queues)
    (goRegistered : ∃ w ∈ site.workers, w.id = goWorker)
    (registered : ∃ w ∈ site.workers, w.id = workerId) :
    (∃ go, site.core.claimJobs now choice.tie emit goWorker queue.id leaseSeconds = .ok go ∧
        ClaimsAgree go (claimQueue now choice workerId queue.id site)) ↔
      ClaimsCoincide site now queue := by
  have goEq := claimJobs_eq now choice.tie emit leaseSeconds stored member goRegistered rfl
  have eq := claimQueue_eq now choice stored member registered rfl
  have goKnown : ∀ id ∈ site.core.claimTargets now choice.tie queue.id
      (site.core.claimBudget queue), ∃ job ∈ site.jobs, job.id = id := by
    intro id target
    obtain ⟨job, found, same, _⟩ := site.core.mem_claimTargets target
    exact ⟨job, found, same⟩
  have known : ∀ id ∈ dueTargets now site choice.tie queue.id (tickBudget site queue),
      ∃ job ∈ site.jobs, job.id = id := by
    intro id target
    obtain ⟨job, taken, rfl⟩ := List.mem_map.mp target
    exact ⟨job, (mem_dueJobs.mp (List.mem_of_mem_take taken)).1, rfl⟩
  have agree : (∃ go, site.core.claimJobs now choice.tie emit goWorker queue.id leaseSeconds =
      .ok go ∧ ClaimsAgree go (claimQueue now choice workerId queue.id site)) ↔
      ∀ id, id ∈ site.core.claimTargets now choice.tie queue.id (site.core.claimBudget queue) ↔
        id ∈ dueTargets now site choice.tie queue.id (tickBudget site queue) := by
    rw [goEq, eq]
    constructor
    · rintro ⟨go, done, agrees⟩ id
      cases done
      rw [← mem_returned goKnown id, agrees.ids id]
      exact mem_returned known id
    · intro same
      refine ⟨_, rfl, fun id => ?_, leaseColumns_update same _ _ _ _⟩
      exact (mem_returned goKnown id).trans ((same id).trans (mem_returned known id).symm)
  rw [agree, same_targets_iff stored.jobKeys, min_budgets_iff]
  constructor
  · rintro ⟨outranked, limited⟩
    refine ⟨fun job listed undated => ?_, limited⟩
    have enough := outranked job listed undated
    omega
  · rintro ⟨outranked, limited⟩
    refine ⟨fun job listed undated => ?_, limited⟩
    have enough := outranked job listed undated
    omega

end

/-- Six jobs are due in a queue without a limit. -/
def sixDue : Site where
  organizations := []
  users := []
  projects := []
  retryPolicies := []
  queues := [⟨100, 10, "Outbox", "outbox", none, 0, none, false, 0, 0⟩]
  workers := [⟨7, workerName, .active, 0, 0⟩, ⟨8, "worker", .active, 0, 0⟩]
  workerHeartbeats := []
  jobs := [job 1, job 2, job 3, job 4, job 5, job 6]
  executions := []
  logs := []
  letters := []
where
  job (id : UUID) : Job :=
    ⟨id, 100, .queued, 0, .null, none, some 0, 0, 3, none, none, none, none, none, none, none,
      none, none, 0, 0⟩

/-- Ties go by identifier. -/
def plainChoice : Choice := ⟨id, id, id, 9⟩

/-- `ClaimJobs` takes all six jobs of `sixDue`, a tick five. -/
theorem claims_differ :
    ¬ ∀ (site : Site) (now : Timestamptz) (queue : Queue) (choice : Choice) (emit : UUID → Nat)
      (goWorker workerId : UUID), Stored site → queue ∈ site.queues → queue.paused = false →
      (∃ w ∈ site.workers, w.id = goWorker) → (∃ w ∈ site.workers, w.id = workerId) →
      ∃ go, site.core.claimJobs now choice.tie emit goWorker queue.id leaseSeconds = .ok go ∧
        ClaimsAgree go (claimQueue now choice workerId queue.id site) := by
  intro agree
  have stored : Stored sixDue := ⟨by decide, by decide, by decide⟩
  obtain ⟨go, done, agrees⟩ := agree sixDue 1 _ plainChoice id 8 7 stored List.mem_cons_self rfl
    (by decide) (by decide)
  cases done
  have sixth := (agrees.ids 6).mp (by decide)
  revert sixth
  decide

/-- A queue with limit two and two dated jobs that outrank an undated one. -/
def outrankedSite : Site :=
  { sixDue with
    queues := [⟨100, 10, "Outbox", "outbox", none, 0, some 2, false, 0, 0⟩]
    jobs := [{ sixDue.job 1 with priority := 5 }, { sixDue.job 2 with nextRunAt := none },
      { sixDue.job 3 with priority := 7 }] }

theorem claims_agree_iff_outranked :
    ∃ go, outrankedSite.core.claimJobs 1 id id 8 100 leaseSeconds = .ok go ∧
      go.2.map (·.id) = [1, 3] ∧
      ClaimsAgree go (claimQueue 1 plainChoice 7 100 outrankedSite) := by
  have stored : Stored outrankedSite := ⟨by decide, by decide, by decide⟩
  obtain ⟨go, done, agrees⟩ := (claims_agree_iff 1 plainChoice id 8 7 stored List.mem_cons_self
    (by decide) (by decide)).mpr ⟨by decide, by decide⟩
  refine ⟨go, done, ?_, agrees⟩
  cases done
  decide

end Dashboard

end JobScheduler
