import JobScheduler.Store.Job
import JobScheduler.Relational.Ranking

/-!
# Which jobs a call of `ClaimJobs` takes

The budget of a queue is what its limit leaves above the active jobs, and never negative. A call
takes that many of the due jobs, or all of them if there are fewer, by priority and then by run
time. It rewrites these rows and no others, and returns them (`claimJobs_selects`).
-/

set_option autoImplicit false

namespace JobScheduler

open Relational

/-! ## What a call has to do -/

/-- The row as a claim leaves it. Only `updated_at` is left open. -/
def Job.ClaimedAs (now : Timestamptz) (workerId : UUID) (leaseSeconds : Int) (old new : Job) :
    Prop :=
  new = { old with
    status := .claimed
    workerId := some workerId
    claimedAt := some now
    leaseExpiresAt := some (now + intervalSeconds leaseSeconds)
    updatedAt := new.updatedAt }

/-- No reason to take the second job before the first: neither a higher priority nor, at the same
priority, an earlier run time. -/
structure Job.NotOutranked (first second : Job) : Prop where
  priority : second.priority ≤ first.priority
  runTime : first.priority = second.priority →
    ∀ t ∈ first.nextRunAt, ∀ t' ∈ second.nextRunAt, t ≤ t'

/-- The chosen rows are the right ones, and nothing happens but that they are claimed and
returned. -/
structure Database.ClaimsRight (db : Database) (queue : Queue) (now : Timestamptz)
    (workerId : UUID) (leaseSeconds : Int) (chosen : List Job) (db' : Database)
    (returned : List Job) : Prop where
  rows : chosen.Sublist db.jobs
  eligible : ∀ job ∈ chosen, job.Claimable queue.id now
  number : (chosen.length : Int) =
    min (max (queue.concurrencyLimit.getD 2147483647 - db.activeCount queue.id) 0)
      (db.jobs.countP (Job.Claimable queue.id now))
  best : ∀ job ∈ chosen, ∀ other ∈ db.jobs, other.Claimable queue.id now → other ∉ chosen →
    job.NotOutranked other
  written : List.Forall₂ (fun old new =>
    old ∈ chosen ∧ old.ClaimedAs now workerId leaseSeconds new ∨ old ∉ chosen ∧ new = old)
    db.jobs db'.jobs
  others : db' = { db with jobs := db'.jobs }
  once : (returned.map (·.id)).Nodup
  listed : ∀ job, job ∈ returned ↔ job ∈ db'.jobs ∧ ∃ old ∈ chosen, old.id = job.id

/-! ## The order of the claim -/

section Order

variable {tie : UUID → Nat}

instance : Std.Total (Job.ClaimOrder tie) where
  total first second := by
    unfold Job.ClaimOrder
    grind

instance : IsTrans Job (Job.ClaimOrder tie) where
  trans first second third := by
    unfold Job.ClaimOrder
    grind

theorem Job.ClaimOrder.notOutranked {first second : Job} (order : Job.ClaimOrder tie first second) :
    first.NotOutranked second := by
  rcases order with higher | ⟨same, order⟩
  · exact ⟨higher.le, fun same => absurd same higher.ne'⟩
  · refine ⟨same.ge, fun _ t runsAt t' runsAt' => ?_⟩
    have first' : first.nextRunAt = some t := runsAt
    have second' : second.nextRunAt = some t' := runsAt'
    rw [first', second', Option.getD_some, Option.getD_some] at order
    rcases order with earlier | ⟨equal, _⟩
    · exact earlier.le
    · exact equal.le

end Order

/-! ## The rows that are taken -/

namespace Database

variable {db : Database} {now : Timestamptz} {tie emit : UUID → Nat} {workerId : UUID}
  {queue : Queue} {leaseSeconds : Int}

/-- `ClaimJobs` rewrites and returns the rows that its inner `SELECT` finds. -/
theorem claimJobs_eq (queueIds : (db.queues.map (·.id)).Nodup) (member : queue ∈ db.queues)
    (registered : ∃ w ∈ db.workers, w.id = workerId) {targets : List UUID}
    (first : targets = db.claimTargets now tie queue.id (db.claimBudget queue)) :
    db.claimJobs now tie emit workerId queue.id leaseSeconds = .ok
      ({ db with
          jobs := update (·.id ∈ targets) (Job.claim now workerId leaseSeconds) db.jobs },
        arrange (emit ·.id)
          ((db.jobs.filter (·.id ∈ targets)).map (Job.claim now workerId leaseSeconds))) := by
  have found : db.queues.find? (·.id = queue.id) = some queue := find?_key_eq queueIds member
  simp only [claimJobs, found]
  split
  next none =>
    rw [claimTargets, Int.toNat_of_nonpos none] at first
    subst first
    simp [update_eq_self, arrange]
  · simp only [← first, registered, not_true_eq_false, and_false, if_false]

section Chosen

variable (db now tie)

/-- The due jobs of a queue, in the order of the claim. -/
def claimable (queueId : UUID) : List Job :=
  (db.jobs.filter (Job.Claimable queueId now)).insertionSort (Job.ClaimOrder tie)

/-- The rows with the identifiers of the inner `SELECT`. -/
def claimedRows (queueId : UUID) (budget : Int) : List Job :=
  db.jobs.filter (·.id ∈ db.claimTargets now tie queueId budget)

end Chosen

variable {queueId : UUID} {budget : Int} {job : Job}

theorem mem_claimable :
    job ∈ db.claimable now tie queueId ↔ job ∈ db.jobs ∧ job.Claimable queueId now := by
  rw [claimable, List.mem_insertionSort, List.mem_filter, decide_eq_true_eq]

/-- The rows that are taken are the first due jobs. -/
theorem mem_claimedRows (jobIds : (db.jobs.map (·.id)).Nodup) :
    job ∈ db.claimedRows now tie queueId budget ↔
      job ∈ (db.claimable now tie queueId).take budget.toNat := by
  have listed : ∀ row ∈ (db.claimable now tie queueId).take budget.toNat, row ∈ db.jobs :=
    fun row taken => (mem_claimable.mp (List.mem_of_mem_take taken)).1
  rw [claimedRows, List.mem_filter, decide_eq_true_eq]
  constructor
  · rintro ⟨member, target⟩
    obtain ⟨row, taken, same⟩ := List.mem_map.mp target
    rwa [← eq_of_key_eq jobIds (listed row taken) member same]
  · intro taken
    exact ⟨listed job taken, List.mem_map_of_mem taken⟩

theorem length_claimedRows (jobIds : (db.jobs.map (·.id)).Nodup) :
    (db.claimedRows now tie queueId budget).length =
      min budget.toNat (db.jobs.countP (Job.Claimable queueId now)) := by
  have rows : db.jobs.Nodup := jobIds.of_map
  have sorted : (db.claimable now tie queueId).Nodup :=
    (List.perm_insertionSort _ _).nodup_iff.mpr (rows.filter _)
  have chosen : (db.claimedRows now tie queueId budget).Nodup := rows.filter _
  have perm : (db.claimedRows now tie queueId budget).Perm
      ((db.claimable now tie queueId).take budget.toNat) := by
    rw [List.perm_ext_iff_of_nodup chosen (sorted.sublist (List.take_sublist _ _))]
    exact fun _ => mem_claimedRows jobIds
  rw [perm.length_eq, List.length_take, claimable, List.length_insertionSort,
    List.countP_eq_length_filter]

/-- A due job that is left over does not outrank one that is taken. -/
theorem notOutranked_of_left (jobIds : (db.jobs.map (·.id)).Nodup) {other : Job}
    (taken : job ∈ db.claimedRows now tie queueId budget) (member : other ∈ db.jobs)
    (due : other.Claimable queueId now) (left : other ∉ db.claimedRows now tie queueId budget) :
    job.NotOutranked other := by
  rw [mem_claimedRows jobIds] at taken left
  have listed : other ∈ db.claimable now tie queueId := mem_claimable.mpr ⟨member, due⟩
  rw [← List.take_append_drop budget.toNat (db.claimable now tie queueId)] at listed
  have later := (List.mem_append.mp listed).resolve_left left
  have sorted : (db.claimable now tie queueId).Pairwise (Job.ClaimOrder tie) :=
    List.pairwise_insertionSort _ _
  exact (rel_take_drop sorted budget.toNat job taken other later).notOutranked

/-- The rows after the claim, one by one. -/
theorem forall₂_claim (targets : List UUID) :
    List.Forall₂ (fun old new =>
      old ∈ db.jobs.filter (·.id ∈ targets) ∧ old.ClaimedAs now workerId leaseSeconds new ∨
        old ∉ db.jobs.filter (·.id ∈ targets) ∧ new = old)
      db.jobs (update (·.id ∈ targets) (Job.claim now workerId leaseSeconds) db.jobs) := by
  rw [update, List.forall₂_map_right_iff, List.forall₂_same]
  intro job member
  simp only [List.mem_filter, decide_eq_true_eq, member, true_and]
  split
  next target => exact .inl ⟨target, rfl⟩
  next spared => exact .inr ⟨spared, rfl⟩

/-- The rows that `RETURNING` lists. -/
theorem mem_returned (targets : List UUID) :
    job ∈ arrange (emit ·.id)
        ((db.jobs.filter (·.id ∈ targets)).map (Job.claim now workerId leaseSeconds)) ↔
      job ∈ update (·.id ∈ targets) (Job.claim now workerId leaseSeconds) db.jobs ∧
        ∃ old ∈ db.jobs.filter (·.id ∈ targets), old.id = job.id := by
  rw [(arrange_perm _ _).mem_iff, List.mem_map]
  constructor
  · rintro ⟨old, taken, rfl⟩
    have selected := List.mem_filter.mp taken
    exact ⟨mem_update_of_selects selected.1 (of_decide_eq_true selected.2), old, taken, rfl⟩
  · rintro ⟨updated, old, taken, same⟩
    have target := of_decide_eq_true (List.mem_filter.mp taken).2
    rcases cases_mem_update updated with ⟨_, spared⟩ | ⟨row, member, target', rfl⟩
    · exact absurd (same ▸ target) spared
    · exact ⟨row, List.mem_filter.mpr ⟨member, decide_eq_true target'⟩, rfl⟩

/-- **`ClaimJobs` takes the right jobs.** In a database with unique identifiers and for a
registered worker, a call on an unknown queue fails with `ErrNotFound`, and a call on any other
queue takes as many due jobs as the limit leaves room for, the highest priorities and earliest run
times first, and touches nothing else. -/
theorem claimJobs_selects (db : Database) (jobIds : (db.jobs.map (·.id)).Nodup)
    (queueIds : (db.queues.map (·.id)).Nodup) (workerId : UUID)
    (registered : ∃ w ∈ db.workers, w.id = workerId) (now : Timestamptz)
    (tie emit : UUID → Nat) (queueId : UUID) (leaseSeconds : Int) :
    ((¬ ∃ queue ∈ db.queues, queue.id = queueId) →
      db.claimJobs now tie emit workerId queueId leaseSeconds = .error .notFound) ∧
    ∀ queue ∈ db.queues, queue.id = queueId → ∃ chosen db' returned,
      db.claimJobs now tie emit workerId queueId leaseSeconds = .ok (db', returned) ∧
        db.ClaimsRight queue now workerId leaseSeconds chosen db' returned := by
  constructor
  · intro unknown
    have absent : db.queues.find? (·.id = queueId) = none := by
      refine List.find?_eq_none.mpr fun queue member same => ?_
      exact unknown ⟨queue, member, of_decide_eq_true same⟩
    simp only [claimJobs, absent]
  · rintro queue member rfl
    refine ⟨db.claimedRows now tie queue.id (db.claimBudget queue), _, _,
      claimJobs_eq queueIds member registered rfl, ?_⟩
    constructor
    case rows => exact List.filter_sublist
    case eligible =>
      intro job taken
      exact (mem_claimable.mp (List.mem_of_mem_take ((mem_claimedRows jobIds).mp taken))).2
    case number =>
      rw [length_claimedRows jobIds, claimBudget]
      omega
    case best =>
      intro job taken other present due left
      exact notOutranked_of_left jobIds taken present due left
    case written => exact forall₂_claim _
    case others => rfl
    case once =>
      rw [((arrange_perm _ _).map _).nodup_iff, List.map_map]
      exact nodup_map_filter jobIds _
    case listed => exact fun job => mem_returned _

/-- A job of queue 3 that runs at the epoch. -/
def datedJob (id : UUID) (priority : Int) : Job :=
  Job.inserted 0 id ⟨3, priority, .null, none, some 0, .queued, 3, none, none⟩

/-- A queue with room for two jobs, one of them taken, and two due jobs. -/
def oneTaken : Database :=
  { Database.migrated [] with
    queues := [⟨3, 2, "mail", "mail", none, 0, some 2, false, 0, 0⟩]
    workers := [⟨5, "worker", .active, 0, 0⟩]
    jobs := [(datedJob 6 0).claim 0 5 30, datedJob 7 0, datedJob 8 1] }

theorem claimJobs_selects_oneTaken :
    ∃ chosen db' returned, oneTaken.claimJobs 1 id id 5 3 30 = .ok (db', returned) ∧
      oneTaken.ClaimsRight ⟨3, 2, "mail", "mail", none, 0, some 2, false, 0, 0⟩ 1 5 30 chosen db'
        returned :=
  (claimJobs_selects oneTaken (by decide) (by decide) 5 (by decide) 1 id id 3 30).2 _
    (List.mem_singleton.mpr rfl) rfl

end Database

end JobScheduler
