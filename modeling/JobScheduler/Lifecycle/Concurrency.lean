import JobScheduler.System.Queues
import JobScheduler.Lifecycle.Ownership

/-!
# The concurrency limit over whole runs

Jobs with status `claimed` or `running` occupy a slot of their queue. `SetJobRunning` has
no guard, but in a timely run it acts on a row that is already claimed, so it takes no new
slot. Every other write of an execution, every release, reclaim and retry gives a slot back
or leaves the count alone. The count of a queue grows by a `ClaimJobs` on that queue only,
and the budget keeps it within the limit.
-/

set_option autoImplicit false

namespace JobScheduler

open Relational Transition

/-- `COALESCE(concurrency_limit, 2147483647)`. -/
def Queue.limit (queue : Queue) : Int := queue.concurrencyLimit.getD 2147483647

/-! ## What a claim adds -/

namespace Database

variable {db db' : Database} {now : Timestamptz} {tie emit : UUID → Nat}
  {workerId queueId : UUID} {leaseSeconds : Int} {jobs : List Job}

/-- The database with the target rows claimed. -/
def claimed (db : Database) (now : Timestamptz) (workerId : UUID) (leaseSeconds : Int)
    (targets : List UUID) : Database :=
  { db with jobs := update (·.id ∈ targets) (Job.claim now workerId leaseSeconds) db.jobs }

/-- Claiming from one queue adds no active job to another. -/
theorem activeCount_claimed_other {targets : List UUID} {other : UUID}
    (ids : (db.jobs.map (·.id)).Nodup)
    (claimable : ∀ id ∈ targets, ∃ job ∈ db.jobs, job.id = id ∧ job.Claimable queueId now)
    (different : other ≠ queueId) :
    (db.claimed now workerId leaseSeconds targets).activeCount other ≤ db.activeCount other := by
  have unique : ((db.claimed now workerId leaseSeconds targets).jobs.map (·.id)).Nodup :=
    nodup_map_update (fun _ => rfl) ids
  refine countP_le_of_key unique _ ?_
  intro row' member holds
  rw [decide_eq_true_eq] at holds
  rcases cases_mem_update member with ⟨old, _⟩ | ⟨row, rowMember, target, rfl⟩
  · exact ⟨row', old, decide_eq_true holds, rfl⟩
  · obtain ⟨job, jobMember, same, inQueue, _⟩ := claimable row.id target
    have eq := eq_of_key_eq ids jobMember rowMember same
    subst eq
    exact absurd (holds.1.symm.trans inQueue) different

/-- The budget is spent on at most as many rows as it has slots. -/
theorem activeCount_claimed_le (ids : (db.jobs.map (·.id)).Nodup) (queue : Queue)
    (positive : 0 < db.claimBudget queue) :
    ((db.claimed now workerId leaseSeconds
      (db.claimTargets now tie queueId (db.claimBudget queue))).activeCount queue.id : Int) ≤
        queue.limit := by
  have added : (db.claimed now workerId leaseSeconds
      (db.claimTargets now tie queueId (db.claimBudget queue))).activeCount queue.id ≤
      db.activeCount queue.id + db.jobs.countP fun job =>
        job.id ∈ db.claimTargets now tie queueId (db.claimBudget queue) := countP_update_le _
  have few := countP_key_mem_le ids (db.claimTargets now tie queueId (db.claimBudget queue))
  have short := db.length_claimTargets_le now tie queueId (db.claimBudget queue)
  have budget : db.claimBudget queue = max (queue.limit - db.activeCount queue.id) 0 := rfl
  omega

/-- **What `ClaimJobs` does to the active counts.** -/
theorem claimJobs_activeCount (ids : (db.jobs.map (·.id)).Nodup)
    (claims : db.claimJobs now tie emit workerId queueId leaseSeconds = .ok (db', jobs)) :
    (∀ other, other ≠ queueId → db'.activeCount other ≤ db.activeCount other) ∧
      ∃ queue ∈ db'.queues, queue.id = queueId ∧
        (db'.activeCount queueId ≤ db.activeCount queueId ∨
          (db'.activeCount queueId : Int) ≤ queue.limit) := by
  unfold claimJobs at claims
  split at claims
  · cases claims
  next queue found =>
    have listed := List.mem_of_find?_eq_some found
    have target := List.find?_some found
    rw [decide_eq_true_eq] at target
    dsimp only at claims
    split at claims
    · cases claims
      exact ⟨fun _ _ => le_rfl, queue, listed, target, .inl le_rfl⟩
    next positive =>
      split at claims
      · cases claims
      · cases claims
        refine ⟨?_, queue, listed, target, .inr ?_⟩
        · intro other different
          exact activeCount_claimed_other ids (fun id member => db.mem_claimTargets member) different
        · subst target
          exact activeCount_claimed_le ids queue (by omega)

end Database

/-! ## What every other step does -/

namespace World

variable {cron : CronParser} {w w' : World} {a : Action}

/-- A row that is active after a step was active before or is being claimed. -/
theorem RowStep.active_before (inv : Undisturbed w) {row row' : Job} (member : row ∈ w.db.jobs)
    (change : RowStep w a row row') (active : row'.status.Active) :
    row.status.Active ∨ ∃ worker tie emit, a = .claim worker tie emit true := by
  cases change with
  | kept => exact .inl active
  | @claimed worker tie emit => exact .inr ⟨worker, tie, emit, rfl⟩
  | written taken live writes own =>
      -- the only write of an active status is SetJobRunning, on a row its task has claimed
      obtain ⟨running, _⟩ := Pc.setRunning_of_rewrite writes active
      have fits := (inv.writer_possesses taken live writes member own).fits
      rw [running] at fits
      exact .inl (.inl fits.1)
  | renewed => exact .inl active
  | released => simp [Job.release, JobStatus.Active] at active
  | reclaimed => simp [Job.requeueOrphaned, JobStatus.Active] at active
  | retried => simp [Job.retryDLQ, JobStatus.Active] at active

/-- No step but a claim adds an active job. -/
theorem activeCount_le (moves : Moves cron w a w') (inv : Undisturbed w)
    (noClaim : ∀ worker tie emit, a ≠ .claim worker tie emit true) (queueId : UUID) :
    w'.db.activeCount queueId ≤ w.db.activeCount queueId := by
  have wf := inv.exclusive.wellFormed
  refine countP_le_of_key (step_ids moves wf) _ ?_
  intro row' member holds
  rw [decide_eq_true_eq] at holds
  rcases step_rows moves wf.ids member with ⟨row, rowMember, change⟩ | new
  · rcases change.active_before inv rowMember holds.2 with active | ⟨worker, tie, emit, claims⟩
    · have inQueue := (Job.queueId_eq_of_fixed change.fixed).symm.trans holds.1
      exact ⟨row, rowMember, decide_eq_true ⟨inQueue, active⟩, change.id.symm⟩
    · exact absurd claims (noClaim worker tie emit)
  · -- inserted rows wait
    have waiting := new.waiting
    rcases holds.2 with claimed | running
    · exact absurd claimed (waiting.status_ne (by decide))
    · exact absurd running (waiting.status_ne (by decide))

/-- The step is a `ClaimJobs` on the queue. -/
def ClaimsFrom (w : World) (queueId : UUID) (a : Action) : Prop :=
  ∃ worker tie emit engine queues, a = .claim worker tie emit true ∧
    w.engines worker = some engine ∧ engine.phase = .claiming (queueId :: queues)

/-- The active jobs of the queue are within its limit. -/
def WithinLimit (queueId : UUID) (w : World) : Prop :=
  ∀ queue ∈ w.db.queues, queue.id = queueId → (w.db.activeCount queueId : Int) ≤ queue.limit

/-- Where the active jobs of a queue become more, the step is a `ClaimJobs` on that queue
and leaves them within the queue's limit. -/
def GrowsByClaims (w : World) (a : Action) (w' : World) : Prop :=
  ∀ queueId, w.db.activeCount queueId < w'.db.activeCount queueId →
    w.ClaimsFrom queueId a ∧ w'.db.HasQueue queueId ∧ w'.WithinLimit queueId

/-- The limit is non-negative after the step and was not lowered by it. -/
def KeepsLimit (queueId : UUID) (w w' : World) : Prop :=
  ∀ queue' ∈ w'.db.queues, queue'.id = queueId → 0 ≤ queue'.limit ∧
    ∀ queue ∈ w.db.queues, queue.id = queueId → queue.limit ≤ queue'.limit

/-- The holders are undisturbed and the queues have distinct identifiers. -/
structure Steady (w : World) : Prop where
  undisturbed : Undisturbed w
  queueIds : (w.db.queues.map (·.id)).Nodup

theorem steady_step (moves : Moves cron w a w') (timely : Timely w a) (inv : Steady w) :
    Steady w' where
  undisturbed := undisturbed_step moves timely inv.undisturbed
  queueIds := step_queueIds moves inv.undisturbed.exclusive.referential inv.queueIds

/-- **Growth is by claims.** -/
theorem growsByClaims (moves : Moves cron w a w') (inv : Steady w) : GrowsByClaims w a w' := by
  intro queueId grows
  have stays : (∀ worker tie emit, a ≠ .claim worker tie emit true) → False := by
    intro noClaim
    have fewer := activeCount_le moves inv.undisturbed noClaim queueId
    omega
  cases moves with
  | claim worker tie emit engine claimed queues db jobs found running phase claims =>
      have ids := inv.undisturbed.exclusive.wellFormed.ids
      obtain ⟨others, queue, listed, target, count⟩ := Database.claimJobs_activeCount ids claims
      have here : queueId = claimed := by
        by_contra different
        have fewer := others queueId different
        replace grows : w.db.activeCount queueId < db.activeCount queueId := grows
        omega
      subst here
      refine ⟨⟨worker, tie, emit, engine, queues, rfl, found, phase⟩, ⟨queue, listed, target⟩, ?_⟩
      intro other otherListed same
      obtain ⟨targets, _, rfl, _⟩ := w.db.claimJobs_spec claims
      have eq := eq_of_key_eq inv.queueIds listed otherListed (target.trans same.symm)
      subst eq
      rcases count with fewer | within
      · exact absurd grows (Nat.not_lt.mpr fewer)
      · exact within
  | claimFailed => exact absurd grows (Nat.lt_irrefl _)
  | _ => exact (stays (by simp)).elim

/-- A queue that is missing has no jobs. -/
theorem activeCount_eq_zero (inv : Referential w) {queueId : UUID}
    (missing : ¬ w.db.HasQueue queueId) : w.db.activeCount queueId = 0 := by
  unfold Database.activeCount
  rw [List.countP_eq_zero]
  intro row member holds
  rw [decide_eq_true_eq] at holds
  apply missing
  rw [← holds.1]
  exact inv.placed row member

/-- A step that keeps the limit keeps the active jobs within it. -/
theorem withinLimit_step (moves : Moves cron w a w') (inv : Steady w) {queueId : UUID}
    (keeps : KeepsLimit queueId w w') (within : w.WithinLimit queueId) :
    w'.WithinLimit queueId := by
  by_cases grows : w.db.activeCount queueId < w'.db.activeCount queueId
  · exact (growsByClaims moves inv queueId grows).2.2
  · intro queue' listed' same'
    obtain ⟨nonneg, raised⟩ := keeps queue' listed' same'
    by_cases present : w.db.HasQueue queueId
    · obtain ⟨queue, listed, same⟩ := present
      have before := within queue listed same
      have higher := raised queue listed same
      omega
    · -- the queue is being created
      have empty := activeCount_eq_zero inv.undisturbed.exclusive.referential present
      omega

end World

/-! ## Runs -/

theorem steady_throughout {cron : CronParser} {trace : List (World × Action)} {w : World}
    (run : Run (scheduler cron) trace w) (timely : Meets Timely trace) :
    Throughout World.Steady trace w := by
  refine run.throughout timely ?_ ?_
  · rintro s ⟨now, policies, rfl⟩
    exact ⟨World.undisturbed_start now policies, List.nodup_nil⟩
  · intro s a s' taken timely inv
    exact World.steady_step (World.step_moves taken) timely inv

/-- **The concurrency bound.** In a timely run the active jobs of a queue become more only
by a `ClaimJobs` on it that leaves them within the limit. From any state on in which the
limit is not exceeded, as long as the limit is non-negative and not lowered, it is never
exceeded. -/
theorem concurrency_bounded (cron : CronParser) (earlier later : List (World × Action))
    (s w : World) (run : Run (scheduler cron) earlier s)
    (path : Path (scheduler cron) s later w) (timely : Meets Timely (later ++ earlier)) :
    (∀ entry ∈ later ++ earlier, ∀ w', entry.1.step cron entry.2 = some w' →
      entry.1.GrowsByClaims entry.2 w') ∧
    ∀ queueId, s.WithinLimit queueId →
      Meets (fun before a => ∀ after, before.step cron a = some after →
        World.KeepsLimit queueId before after) later →
      Throughout (World.WithinLimit queueId) later w := by
  have steady := steady_throughout (path.run run) timely
  constructor
  · intro entry member w' taken
    exact World.growsByClaims (World.step_moves taken) (steady.1 entry member)
  · intro queueId within keeps
    have first : s.Steady := by
      have early : Meets Timely earlier :=
        fun entry member => timely entry (List.mem_append_right _ member)
      exact (steady_throughout run early).2
    have late : Meets Timely later :=
      fun entry member => timely entry (List.mem_append_left _ member)
    have all : Throughout (fun x : World => x.Steady ∧ x.WithinLimit queueId) later w := by
      refine path.throughout (late.and keeps) ⟨first, within⟩ ?_
      intro x a x' taken condition inv
      have moves := World.step_moves taken
      exact ⟨World.steady_step moves condition.1 inv.1,
        World.withinLimit_step moves inv.1 (condition.2 x' taken) inv.2⟩
    exact ⟨fun entry member => (all.1 entry member).2, all.2.2⟩

instance (queueId : UUID) (w w' : World) : Decidable (World.KeepsLimit queueId w w') :=
  inferInstanceAs (Decidable (∀ queue' ∈ w'.db.queues, _ → _ ∧ ∀ queue ∈ w.db.queues, _ → _))

/-- The one job of a queue is claimed and dispatched. -/
theorem concurrency_bounded_deployed :
    ∃ trace w, Run (scheduler Scenario.cron) trace w ∧
      (∃ entry ∈ trace, ∃ w', entry.1.step Scenario.cron entry.2 = some w' ∧
        entry.1.GrowsByClaims entry.2 w' ∧ entry.1.db.activeCount 3 < w'.db.activeCount 3) ∧
      Throughout (World.WithinLimit 3) trace w := by
  obtain ⟨trace, w, run, ⟨entry, member, w', taken, grows⟩, keeps, idle⟩ :=
    exists_run_of_execute (scheduler Scenario.cron)
      (Scenario.deployed ++ Scenario.take 5 ++ ([.exec 0 (.call true 0)] : List Action))
      (World.start 0 [])
      (fun trace _ => (∃ entry ∈ trace, ∃ w' ∈ entry.1.step Scenario.cron entry.2,
          entry.1.db.activeCount 3 < w'.db.activeCount 3) ∧
        (∀ entry ∈ trace, ∀ w' ∈ entry.1.step Scenario.cron entry.2,
          World.KeepsLimit 3 entry.1 w') ∧
        ∀ entry ∈ trace, entry.2.isSweep → ∀ row ∈ entry.1.db.jobs, ¬ row.Orphaned entry.1.now)
      ⟨0, [], rfl⟩ (by decide)
  obtain ⟨s, first, path⟩ := Run.split (scheduler Scenario.cron)
    (show Run _ (trace ++ []) w by rwa [List.append_nil])
  have timely : Meets Timely (trace ++ []) := by
    rw [List.append_nil]
    exact timely_of_idle_sweeps idle
  have bounded := concurrency_bounded Scenario.cron [] trace s w first path timely
  rw [List.append_nil] at bounded
  refine ⟨trace, w, run, ⟨entry, member, w', taken, bounded.1 entry member w' taken, grows⟩, ?_⟩
  refine bounded.2 3 ?_ (fun entry member w' taken => keeps entry member w' taken)
  cases first with
  | start initial =>
      obtain ⟨now, policies, rfl⟩ := initial
      intro queue listed
      cases listed

end JobScheduler
