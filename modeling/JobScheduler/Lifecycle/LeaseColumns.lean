import JobScheduler.System.WellFormed

/-!
# The lease columns

Eleven statements write the status and the columns `worker_id`, `claimed_at`,
`lease_expires_at` and `next_run_at` of a job, each only some of them, and the schema
constrains none. Most are addressed by job id alone, so an execution that has lost its claim
rewrites rows in any status.

Still the columns agree with the statuses in which a job waits for a worker. A statement that
sets `queued` clears the three lease columns, the only one that sets `claimed` fills them, and
no statement clears `next_run_at`. The statements that set neither status leave a row in one
for which nothing is asked.
-/

set_option autoImplicit false

namespace JobScheduler

open Relational Transition

/-- The status of a job that no worker has. -/
def JobStatus.Waits (status : JobStatus) : Prop :=
  status = .queued ∨ status = .scheduled

/-- No worker, no claim and no lease, and an instant from which the job is due. -/
structure Job.Unleased (row : Job) : Prop where
  workerId : row.workerId = none
  claimedAt : row.claimedAt = none
  leaseExpiresAt : row.leaseExpiresAt = none
  nextRunAt : row.nextRunAt ≠ none

/-- A worker, the time of the claim and a lease. -/
structure Job.Leased (row : Job) : Prop where
  workerId : row.workerId ≠ none
  claimedAt : row.claimedAt ≠ none
  leaseExpiresAt : row.leaseExpiresAt ≠ none

/-- The lease columns agree with the status. -/
structure Job.ColumnsAgree (row : Job) : Prop where
  waits : row.status.Waits → row.Unleased
  claimed : row.status = .claimed → row.Leased

/-- The invariant of a row: the columns agree with the status, and the job is dated in every
status. -/
structure Job.Columns (row : Job) : Prop where
  agree : row.ColumnsAgree
  dated : row.nextRunAt ≠ none

namespace Job

variable {row : Job}

/-- A row that is neither waiting nor claimed need only be dated. -/
theorem Columns.of_busy (status : JobStatus)
    (busy : status ≠ .queued ∧ status ≠ .scheduled ∧ status ≠ .claimed)
    (now : row.status = status) (dated : row.nextRunAt ≠ none) : row.Columns := by
  refine ⟨⟨?_, ?_⟩, dated⟩
  · rintro (queued | scheduled)
    · exact absurd (now.symm.trans queued) busy.1
    · exact absurd (now.symm.trans scheduled) busy.2.1
  · intro claimed
    exact absurd (now.symm.trans claimed) busy.2.2

/-- A row that waits with its lease columns cleared. -/
theorem Columns.of_unleased (unleased : row.Unleased) (claimed : row.status ≠ .claimed) :
    row.Columns :=
  ⟨⟨fun _ => unleased, fun status => absurd status claimed⟩, unleased.nextRunAt⟩

theorem columns_inserted {now : Timestamptz} {id : UUID} {input : CreateJobInput}
    (api : input.FromApi) : (Job.inserted now id input).Columns := by
  obtain ⟨instant, due⟩ := api.due
  have dated : (Job.inserted now id input).nextRunAt ≠ none := by
    simp [Job.inserted, due]
  refine .of_unleased ⟨rfl, rfl, rfl, dated⟩ ?_
  rcases api.waiting with queued | scheduled
  · simp [Job.inserted, queued]
  · simp [Job.inserted, scheduled]

/-- The claim fills the three columns. -/
theorem Columns.claim (columns : row.Columns) (now : Timestamptz) (workerId : UUID)
    (leaseSeconds : Int) : (row.claim now workerId leaseSeconds).Columns := by
  refine ⟨⟨?_, fun _ => ⟨by simp [Job.claim], by simp [Job.claim], by simp [Job.claim]⟩⟩,
    columns.dated⟩
  rintro (status | status) <;> cases status

/-- A renewal sets a lease on a row that is claimed or running. -/
theorem Columns.renewLease (columns : row.Columns) {workerId : UUID}
    (renews : row.RenewedBy workerId) (now : Timestamptz) (leaseSeconds : Int) :
    (row.renewLease now leaseSeconds).Columns := by
  refine ⟨⟨?_, ?_⟩, columns.dated⟩
  · intro waits
    rcases renews.2 with claimed | running <;> rcases waits with status | status <;>
      simp_all [Job.renewLease]
  · intro claimed
    have leased := columns.agree.claimed claimed
    exact ⟨leased.workerId, leased.claimedAt, by simp [Job.renewLease]⟩

/-- What an execution writes, in whatever status it finds the row. -/
theorem Columns.rewrite (columns : row.Columns) {now : Timestamptz} {job : Job} {pc : Pc}
    {rewrite : Job → Job} (writes : pc.rewrite now job = some rewrite) :
    (rewrite row).Columns := by
  cases pc with
  | requeueForRetry nextRunAt =>
      cases writes
      exact .of_unleased ⟨rfl, rfl, rfl, by simp [Job.requeueForRetry]⟩
        (by simp [Job.requeueForRetry])
  | setRunning =>
      cases writes
      exact .of_busy .running (by decide) rfl columns.dated
  | completeIdempotent | complete =>
      cases writes
      exact .of_busy .completed (by decide) rfl columns.dated
  | failJob =>
      cases writes
      exact .of_busy .failed (by decide) rfl columns.dated
  | moveToDLQ =>
      cases writes
      exact .of_busy .deadLetter (by decide) rfl columns.dated
  | _ => cases writes

end Job

namespace World

variable {cron : CronParser} {w w' : World} {a : Action}

/-- **Every treatment of a row keeps its columns in agreement.** -/
theorem RowStep.columns {row row' : Job} (change : RowStep w a row row')
    (columns : row.Columns) : row'.Columns := by
  cases change with
  | kept => exact columns
  | claimed => exact columns.claim _ _ _
  | written _ _ writes _ => exact columns.rewrite writes
  | renewed _ _ renews => exact columns.renewLease renews _ _
  | released =>
      -- `ReleaseJobs` does not write `next_run_at`: the row is dated because every row is
      exact .of_unleased ⟨rfl, rfl, rfl, columns.dated⟩ (by simp [Job.release])
  | reclaimed =>
      exact .of_unleased ⟨rfl, rfl, rfl, by simp [Job.requeueOrphaned]⟩
        (by simp [Job.requeueOrphaned])
  | retried =>
      exact .of_unleased ⟨rfl, rfl, rfl, by simp [Job.retryDLQ]⟩ (by simp [Job.retryDLQ])

theorem NewRow.columns {row : Job} (new : NewRow w a row) : row.Columns := by
  obtain ⟨_, _, _, _, ⟨⟨input, api, made⟩, _⟩⟩ := new
  rw [made]
  exact Job.columns_inserted api

/-- The structural invariant, with the lease columns of every row. -/
structure Columned (w : World) : Prop where
  wellFormed : WellFormed w
  columns : ∀ row ∈ w.db.jobs, row.Columns

theorem columned_start (now : Timestamptz) (policies : List RetryPolicy) :
    Columned (World.start now policies) where
  wellFormed := wellFormed_start now policies
  columns _ member := by cases member

theorem columned_step (moves : Moves cron w a w') (inv : Columned w) : Columned w' where
  wellFormed := wellFormed_step moves inv.wellFormed
  columns row' member' := by
    rcases step_rows moves inv.wellFormed.ids member' with ⟨row, member, change⟩ | new
    · exact change.columns (inv.columns row member)
    · exact new.columns

end World

theorem columned_throughout {cron : CronParser} {trace : List (World × Action)} {w : World}
    (run : Run (scheduler cron) trace w) : Throughout World.Columned trace w := by
  have anyway : Meets (fun _ _ => True) trace := fun _ _ => trivial
  refine run.throughout anyway ?_ ?_
  · rintro s ⟨now, policies, rfl⟩
    exact World.columned_start now policies
  · intro s a s' taken _ inv
    exact World.columned_step (World.step_moves taken) inv

/-- **The lease columns agree with the status** of every job in every state of every run. -/
theorem columns_agree (cron : CronParser) (trace : List (World × Action)) (w : World)
    (run : Run (scheduler cron) trace w) :
    Throughout (fun s => ∀ row ∈ s.db.jobs, row.ColumnsAgree) trace w := by
  have all := columned_throughout run
  exact ⟨fun entry member row found => ((all.1 entry member).columns row found).agree,
    fun row found => (all.2.columns row found).agree⟩

/-- A sweep takes the claim of worker `5` back before `SetJobRunning`. Worker `6` claims the
job, worker `5` goes on, fails and requeues it under worker `6`. -/
def requeuedByFormerOwner : List Action :=
  Scenario.deployed ++ Scenario.take 5 ++
    ([.tick 31000000, .sweep, .register 6 Scenario.config] : List Action) ++ Scenario.take 6 ++
    ([.exec 0 (.call true 0), .exec 0 (.call true 0), .exec 0 .starts,
      .exec 0 (.returns (some "timeout")), .exec 0 (.call true 0), .exec 0 (.call true 0),
      .exec 0 (.call true 0), .exec 0 (.call true 0)] : List Action)

theorem columns_agree_requeuedByFormerOwner :
    ∃ trace w, Run (scheduler Scenario.cron) trace w ∧
      (∃ row ∈ w.db.jobs, row.status = .queued ∧ row.attempts = 1) ∧
      Throughout (fun s => ∀ row ∈ s.db.jobs, row.ColumnsAgree) trace w := by
  obtain ⟨trace, w, run, requeued⟩ :=
    exists_run_of_execute (scheduler Scenario.cron) requeuedByFormerOwner (World.start 0 [])
      (fun _ w => ∃ row ∈ w.db.jobs, row.status = .queued ∧ row.attempts = 1)
      ⟨0, [], rfl⟩ (by decide)
  exact ⟨trace, w, run, requeued, columns_agree _ trace w run⟩

end JobScheduler
