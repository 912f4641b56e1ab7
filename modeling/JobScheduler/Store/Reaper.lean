import JobScheduler.Store.Worker

/-!
# The reaper store

`RequeueOrphanedJobs` and `MarkDeadWorkers` (`internal/store/reaper_store.go`), the two
statements of a reaper sweep.
-/

set_option autoImplicit false

namespace JobScheduler

open Relational

namespace Job

/-- The rows a sweep reclaims: claimed or running, with a lease that has passed. A `NULL`
lease never compares as passed. -/
def Orphaned (now : Timestamptz) (job : Job) : Prop :=
  job.status.Active ∧ ∃ lease ∈ job.leaseExpiresAt, lease < now

instance (now : Timestamptz) : DecidablePred (Orphaned now) :=
  fun job => inferInstanceAs (Decidable (_ ∧ ∃ lease ∈ job.leaseExpiresAt, lease < now))

/-- The `SET` list of `RequeueOrphanedJobs`. -/
def requeueOrphaned (now : Timestamptz) (job : Job) : Job :=
  { job with
    status := .queued
    workerId := none
    claimedAt := none
    leaseExpiresAt := none
    nextRunAt := some now
    updatedAt := now }

end Job

namespace Database

variable (db : Database)

/-- `RequeueOrphanedJobs`, with the identifiers it returns. -/
def requeueOrphanedJobs (now : Timestamptz) : Database × List UUID :=
  ({ db with jobs := update (Job.Orphaned now) (Job.requeueOrphaned now) db.jobs },
    (db.jobs.filter (Job.Orphaned now)).map (·.id))

/-- `MarkDeadWorkers`; the threshold is a `time.Duration`, in nanoseconds. -/
def markDeadWorkers (now : Timestamptz) (staleThreshold : Int) : Database :=
  { db with
    workers := update
      (fun w => w.status = .active ∧ ∃ beat ∈ db.workerHeartbeats, beat.workerId = w.id ∧
        beat.lastSeenAt < now - staleThreshold / 1000)
      (fun w => { w with status := .offline, updatedAt := now }) db.workers }

end Database

end JobScheduler
