import JobScheduler.Store.Worker
import JobScheduler.Store.Reaper
import JobScheduler.ReadCommitted.Versions
import JobScheduler.Transition.Run

/-!
# The store calls statement by statement

The calls that write jobs, taken apart into the statements of their transactions under READ
COMMITTED: `ClaimJobs`, `ReleaseJobs`, `RequeueOrphanedJobs`, `RequeueForRetry`,
`RetryDLQJob`, `SetJobRunning`, `CompleteJob`, `FailJob`, `MoveToDLQ` and the lease renewal of
`Heartbeat`. Any number of transactions interleave at statements and, within a statement, at
rows.

Each statement selects its rows in the snapshot it starts with and then takes them one by
one in their newest version (`ReadCommitted.Versions.handle`). The budget `SELECT` of
`ClaimJobs` counts in its snapshot and then waits for the queue's row. The check of
`RetryDLQJob` is a plain `SELECT`: it locks nothing. A transaction may be rolled back at any
point, by an error or by a lost connection.
-/

set_option autoImplicit false

namespace JobScheduler

open Relational Transition ReadCommitted

/-- A row of `dead_letter_queue` with its primary key. -/
structure Letter where
  id : UUID
  entry : DeadLetterEntry

/-- The store calls that write jobs. The identifier a `MoveToDLQ` draws for its dead letter
is one of its arguments. -/
inductive StoreCall where
  | claimJobs (workerId queueId : UUID) (leaseSeconds : Int)
  | releaseJobs (workerId : UUID)
  | requeueOrphanedJobs
  | requeueForRetry (jobId : UUID) (nextRunAt : Time) (attempts : Int)
  | retryDLQJob (id orgId : UUID)
  | setJobRunning (jobId : UUID)
  | completeJob (jobId : UUID)
  | failJob (jobId : UUID) (errMsg : String) (attempts : Int)
  | moveToDLQ (jobId : UUID) (reason : String) (attempts : Int) (letterId : UUID)
  | heartbeat (workerId : UUID) (leaseSeconds : Int)

namespace StoreCall

/-- The calls of `ClaimJobs`. -/
def isClaim : StoreCall → Bool
  | .claimJobs .. => true
  | _ => false

/-- The `WHERE` clause of the call's `UPDATE jobs`, and its `SKIP LOCKED`. -/
def takes (now : Timestamptz) : StoreCall → Statement Job
  | .claimJobs _ queueId _ => ⟨fun job => job.Claimable queueId now, true⟩
  | .releaseJobs workerId => ⟨fun job => job.ReleasedBy workerId, false⟩
  | .requeueOrphanedJobs => ⟨fun job => job.Orphaned now, false⟩
  | .requeueForRetry jobId _ _ => ⟨fun job => job.id = jobId, false⟩
  | .retryDLQJob id _ => ⟨fun job => job.id = id, false⟩
  | .setJobRunning jobId => ⟨fun job => job.id = jobId, false⟩
  | .completeJob jobId => ⟨fun job => job.id = jobId, false⟩
  | .failJob jobId _ _ => ⟨fun job => job.id = jobId, false⟩
  | .moveToDLQ jobId _ _ _ => ⟨fun job => job.id = jobId, false⟩
  | .heartbeat workerId _ => ⟨fun job => job.RenewedBy workerId, false⟩

/-- The `SET` list of the call's `UPDATE jobs`. -/
def sets (now : Timestamptz) : StoreCall → Job → Job
  | .claimJobs workerId _ leaseSeconds => Job.claim now workerId leaseSeconds
  | .releaseJobs _ => Job.release now
  | .requeueOrphanedJobs => Job.requeueOrphaned now
  | .requeueForRetry _ nextRunAt attempts => Job.requeueForRetry now nextRunAt attempts
  | .retryDLQJob _ _ => Job.retryDLQ now
  | .setJobRunning _ => Job.setRunning now
  | .completeJob _ => Job.complete now
  | .failJob _ errMsg attempts => Job.fail now errMsg attempts
  | .moveToDLQ _ reason attempts _ => Job.deadLetter now reason attempts
  | .heartbeat _ leaseSeconds => Job.renewLease now leaseSeconds

/-- No `SET` list touches the primary key. -/
theorem sets_id (call : StoreCall) (now : Timestamptz) (job : Job) :
    (call.sets now job).id = job.id := by
  cases call <;> rfl

/-- The rows the `UPDATE` selects in its snapshot, in the order it takes them. -/
def scan (call : StoreCall) (now : Timestamptz) (rank : UUID → Nat) (rows : List Job) :
    List UUID :=
  let selected := rows.filter (call.takes now).selects
  match call with
  | .claimJobs .. => (selected.insertionSort (Job.ClaimOrder rank)).map (·.id)
  | _ => (arrange (fun job => rank job.id) selected).map (·.id)

end StoreCall

/-- Where a transaction is. -/
inductive SessionPoint where
  /-- Before its first statement. -/
  | begun
  /-- The budget `SELECT` has counted the active jobs and waits for the queue's row. -/
  | locking (active : Nat)
  /-- The budget is known. -/
  | budgeted (budget : Int)
  /-- The check of `RetryDLQJob` has found the job. -/
  | checked
  /-- The `DELETE` has these dead letters still to take. -/
  | deleting (letters : List UUID)
  | deleted
  /-- The `UPDATE` has these rows still to take, room for so many, and has rewritten some. -/
  | updating (keys : List UUID) (room : Option Nat) (returned : List Job)
  | updated (returned : List Job)
  /-- The `INSERT` of `MoveToDLQ` is done. -/
  | filed (returned : List Job)
  | committed (returned : List Job)
  /-- Rolled back, with the error of the call if it is the call's own. -/
  | failed (error : Option StoreError)

/-- Committed or rolled back. -/
def SessionPoint.ended : SessionPoint → Bool
  | .committed _ | .failed _ => true
  | _ => false

/-- A transaction: its call, its `NOW()`, and where it is. -/
structure Session where
  call : StoreCall
  now : Timestamptz
  point : SessionPoint

/-- The rows a transaction returns when it may commit. A `ClaimJobs` without a budget commits
empty, and a `RetryDLQJob` that rewrote no row is an error. -/
def Session.ready (session : Session) : Option (List Job) :=
  match session.point, session.call with
  | .budgeted budget, .claimJobs .. => if budget ≤ 0 then some [] else none
  | .updated _, .moveToDLQ .. => none
  | .updated [], .retryDLQJob .. => none
  | .updated returned, _ => some returned
  | .filed returned, .moveToDLQ .. => some returned
  | _, _ => none

/-- The tables and the transactions, in the order they began. -/
structure Sessions where
  jobs : Versions UUID Job
  letters : Versions UUID Letter
  queues : Versions UUID Queue
  projects : List Project
  txs : List Session

/-- The steps of the transactions. -/
inductive SessionAction where
  | begin (call : StoreCall) (now : Timestamptz)
  /-- The next statement starts; the server ranks what its order leaves open. -/
  | statement (tx : Nat) (rank : UUID → Nat)
  /-- The running statement takes its next row, or ends. -/
  | row (tx : Nat)
  | commit (tx : Nat)
  | rollback (tx : Nat)

/-- The transaction that commits. -/
def SessionAction.commits? : SessionAction → Option Nat
  | .commit tx => some tx
  | _ => none

/-- The transaction that takes the step. -/
def SessionAction.actor? : SessionAction → Option Nat
  | .begin .. => none
  | .statement tx _ | .row tx | .commit tx | .rollback tx => some tx

theorem SessionAction.eq_commit {a : SessionAction} {tx : Nat} (commits : a.commits? = some tx) :
    a = .commit tx := by
  cases a with
  | commit other =>
      cases commits
      rfl
  | _ => cases commits

namespace Sessions

variable (s : Sessions)

/-- Move a transaction. -/
def put (tx : Nat) (session : Session) (point : SessionPoint) : Sessions :=
  { s with txs := s.txs.set tx { session with point := point } }

/-- End a transaction without effect. -/
def abort (tx : Nat) (session : Session) (error : Option StoreError) : Sessions :=
  { s.put tx session (.failed error) with
    jobs := s.jobs.discard tx
    letters := s.letters.discard tx
    queues := s.queues.discard tx }

/-- End a transaction and publish its rows. -/
def finish (tx : Nat) (session : Session) (returned : List Job) : Sessions :=
  { s.put tx session (.committed returned) with
    jobs := s.jobs.publish Job.id tx
    letters := s.letters.publish Letter.id tx
    queues := s.queues.publish Queue.id tx }

/-- What the check of `RetryDLQJob` selects. -/
def Retriable (id orgId : UUID) (job : Job) : Prop :=
  job.id = id ∧ job.status = .deadLetter ∧ ∃ q ∈ s.queues.rows, q.id = job.queueId ∧
    ∃ p ∈ s.projects, p.id = q.projectId ∧ p.orgId = orgId

instance (id orgId : UUID) : DecidablePred (s.Retriable id orgId) :=
  fun _ => inferInstanceAs (Decidable (_ ∧ _ ∧ ∃ q ∈ s.queues.rows, _ ∧ ∃ p ∈ s.projects, _ ∧ _))

/-- The active jobs of a queue in the snapshot. -/
def activeJobs (queueId : UUID) : Nat :=
  s.jobs.rows.countP fun job => job.queueId = queueId ∧ job.status.Active

/-- Another transaction has an uncommitted dead letter of the job, or an uncommitted
deletion of one. -/
def LetterPending (tx : Nat) (jobId : UUID) : Prop :=
  ∃ draft ∈ s.letters.drafts, draft.tx ≠ tx ∧
    ((∃ letter ∈ draft.version, letter.entry.jobId = jobId) ∨
      ∃ letter ∈ s.letters.rows, letter.id = draft.key ∧ letter.entry.jobId = jobId)

instance (tx : Nat) (jobId : UUID) : Decidable (s.LetterPending tx jobId) :=
  inferInstanceAs (Decidable (∃ draft ∈ s.letters.drafts, _ ∧
    ((∃ letter ∈ draft.version, _) ∨ ∃ letter ∈ s.letters.rows, _ ∧ _)))

/-- The identifier is in use. -/
def LetterUsed (id : UUID) : Prop :=
  (∃ letter ∈ s.letters.rows, letter.id = id) ∨ ∃ draft ∈ s.letters.drafts, draft.key = id

instance (id : UUID) : Decidable (s.LetterUsed id) :=
  inferInstanceAs (Decidable (_ ∨ _))

/-- The `INSERT … SELECT` of `MoveToDLQ`: the unique index on `job_id` makes it wait for
another transaction's dead letter, and fail on a committed one. -/
def insertLetter (tx : Nat) (session : Session) (jobId : UUID) (reason : String)
    (attempts : Int) (letterId : UUID) (returned : List Job) : Option Sessions :=
  match (s.jobs.seenBy Job.id tx).find? (·.id = jobId) with
  | none => some (s.put tx session (.filed returned))
  | some job =>
      if s.LetterPending tx jobId ∨ s.LetterUsed letterId then none
      else if ∃ letter ∈ s.letters.seenBy Letter.id tx, letter.entry.jobId = jobId then
        some (s.abort tx session (some .uniqueViolation))
      else some { s.put tx session (.filed returned) with
        letters := s.letters.write tx letterId
          (some ⟨letterId, job.deadLetterEntry session.now reason attempts⟩) }

/-- The next statement of a transaction starts. -/
def statement (tx : Nat) (rank : UUID → Nat) : Option Sessions :=
  match s.txs[tx]? with
  | none => none
  | some session =>
      let keys := session.call.scan session.now rank (s.jobs.seenBy Job.id tx)
      match session.point, session.call with
      | .begun, .claimJobs _ queueId _ =>
          if ∃ q ∈ s.queues.rows, q.id = queueId then
            some (s.put tx session (.locking (s.activeJobs queueId)))
          else some (s.abort tx session (some .notFound))
      | .begun, .retryDLQJob id orgId =>
          if ∃ job ∈ s.jobs.rows, s.Retriable id orgId job then
            some (s.put tx session .checked)
          else some (s.abort tx session (some .notFound))
      | .begun, _ => some (s.put tx session (.updating keys none []))
      | .budgeted budget, .claimJobs .. =>
          if budget ≤ 0 then none
          else some (s.put tx session (.updating keys (some budget.toNat) []))
      | .checked, .retryDLQJob id _ =>
          some (s.put tx session (.deleting
            ((s.letters.rows.filter (·.entry.jobId = id)).map (·.id))))
      | .deleted, .retryDLQJob .. => some (s.put tx session (.updating keys none []))
      | .updated returned, .moveToDLQ jobId reason attempts letterId =>
          s.insertLetter tx session jobId reason attempts letterId returned
      | _, _ => none

/-- The running statement of a transaction takes its next row, or ends. -/
def row (tx : Nat) : Option Sessions :=
  match s.txs[tx]? with
  | none => none
  | some session =>
      match session.point, session.call with
      | .locking active, .claimJobs _ queueId _ =>
          match s.queues.handle Queue.id ⟨fun q => q.id = queueId, false⟩ tx queueId with
          | .waits => none
          | .passed => some (s.abort tx session (some .notFound))
          | .takes queue => some
              { s.put tx session
                  (.budgeted (max (queue.concurrencyLimit.getD 2147483647 - active) 0)) with
                queues := s.queues.write tx queueId (some queue) }
      | .deleting [], _ => some (s.put tx session .deleted)
      | .deleting (letterId :: rest), .retryDLQJob id _ =>
          match s.letters.handle Letter.id ⟨fun l => l.entry.jobId = id, false⟩ tx letterId with
          | .waits => none
          | .passed => some (s.put tx session (.deleting rest))
          | .takes _ => some { s.put tx session (.deleting rest) with
              letters := s.letters.write tx letterId none }
      | .updating [] _ returned, _ => some (s.put tx session (.updated returned))
      | .updating _ (some 0) returned, _ => some (s.put tx session (.updated returned))
      | .updating (id :: rest) room returned, call =>
          match s.jobs.handle Job.id (call.takes session.now) tx id with
          | .waits => none
          | .passed => some (s.put tx session (.updating rest room returned))
          | .takes job =>
              let job' := call.sets session.now job
              some { s.put tx session
                  (.updating rest (room.map (· - 1)) (returned ++ [job'])) with
                jobs := s.jobs.write tx id (some job') }
      | _, _ => none

/-- One step of one transaction. -/
def step : SessionAction → Option Sessions
  | .begin call now => some { s with txs := s.txs ++ [⟨call, now, .begun⟩] }
  | .statement tx rank => s.statement tx rank
  | .row tx => s.row tx
  | .commit tx =>
      match s.txs[tx]? with
      | none => none
      | some session => session.ready.map fun returned => s.finish tx session returned
  | .rollback tx =>
      match s.txs[tx]? with
      | none => none
      | some session => if session.point.ended then none else some (s.abort tx session none)

end Sessions

/-- The transactions on a database without open ones. -/
def sessions : System Sessions SessionAction where
  initial s := (s.jobs.rows.map (·.id)).Nodup ∧ s.jobs.drafts = [] ∧ s.letters.drafts = [] ∧
    s.queues.drafts = [] ∧ s.txs = []
  step := Sessions.step

/-! ## What a step can do -/

/-- The rows the `UPDATE` of the transaction has rewritten so far. -/
def SessionPoint.rewritten : SessionPoint → List Job
  | .updating _ _ returned | .updated returned | .filed returned => returned
  | _ => []

namespace Sessions

/-- The moves of a transaction that leave the jobs alone. -/
inductive PointStep (s : Sessions) (tx : Nat) (session : Session) : SessionPoint → Prop where
  | counted {workerId queueId : UUID} {leaseSeconds : Int} {active : Nat}
      (before : session.point = .begun)
      (call : session.call = .claimJobs workerId queueId leaseSeconds) :
      PointStep s tx session (.locking active)
  | budgeted {workerId queueId : UUID} {leaseSeconds : Int} {active : Nat} {budget : Int}
      (before : session.point = .locking active)
      (call : session.call = .claimJobs workerId queueId leaseSeconds) :
      PointStep s tx session (.budgeted budget)
  | checked {id orgId : UUID} (before : session.point = .begun)
      (call : session.call = .retryDLQJob id orgId)
      (found : ∃ job ∈ s.jobs.rows, s.Retriable id orgId job) : PointStep s tx session .checked
  | deletes {id orgId : UUID} {letters : List UUID} (before : session.point = .checked)
      (call : session.call = .retryDLQJob id orgId) : PointStep s tx session (.deleting letters)
  | deletesNext {letter : UUID} {letters : List UUID}
      (before : session.point = .deleting (letter :: letters)) :
      PointStep s tx session (.deleting letters)
  | deleted (before : session.point = .deleting []) : PointStep s tx session .deleted
  | scannedAtOnce {keys : List UUID} (before : session.point = .begun)
      (call : ∀ id orgId, session.call ≠ .retryDLQJob id orgId) :
      PointStep s tx session (.updating keys none [])
  | scannedBudgeted {workerId queueId : UUID} {leaseSeconds : Int} {keys : List UUID}
      {budget : Int} (before : session.point = .budgeted budget)
      (call : session.call = .claimJobs workerId queueId leaseSeconds) :
      PointStep s tx session (.updating keys (some budget.toNat) [])
  | scannedDeleted {id orgId : UUID} {rank : UUID → Nat} (before : session.point = .deleted)
      (call : session.call = .retryDLQJob id orgId) :
      PointStep s tx session
        (.updating (session.call.scan session.now rank (s.jobs.seenBy Job.id tx)) none [])
  | passed {id : UUID} {rest : List UUID} {room : Option Nat} {returned : List Job}
      (before : session.point = .updating (id :: rest) room returned)
      (handled : s.jobs.handle Job.id (session.call.takes session.now) tx id = .passed) :
      PointStep s tx session (.updating rest room returned)
  | updated {keys : List UUID} {room : Option Nat} {returned : List Job}
      (before : session.point = .updating keys room returned)
      (spent : keys = [] ∨ room = some 0) : PointStep s tx session (.updated returned)
  | filed {jobId letterId : UUID} {reason : String} {attempts : Int} {returned : List Job}
      (before : session.point = .updated returned)
      (call : session.call = .moveToDLQ jobId reason attempts letterId) :
      PointStep s tx session (.filed returned)

/-- What a transaction returns when it may commit are the rows it has rewritten. -/
theorem rewritten_of_ready {session : Session} {returned : List Job}
    (ready : session.ready = some returned) :
    session.point.ended = false ∧ session.point.rewritten = returned := by
  obtain ⟨call, now, point⟩ := session
  unfold Session.ready at ready
  cases point with
  | budgeted budget =>
      refine ⟨rfl, ?_⟩
      cases call with
      | claimJobs =>
          simp only [Option.ite_none_right_eq_some, Option.some.injEq] at ready
          exact ready.2
      | _ => cases ready
  | updated rows =>
      refine ⟨rfl, ?_⟩
      cases call with
      | moveToDLQ => cases ready
      | retryDLQJob =>
          cases rows with
          | nil => cases ready
          | cons first rest => exact Option.some.inj ready
      | _ => exact Option.some.inj ready
  | filed rows =>
      refine ⟨rfl, ?_⟩
      cases call with
      | moveToDLQ => exact Option.some.inj ready
      | _ => cases ready
  | _ => cases ready

/-- Only open transactions move. -/
theorem PointStep.running {s : Sessions} {tx : Nat} {session : Session} {point : SessionPoint}
    (change : PointStep s tx session point) : session.point.ended = false := by
  cases change with
  | counted before | budgeted before | checked before | deletes before | deletesNext before
  | deleted before | scannedAtOnce before | scannedBudgeted before | scannedDeleted before
  | passed before | updated before | filed before =>
      rw [before]
      rfl

/-- Such a move does not end the transaction. -/
theorem PointStep.continues {s : Sessions} {tx : Nat} {session : Session} {point : SessionPoint}
    (change : PointStep s tx session point) : point.ended = false := by
  cases change <;> rfl

/-- These moves rewrite no further row. -/
theorem PointStep.rewritten {s : Sessions} {tx : Nat} {session : Session} {point : SessionPoint}
    (change : PointStep s tx session point) : point.rewritten = session.point.rewritten := by
  cases change with
  | counted before | budgeted before | checked before | deletes before | deletesNext before
  | deleted before | scannedAtOnce before | scannedBudgeted before | scannedDeleted before
  | passed before | updated before | filed before =>
      rw [before]
      rfl

/-- The outcomes of a step. -/
inductive Moves (s : Sessions) : SessionAction → Sessions → Prop where
  | began (call : StoreCall) (now : Timestamptz) :
      Moves s (.begin call now) { s with txs := s.txs ++ [⟨call, now, .begun⟩] }
  | moved {a : SessionAction} (tx : Nat) (session : Session) (point : SessionPoint)
      (letters : Versions UUID Letter) (queues : Versions UUID Queue)
      (found : s.txs[tx]? = some session) (change : PointStep s tx session point)
      (still : letters.rows = s.letters.rows ∧ queues.rows = s.queues.rows)
      (own : ∀ draft ∈ letters.drafts, draft ∈ s.letters.drafts ∨ draft.tx = tx)
      (acts : (∃ rank, a = .statement tx rank) ∨ a = .row tx) :
      Moves s a { s.put tx session point with letters := letters, queues := queues }
  | wrote (tx : Nat) (session : Session) (id : UUID) (rest : List UUID) (room : Option Nat)
      (returned : List Job) (job : Job) (found : s.txs[tx]? = some session)
      (before : session.point = .updating (id :: rest) room returned)
      (handled : s.jobs.handle Job.id (session.call.takes session.now) tx id = .takes job) :
      Moves s (.row tx)
        { s.put tx session (.updating rest (room.map (· - 1))
            (returned ++ [session.call.sets session.now job])) with
          jobs := s.jobs.write tx id (some (session.call.sets session.now job)) }
  | committed (tx : Nat) (session : Session) (returned : List Job)
      (found : s.txs[tx]? = some session) (ready : session.ready = some returned) :
      Moves s (.commit tx) (s.finish tx session returned)
  | failed {a : SessionAction} (tx : Nat) (session : Session) (error : Option StoreError)
      (found : s.txs[tx]? = some session) (running : session.point.ended = false)
      (own : ∀ id orgId e, session.call = .retryDLQJob id orgId → error = some e → e = .notFound)
      (acts : (∃ rank, a = .statement tx rank) ∨ a = .row tx ∨ a = .rollback tx) :
      Moves s a (s.abort tx session error)

variable {s s' : Sessions} {a : SessionAction}

/-- A write adds a draft of its own transaction. -/
theorem own_of_write {tx : Nat} {k : UUID} {version : Option Letter} {draft : Draft UUID Letter}
    (member : draft ∈ (s.letters.write tx k version).drafts) :
    draft ∈ s.letters.drafts ∨ draft.tx = tx := by
  rcases Versions.cases_drafts_write member with rfl | ⟨old, _⟩
  · exact .inr rfl
  · exact .inl old

theorem notFound_own {session : Session} (id orgId : UUID) (e : StoreError)
    (_ : session.call = .retryDLQJob id orgId) (error : some StoreError.notFound = some e) :
    e = .notFound := by
  cases error
  rfl

theorem insertLetter_moves {tx : Nat} {rank : UUID → Nat} {session : Session}
    {jobId letterId : UUID} {reason : String} {attempts : Int} {returned : List Job}
    (found : s.txs[tx]? = some session) (before : session.point = .updated returned)
    (call : session.call = .moveToDLQ jobId reason attempts letterId)
    (taken : s.insertLetter tx session jobId reason attempts letterId returned = some s') :
    Moves s (.statement tx rank) s' := by
  unfold insertLetter at taken
  split at taken
  · cases taken
    exact .moved tx session _ s.letters s.queues found (.filed before call) ⟨rfl, rfl⟩
      (fun _ => .inl) (.inl ⟨rank, rfl⟩)
  · split at taken
    · cases taken
    · split at taken
      · cases taken
        refine .failed tx session _ found (by rw [before]; rfl) ?_ (.inl ⟨rank, rfl⟩)
        intro _ _ _ retries
        rw [call] at retries
        cases retries
      · cases taken
        exact .moved tx session _ _ s.queues found (.filed before call) ⟨rfl, rfl⟩
          (fun _ => own_of_write) (.inl ⟨rank, rfl⟩)

theorem statement_moves {tx : Nat} {rank : UUID → Nat}
    (taken : s.statement tx rank = some s') : Moves s (.statement tx rank) s' := by
  unfold statement at taken
  split at taken
  · cases taken
  next session found =>
    have move : ∀ point, PointStep s tx session point →
        Moves s (.statement tx rank) (s.put tx session point) := fun point change =>
      .moved tx session point s.letters s.queues found change ⟨rfl, rfl⟩ (fun _ => .inl)
        (.inl ⟨rank, rfl⟩)
    dsimp only at taken
    split at taken
    next before call =>
      split at taken
      · cases taken
        exact move _ (.counted before call)
      · cases taken
        exact .failed tx session _ found (by rw [before]; rfl) notFound_own (.inl ⟨rank, rfl⟩)
    next before call =>
      split at taken
      next retriable =>
        cases taken
        exact move _ (.checked before call retriable)
      · cases taken
        exact .failed tx session _ found (by rw [before]; rfl) notFound_own (.inl ⟨rank, rfl⟩)
    next before noClaim noRetry =>
      cases taken
      exact move _ (.scannedAtOnce before noRetry)
    next before call =>
      split at taken
      · cases taken
      · cases taken
        exact move _ (.scannedBudgeted before call)
    next before call =>
      cases taken
      exact move _ (.deletes before call)
    next before call =>
      cases taken
      exact move _ (.scannedDeleted before call)
    next before call => exact insertLetter_moves found before call taken
    · cases taken

theorem row_moves {tx : Nat} (taken : s.row tx = some s') : Moves s (.row tx) s' := by
  unfold row at taken
  split at taken
  · cases taken
  next session found =>
    have move : ∀ point, PointStep s tx session point →
        Moves s (.row tx) (s.put tx session point) := fun point change =>
      .moved tx session point s.letters s.queues found change ⟨rfl, rfl⟩ (fun _ => .inl)
        (.inr rfl)
    split at taken
    next before call =>
      split at taken
      · cases taken
      · cases taken
        exact .failed tx session _ found (by rw [before]; rfl) notFound_own (.inr (.inl rfl))
      · cases taken
        exact .moved tx session _ s.letters _ found (.budgeted before call) ⟨rfl, rfl⟩
          (fun _ => .inl) (.inr rfl)
    next before =>
      cases taken
      exact move _ (.deleted before)
    next before call =>
      split at taken
      · cases taken
      · cases taken
        exact move _ (.deletesNext before)
      · cases taken
        exact .moved tx session _ _ s.queues found (.deletesNext before) ⟨rfl, rfl⟩
          (fun _ => own_of_write) (.inr rfl)
    next before =>
      cases taken
      exact move _ (.updated before (.inl rfl))
    next before =>
      cases taken
      exact move _ (.updated before (.inr rfl))
    next before =>
      split at taken
      · cases taken
      next handled =>
        cases taken
        exact move _ (.passed before handled)
      next job handled =>
        cases taken
        exact .wrote tx session _ _ _ _ job found before handled
    · cases taken

/-- **Every step is one of the moves.** -/
theorem step_moves (taken : s.step a = some s') : Moves s a s' := by
  cases a with
  | begin call now =>
      cases taken
      exact .began call now
  | statement tx rank => exact statement_moves taken
  | row tx => exact row_moves taken
  | commit tx =>
      simp only [step] at taken
      split at taken
      · cases taken
      next session found =>
        obtain ⟨returned, ready, rfl⟩ := Option.map_eq_some_iff.mp taken
        exact .committed tx session returned found ready
  | rollback tx =>
      simp only [step] at taken
      split at taken
      · cases taken
      next session found =>
        split at taken
        · cases taken
        next running =>
          cases taken
          exact .failed tx session _ found (by simpa using running) (by simp) (.inr (.inr rfl))

/-! ## Sessions and locks after a step -/

/-- The transactions after one of them is moved. -/
theorem cases_put {tx index : Nat} {session found : Session} {point : SessionPoint}
    (after : (s.put tx session point).txs[index]? = some found) :
    index = tx ∧ found = { session with point := point } ∨
      index ≠ tx ∧ s.txs[index]? = some found := by
  simp only [put] at after
  by_cases same : index = tx
  · subst same
    rw [List.getElem?_set_self'] at after
    obtain ⟨_, _, rfl⟩ := Option.map_eq_some_iff.mp after
    exact .inl ⟨rfl, rfl⟩
  · rw [List.getElem?_set_ne (Ne.symm same)] at after
    exact .inr ⟨same, after⟩

/-- The transactions after a new one begins. -/
theorem cases_began {index : Nat} {new found : Session}
    (after : (s.txs ++ [new])[index]? = some found) :
    s.txs[index]? = some found ∨ found = new ∧ s.txs.length ≤ index := by
  rw [List.getElem?_append] at after
  split at after
  · exact .inl after
  next outside =>
    exact .inr ⟨List.mem_singleton.mp (List.mem_of_getElem? after), Nat.not_lt.mp outside⟩

/-- What is known when an `UPDATE` takes a row. -/
theorem takes_spec (sound : s.jobs.Sound Job.id) {tx : Nat} {call : StoreCall}
    {now : Timestamptz} {id : UUID} {job : Job}
    (handled : s.jobs.handle Job.id (call.takes now) tx id = .takes job) :
    ¬ s.jobs.LockedByOther tx id ∧ s.jobs.newest Job.id tx id = some job ∧
      (call.takes now).selects job = true ∧ job.id = id := by
  obtain ⟨free, newest, selected⟩ := Versions.handle_takes handled
  exact ⟨free, newest, selected, sound.key_of_newest newest⟩

/-- **The locks stay sound.** -/
theorem sound_step (moves : Moves s a s') (sound : s.jobs.Sound Job.id) :
    s'.jobs.Sound Job.id := by
  cases moves with
  | began => exact sound
  | moved => exact sound
  | wrote tx session id rest room returned job found before handled =>
      obtain ⟨free, _, _, same⟩ := takes_spec sound handled
      refine sound.write free ?_
      rintro row ⟨⟩
      rw [StoreCall.sets_id, same]
  | committed tx => exact sound.publish tx
  | failed tx => exact sound.discard tx

/-- The transaction has the row locked: its committed version is `old` and its draft
`new`. -/
def Locks (s : Sessions) (tx : Nat) (old new : Job) : Prop :=
  old ∈ s.jobs.rows ∧ ⟨tx, old.id, some new⟩ ∈ s.jobs.drafts

/-- Drafts belong to open transactions. -/
structure Attended (s : Sessions) : Prop where
  jobs : ∀ draft ∈ s.jobs.drafts, ∃ session, s.txs[draft.tx]? = some session ∧
    session.point.ended = false
  letters : ∀ draft ∈ s.letters.drafts, ∃ session, s.txs[draft.tx]? = some session ∧
    session.point.ended = false

/-- An open transaction stays open when another one is moved, or it moves itself on. -/
theorem open_put {tx acting : Nat} {session session₀ : Session} {point : SessionPoint}
    (found : s.txs[tx]? = some session) (running : session.point.ended = false)
    (moves : tx = acting → point.ended = false) :
    ∃ session', (s.put acting session₀ point).txs[tx]? = some session' ∧
      session'.point.ended = false := by
  by_cases same : tx = acting
  · subst same
    exact ⟨_, List.getElem?_set_self (List.getElem?_eq_some_iff.mp found).1, moves rfl⟩
  · exact ⟨session, by simpa [put, List.getElem?_set_ne (Ne.symm same)] using found, running⟩

/-- **Drafts stay attended.** -/
theorem attended_step (moves : Moves s a s') (inv : Attended s) : Attended s' := by
  cases moves with
  | began call now =>
      have keeps : ∀ (tx : Nat) (session : Session), s.txs[tx]? = some session →
          (s.txs ++ [⟨call, now, .begun⟩])[tx]? = some session := by
        intro tx session found
        rw [List.getElem?_append_left (List.getElem?_eq_some_iff.mp found).1]
        exact found
      refine ⟨?_, ?_⟩
      · intro draft member
        obtain ⟨session, found, running⟩ := inv.jobs draft member
        exact ⟨session, keeps _ _ found, running⟩
      · intro draft member
        obtain ⟨session, found, running⟩ := inv.letters draft member
        exact ⟨session, keeps _ _ found, running⟩
  | moved tx session point letters queues found change still own =>
      refine ⟨?_, ?_⟩
      · intro draft member
        obtain ⟨session', found', running⟩ := inv.jobs draft member
        exact open_put found' running fun _ => change.continues
      · intro draft member
        rcases own draft member with old | rfl
        · obtain ⟨session', found', running⟩ := inv.letters draft old
          exact open_put found' running fun _ => change.continues
        · exact open_put found change.running fun _ => change.continues
  | wrote tx session id rest room returned job found before handled =>
      refine ⟨?_, ?_⟩
      · intro draft member
        rcases Versions.cases_drafts_write member with rfl | ⟨old, _⟩
        · exact open_put found (by rw [before]; rfl) fun _ => rfl
        · obtain ⟨session', found', running⟩ := inv.jobs draft old
          exact open_put found' running fun _ => rfl
      · intro draft member
        obtain ⟨session', found', running⟩ := inv.letters draft member
        exact open_put found' running fun _ => rfl
  | committed tx session returned found ready =>
      refine ⟨?_, ?_⟩
      · intro draft member
        obtain ⟨old, other⟩ := Versions.of_mem_release member
        obtain ⟨session', found', running⟩ := inv.jobs draft old
        exact open_put found' running fun same => absurd same other
      · intro draft member
        obtain ⟨old, other⟩ := Versions.of_mem_release member
        obtain ⟨session', found', running⟩ := inv.letters draft old
        exact open_put found' running fun same => absurd same other
  | failed tx session error found =>
      refine ⟨?_, ?_⟩
      · intro draft member
        obtain ⟨old, other⟩ := Versions.of_mem_release member
        obtain ⟨session', found', running⟩ := inv.jobs draft old
        exact open_put found' running fun same => absurd same other
      · intro draft member
        obtain ⟨old, other⟩ := Versions.of_mem_release member
        obtain ⟨session', found', running⟩ := inv.letters draft old
        exact open_put found' running fun same => absurd same other

/-- What a step of another transaction leaves to a transaction: its drafts, and the committed
versions of the rows it has locked. -/
structure Bystander (s s' : Sessions) (tx : Nat) : Prop where
  drafts : ∀ draft : Draft UUID Job, draft.tx = tx →
    (draft ∈ s'.jobs.drafts ↔ draft ∈ s.jobs.drafts)
  locked : ∀ draft ∈ s.jobs.drafts, draft.tx = tx → ∀ row : Job, row.id = draft.key →
    (row ∈ s'.jobs.rows ↔ row ∈ s.jobs.rows)

/-- **Transactions do not disturb each other's locks.** -/
theorem bystander (moves : Moves s a s') (sound : s.jobs.Sound Job.id) {tx : Nat}
    (other : a.actor? ≠ some tx) : Bystander s s' tx := by
  have ended : ∀ acting, a.actor? = some acting → ∀ draft : Draft UUID Job, draft.tx = tx →
      (draft ∈ s.jobs.release acting ↔ draft ∈ s.jobs.drafts) := by
    intro acting acts draft own
    refine ⟨fun member => (Versions.of_mem_release member).1, fun member => ?_⟩
    refine Versions.mem_drafts_release member ?_
    rw [own]
    rintro rfl
    exact other acts
  cases moves with
  | began => exact ⟨fun _ _ => Iff.rfl, fun _ _ _ _ _ => Iff.rfl⟩
  | moved => exact ⟨fun _ _ => Iff.rfl, fun _ _ _ _ _ => Iff.rfl⟩
  | wrote acting =>
      refine ⟨fun draft own => ?_, fun _ _ _ _ _ => Iff.rfl⟩
      have different : draft.tx ≠ acting := by
        rw [own]
        rintro rfl
        exact other rfl
      constructor
      · intro member
        rcases Versions.cases_drafts_write member with rfl | ⟨old, _⟩
        · exact absurd rfl different
        · exact old
      · intro member
        exact Versions.mem_drafts_write member different
  | committed acting =>
      refine ⟨ended acting rfl, fun draft member own row same => ?_⟩
      refine sound.mem_publish_of_locked member ?_ same
      rw [own]
      rintro rfl
      exact other rfl
  | failed acting session error found running own acts =>
      refine ⟨ended acting ?_, fun _ _ _ _ _ => Iff.rfl⟩
      rcases acts with ⟨rank, rfl⟩ | rfl | rfl <;> rfl

/-- A transaction that does not take the step stands where it stood, or begins. -/
theorem cases_other (moves : Moves s a s') {tx : Nat} (other : a.actor? ≠ some tx)
    {session' : Session} (found' : s'.txs[tx]? = some session') :
    s.txs[tx]? = some session' ∨ session'.point = .begun ∧ s.txs.length ≤ tx := by
  have kept : ∀ acting, a.actor? = some acting → ∀ session point,
      (s.put acting session point).txs[tx]? = some session' → s.txs[tx]? = some session' := by
    intro acting acts session point after
    rcases cases_put after with ⟨rfl, _⟩ | ⟨_, found⟩
    · exact absurd acts other
    · exact found
  cases moves with
  | began =>
      rcases cases_began found' with found | ⟨rfl, new⟩
      · exact .inl found
      · exact .inr ⟨rfl, new⟩
  | moved acting _ _ _ _ _ _ _ _ acts =>
      refine .inl (kept acting ?_ _ _ found')
      rcases acts with ⟨rank, rfl⟩ | rfl <;> rfl
  | wrote acting => exact .inl (kept acting rfl _ _ found')
  | committed acting => exact .inl (kept acting rfl _ _ found')
  | failed acting _ _ _ _ _ acts =>
      refine .inl (kept acting ?_ _ _ found')
      rcases acts with ⟨rank, rfl⟩ | rfl | rfl <;> rfl

/-- What the transaction that takes the step does: it moves on and leaves the jobs alone,
takes the next row of its `UPDATE`, commits, or fails. -/
inductive Advances (s s' : Sessions) (tx : Nat) (session session' : Session) : Prop where
  | moved (change : PointStep s tx session session'.point) (jobs : s'.jobs = s.jobs)
  | wrote (id : UUID) (rest : List UUID) (room : Option Nat) (returned : List Job) (job : Job)
      (before : session.point = .updating (id :: rest) room returned)
      (handled : s.jobs.handle Job.id (session.call.takes session.now) tx id = .takes job)
      (after : session'.point = .updating rest (room.map (· - 1))
        (returned ++ [session.call.sets session.now job]))
      (jobs : s'.jobs = s.jobs.write tx id (some (session.call.sets session.now job)))
  | committed (returned : List Job) (ready : session.ready = some returned)
      (after : session'.point = .committed returned)
  | failed (error : Option StoreError) (running : session.point.ended = false)
      (own : ∀ id orgId e, session.call = .retryDLQJob id orgId → error = some e →
        e = .notFound) (after : session'.point = .failed error)

theorem cases_acting (moves : Moves s a s') {tx : Nat} (acts : a.actor? = some tx)
    {session' : Session} (found' : s'.txs[tx]? = some session') :
    ∃ session, s.txs[tx]? = some session ∧ session'.call = session.call ∧
      session'.now = session.now ∧ Advances s s' tx session session' := by
  have acted : ∀ acting, a.actor? = some acting → acting = tx := by
    intro acting acts'
    rw [acts] at acts'
    exact (Option.some.inj acts').symm
  cases moves with
  | began => cases acts
  | moved acting session point letters queues found change still own acts' =>
      obtain rfl := acted acting (by rcases acts' with ⟨rank, rfl⟩ | rfl <;> rfl)
      rcases cases_put found' with ⟨_, rfl⟩ | ⟨other, _⟩
      · exact ⟨session, found, rfl, rfl, .moved change rfl⟩
      · exact absurd rfl other
  | wrote acting session id rest room returned job found before handled =>
      obtain rfl := acted acting rfl
      rcases cases_put found' with ⟨_, rfl⟩ | ⟨other, _⟩
      · exact ⟨session, found, rfl, rfl, .wrote id rest room returned job before handled rfl rfl⟩
      · exact absurd rfl other
  | committed acting session returned found ready =>
      obtain rfl := acted acting rfl
      rcases cases_put found' with ⟨_, rfl⟩ | ⟨other, _⟩
      · exact ⟨session, found, rfl, rfl, .committed returned ready rfl⟩
      · exact absurd rfl other
  | failed acting session error found running own acts' =>
      obtain rfl := acted acting (by rcases acts' with ⟨rank, rfl⟩ | rfl | rfl <;> rfl)
      rcases cases_put found' with ⟨_, rfl⟩ | ⟨other, _⟩
      · exact ⟨session, found, rfl, rfl, .failed error running own rfl⟩
      · exact absurd rfl other

/-- A transaction that has not begun has no drafts. -/
theorem Attended.unbegun (inv : Attended s) {tx : Nat} (new : s.txs.length ≤ tx)
    (draft : Draft UUID Job) (member : draft ∈ s.jobs.drafts) : draft.tx ≠ tx := by
  rintro rfl
  obtain ⟨_, found, _⟩ := inv.jobs draft member
  have old := (List.getElem?_eq_some_iff.mp found).1
  omega

/-- Committed rows change by commits only. -/
theorem rows_kept (moves : Moves s a s') (open' : ∀ tx, a ≠ .commit tx) :
    s'.jobs.rows = s.jobs.rows ∧ s'.letters.rows = s.letters.rows := by
  cases moves with
  | committed tx => exact absurd rfl (open' tx)
  | moved tx session point letters queues found change still => exact ⟨rfl, still.1⟩
  | began | wrote | failed => exact ⟨rfl, rfl⟩

/-- A commit makes the drafts of its transaction the committed versions. -/
theorem published {tx : Nat} (taken : s.step (.commit tx) = some s') (sound : s.jobs.Sound Job.id)
    {id : UUID} {new : Job} (drafted : ⟨tx, id, some new⟩ ∈ s.jobs.drafts) :
    new ∈ s'.jobs.rows := by
  have moves := step_moves taken
  cases moves with
  | committed => exact sound.mem_publish_of_draft drafted rfl rfl
  | moved _ _ _ _ _ _ _ _ _ acts => simp at acts
  | failed _ _ _ _ _ _ acts => simp at acts

end Sessions

/-- The jobs table is sound and its drafts are attended. -/
structure Sessions.Orderly (s : Sessions) : Prop where
  sound : s.jobs.Sound Job.id
  attended : s.Attended

theorem Sessions.orderly_step {s s' : Sessions} {a : SessionAction} (moves : Moves s a s')
    (inv : Orderly s) : Orderly s' where
  sound := sound_step moves inv.sound
  attended := attended_step moves inv.attended

theorem Sessions.orderly_initial {s : Sessions} (initial : sessions.initial s) : Orderly s := by
  obtain ⟨ids, noJobs, noLetters, _, _⟩ := initial
  refine ⟨⟨ids, ?_, ?_⟩, ⟨?_, ?_⟩⟩
  · rw [noJobs]
    exact List.nodup_nil
  · rw [noJobs]
    intro draft member
    cases member
  · rw [noJobs]
    intro draft member
    cases member
  · rw [noLetters]
    intro draft member
    cases member

/-- What becomes true of the committed jobs becomes true by a commit. -/
theorem Sessions.exists_commit {s last : Sessions} {trace : List (Sessions × SessionAction)}
    (path : Path sessions s trace last) (property : List Job → Prop)
    (first : ¬ property s.jobs.rows) (final : property last.jobs.rows) :
    ∃ entry ∈ trace, ∃ tx s', entry.2 = .commit tx ∧ entry.1.step entry.2 = some s' ∧
      ¬ property entry.1.jobs.rows ∧ property s'.jobs.rows := by
  obtain ⟨entry, member, s', taken, before, after⟩ :=
    path.exists_change (fun state => property state.jobs.rows) first final
  by_cases commits : ∃ tx, entry.2 = .commit tx
  · obtain ⟨tx, commits⟩ := commits
    exact ⟨entry, member, tx, s', commits, taken, before, after⟩
  · have kept := rows_kept (step_moves taken) (fun tx same => commits ⟨tx, same⟩)
    rw [kept.1] at after
    exact absurd after before

end JobScheduler
