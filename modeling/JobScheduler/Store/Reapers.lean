import JobScheduler.Store.Disjoint

/-!
# Concurrent reapers

Any number of `RequeueOrphanedJobs` sweeps run beside the other calls. The `UPDATE` of a sweep
selects its rows in a snapshot, and by the time it comes to a row another sweep may have
requeued it and a worker claimed it anew. It then waits for the writer and checks its whole
`WHERE` clause on the newest version, with the `NOW()` of its own transaction. What it writes
does not satisfy that clause, so it takes every row in the committed version; from there to
its commit it has the row locked.

A requeued row names no worker and has no lease. A claim alone changes that: a renewal asks
for the worker's id in the row. So between two sweeps that requeue one job there is a claim.
-/

set_option autoImplicit false

namespace JobScheduler

open Relational Transition ReadCommitted

/-- The calls of `RequeueOrphanedJobs`. -/
def StoreCall.isSweep : StoreCall → Bool
  | .requeueOrphanedJobs => true
  | _ => false

theorem StoreCall.eq_requeueOrphanedJobs {call : StoreCall} (sweeps : call.isSweep = true) :
    call = .requeueOrphanedJobs := by
  cases call with
  | requeueOrphanedJobs => rfl
  | _ => cases sweeps

/-- The `UPDATE` of the call does not select what it has written. -/
def StoreCall.LeavesBehind (call : StoreCall) : Prop :=
  ∀ now job, (call.takes now).selects (call.sets now job) = false

theorem StoreCall.leavesBehind_requeueOrphanedJobs :
    StoreCall.requeueOrphanedJobs.LeavesBehind := by
  intro now job
  simp [takes, sets, Job.Orphaned, Job.requeueOrphaned, JobStatus.Active]

/-- No worker and no lease. -/
def Job.Unowned (job : Job) : Prop := job.workerId = none ∧ job.leaseExpiresAt = none

/-- Only a claim gives an unowned row a worker or a lease. -/
theorem StoreCall.unowned_sets {call : StoreCall} (other : call.isClaim = false)
    {now : Timestamptz} {job : Job} (selected : (call.takes now).selects job = true)
    (unowned : job.Unowned) : (call.sets now job).Unowned := by
  cases call with
  | claimJobs => cases other
  | heartbeat workerId leaseSeconds =>
      have renews : job.RenewedBy workerId := of_decide_eq_true selected
      have named := renews.1
      rw [unowned.1] at named
      cases named
  | releaseJobs | requeueOrphanedJobs | requeueForRetry | retryDLQJob => exact ⟨rfl, rfl⟩
  | setJobRunning | completeJob | failJob | moveToDLQ => exact unowned

namespace Sessions

/-- A `RequeueOrphanedJobs` that is about to commit and returns the job. -/
def Sweeps (s : Sessions) (tx : Nat) (id : UUID) : Prop :=
  ∃ session ∈ s.txs[tx]?, session.call.isSweep = true ∧ ∃ returned ∈ session.ready,
    ∃ job ∈ returned, job.id = id

instance (s : Sessions) (tx : Nat) (id : UUID) : Decidable (s.Sweeps tx id) :=
  inferInstanceAs (Decidable (∃ session ∈ s.txs[tx]?, _ ∧ ∃ returned ∈ session.ready,
    ∃ job ∈ returned, _))

/-- What is known of the drafts of an open transaction. -/
structure Rewriting (s : Sessions) (tx : Nat) (session : Session) : Prop where
  /-- Each is listed among the rewritten rows. -/
  listed : ∀ draft ∈ s.jobs.drafts, draft.tx = tx →
    ∃ new ∈ session.point.rewritten, draft.version = some new ∧ new.id = draft.key
  /-- If the call leaves behind what it writes, each row was taken in its committed version. -/
  taken : session.call.LeavesBehind → ∀ new ∈ session.point.rewritten,
    ∃ old, s.Locks tx old new ∧ (session.call.takes session.now).selects old = true ∧
      new = session.call.sets session.now old
  /-- Each is of a committed row, and stays unowned with it if the call is no claim. -/
  rooted : ∀ draft ∈ s.jobs.drafts, draft.tx = tx → ∃ old ∈ s.jobs.rows, old.id = draft.key ∧
    (session.call.isClaim = false → old.Unowned → ∀ new, draft.version = some new → new.Unowned)

/-- The transactions are orderly, and the open ones are rewriting. -/
structure Traced (s : Sessions) : Prop where
  orderly : s.Orderly
  rewriting : ∀ tx session, s.txs[tx]? = some session → session.point.ended = false →
    s.Rewriting tx session

variable {s s' : Sessions} {a : SessionAction} {tx : Nat} {session session' : Session}

/-- A transaction without drafts and without rewritten rows. -/
theorem Rewriting.of_unwritten (free : ∀ draft ∈ s.jobs.drafts, draft.tx ≠ tx)
    (none : session.point.rewritten = []) : s.Rewriting tx session where
  listed draft member own := absurd own (free draft member)
  taken _ new member := by
    rw [none] at member
    cases member
  rooted draft member own := absurd own (free draft member)

/-- A step of another transaction disturbs no drafts. -/
theorem Rewriting.kept (rewriting : s.Rewriting tx session) (aside : Bystander s s' tx) :
    s'.Rewriting tx session where
  listed draft member own := rewriting.listed draft ((aside.drafts draft own).mp member) own
  taken leaves new member := by
    obtain ⟨old, ⟨oldMember, drafted⟩, facts⟩ := rewriting.taken leaves new member
    exact ⟨old, ⟨(aside.locked _ drafted rfl old rfl).mpr oldMember,
      (aside.drafts _ rfl).mpr drafted⟩, facts⟩
  rooted draft member own := by
    have before := (aside.drafts draft own).mp member
    obtain ⟨old, oldMember, same, keeps⟩ := rewriting.rooted draft before own
    exact ⟨old, (aside.locked draft before own old same).mpr oldMember, same, keeps⟩

/-- A call that leaves behind what it writes takes rows in their committed version. -/
theorem Rewriting.takes_committed (rewriting : s.Rewriting tx session)
    (leaves : session.call.LeavesBehind) {id : UUID} {job : Job}
    (handled : s.jobs.handle Job.id (session.call.takes session.now) tx id = .takes job) :
    (∀ draft ∈ s.jobs.drafts, draft.tx = tx → draft.key ≠ id) ∧ job ∈ s.jobs.rows ∧
      job.id = id := by
  obtain ⟨_, newest, selected⟩ := Versions.handle_takes handled
  have free : ∀ draft ∈ s.jobs.drafts, draft.tx = tx → draft.key ≠ id := by
    -- the transaction's own version would not be selected
    intro draft member own same
    unfold Versions.newest at newest
    split at newest
    next draft' found =>
      obtain ⟨member', own', _⟩ := Versions.mem_of_draftOf found
      obtain ⟨new, listed, version, _⟩ := rewriting.listed draft' member' own'
      rw [version] at newest
      cases newest
      obtain ⟨old, _, _, written⟩ := rewriting.taken leaves job listed
      rw [written, leaves] at selected
      cases selected
    next missing =>
      have absent := List.find?_eq_none.mp missing draft member
      simp [own, same] at absent
  exact ⟨free, Versions.committed_of_newest free newest⟩

/-- The version an `UPDATE` finds is of a committed row, and unowned with it. -/
theorem Rewriting.newest_rooted (rewriting : s.Rewriting tx session) {id : UUID} {job : Job}
    (newest : s.jobs.newest Job.id tx id = some job) :
    ∃ old ∈ s.jobs.rows, old.id = id ∧
      (session.call.isClaim = false → old.Unowned → job.Unowned) := by
  unfold Versions.newest at newest
  split at newest
  next draft found =>
    obtain ⟨drafted, own, key⟩ := Versions.mem_of_draftOf found
    obtain ⟨old, member, same, keeps⟩ := rewriting.rooted draft drafted own
    exact ⟨old, member, same.trans key, fun other unowned => keeps other unowned job newest⟩
  · have key := List.find?_some newest
    rw [decide_eq_true_eq] at key
    exact ⟨job, List.mem_of_find?_eq_some newest, key, fun _ unowned => unowned⟩

/-- A transaction that moves on or takes its next row is still rewriting. -/
theorem Traced.advances (inv : Traced s) (found : s.txs[tx]? = some session)
    (call : session'.call = session.call) (instant : session'.now = session.now)
    (advances : Advances s s' tx session session') (running' : session'.point.ended = false) :
    s'.Rewriting tx session' := by
  cases advances with
  | moved change jobs =>
      have rewriting := inv.rewriting tx session found change.running
      refine ⟨?_, ?_, ?_⟩
      · rw [jobs, change.rewritten]
        exact rewriting.listed
      · unfold Locks
        rw [jobs, change.rewritten, call, instant]
        exact rewriting.taken
      · rw [jobs, call]
        exact rewriting.rooted
  | wrote id rest room returned job before handled after jobs =>
      have rewriting := inv.rewriting tx session found (by rw [before]; rfl)
      obtain ⟨free, newest, selected, same⟩ := takes_spec inv.orderly.sound handled
      have rewritten : session'.point.rewritten =
          session.point.rewritten ++ [session.call.sets session.now job] := by
        rw [after, before]
        rfl
      refine ⟨?_, ?_, ?_⟩
      · intro draft member own
        rw [jobs] at member
        rw [rewritten]
        rcases Versions.cases_drafts_write member with rfl | ⟨old, _⟩
        · refine ⟨_, List.mem_append_right _ List.mem_cons_self, rfl, ?_⟩
          rw [StoreCall.sets_id, same]
        · obtain ⟨new, listed, facts⟩ := rewriting.listed draft old own
          exact ⟨new, List.mem_append_left _ listed, facts⟩
      · rw [call, instant, rewritten]
        intro leaves new newMember
        obtain ⟨unlocked, committed, _⟩ := rewriting.takes_committed leaves handled
        unfold Locks
        rw [jobs]
        rcases List.mem_append.mp newMember with earlier | last
        · -- the rows rewritten before have other keys
          obtain ⟨old, ⟨oldMember, drafted⟩, facts⟩ := rewriting.taken leaves new earlier
          refine ⟨old, ⟨oldMember, ?_⟩, facts⟩
          refine List.mem_cons_of_mem _ (List.mem_filter.mpr ⟨drafted, ?_⟩)
          have otherKey := unlocked _ drafted rfl
          simpa using otherKey
        · rw [List.mem_singleton] at last
          subst last
          refine ⟨job, ⟨committed, ?_⟩, selected, rfl⟩
          rw [same]
          exact List.mem_cons_self
      · rw [call, jobs]
        intro draft member own
        rcases Versions.cases_drafts_write member with rfl | ⟨earlier, _⟩
        · obtain ⟨old, oldMember, key, keeps⟩ := rewriting.newest_rooted newest
          refine ⟨old, oldMember, key, ?_⟩
          rintro other unowned new ⟨⟩
          exact StoreCall.unowned_sets other selected (keeps other unowned)
        · exact rewriting.rooted draft earlier own
  | committed returned ready after =>
      rw [after] at running'
      cases running'
  | failed error running own after =>
      rw [after] at running'
      cases running'

theorem traced_step (moves : Moves s a s') (inv : Traced s) : Traced s' where
  orderly := orderly_step moves inv.orderly
  rewriting tx session' found' running' := by
    by_cases acts : a.actor? = some tx
    · obtain ⟨session, found, call, instant, advances⟩ := cases_acting moves acts found'
      exact inv.advances found call instant advances running'
    · have aside := bystander moves inv.orderly.sound acts
      rcases cases_other moves acts found' with found | ⟨begun, new⟩
      · exact (inv.rewriting tx session' found running').kept aside
      · refine .of_unwritten ?_ (by rw [begun]; rfl)
        intro draft member own
        exact inv.orderly.attended.unbegun new draft ((aside.drafts draft own).mp member) own

/-! ## The commit of a sweep -/

/-- A row that a sweep returns: its committed version is orphaned at the sweep's `NOW()`. -/
theorem Traced.swept (inv : Traced s) {returned : List Job} {job : Job}
    (found : s.txs[tx]? = some session) (call : session.call = .requeueOrphanedJobs)
    (ready : session.ready = some returned) (member : job ∈ returned) :
    ∃ old, s.Locks tx old job ∧ old.Orphaned session.now ∧
      job = old.requeueOrphaned session.now := by
  obtain ⟨running, rewritten⟩ := rewritten_of_ready ready
  have rewriting := inv.rewriting tx session found running
  have leaves : session.call.LeavesBehind := by
    rw [call]
    exact StoreCall.leavesBehind_requeueOrphanedJobs
  rw [← rewritten] at member
  obtain ⟨old, locks, selected, written⟩ := rewriting.taken leaves job member
  rw [call] at selected written
  exact ⟨old, locks, of_decide_eq_true selected, written⟩

/-- A sweep leaves every row alone that is not orphaned when it commits. -/
theorem Traced.spared (inv : Traced s) (taken : s.step (.commit tx) = some s')
    (found : s.txs[tx]? = some session) (call : session.call = .requeueOrphanedJobs)
    {row : Job} (member : row ∈ s.jobs.rows) (held : ¬ row.Orphaned session.now) :
    row ∈ s'.jobs.rows := by
  have moves := step_moves taken
  cases moves with
  | committed _ session₀ returned found₀ ready =>
      rw [found] at found₀
      cases found₀
      refine inv.orderly.sound.mem_publish_of_free ?_ member
      intro draft drafted own key
      obtain ⟨running, rewritten⟩ := rewritten_of_ready ready
      obtain ⟨new, listed, _, newKey⟩ :=
        (inv.rewriting tx session found running).listed draft drafted own
      rw [rewritten] at listed
      obtain ⟨old, ⟨oldMember, _⟩, orphaned, written⟩ := inv.swept found call ready listed
      have same : old.id = row.id := by
        rw [← key, ← newKey, written]
        rfl
      rw [eq_of_key_eq inv.orderly.sound.keys oldMember member same] at orphaned
      exact held orphaned
  | moved _ _ _ _ _ _ _ _ _ acts => simp at acts
  | failed _ _ _ _ _ _ acts => simp at acts

/-- The committed row of the job names a worker or has a lease. -/
def Owned (rows : List Job) (id : UUID) : Prop :=
  ∃ row ∈ rows, row.id = id ∧ ¬ row.Unowned

theorem Traced.owned_before (inv : Traced s) {id : UUID} (sweeps : s.Sweeps tx id) :
    Owned s.jobs.rows id := by
  obtain ⟨session, found, isSweep, returned, ready, job, member, rfl⟩ := sweeps
  have call := StoreCall.eq_requeueOrphanedJobs isSweep
  obtain ⟨old, locks, ⟨_, lease, leased, _⟩, written⟩ := inv.swept found call ready member
  refine ⟨old, locks.1, ?_, ?_⟩
  · rw [written]
    rfl
  · intro unowned
    rw [unowned.2] at leased
    cases leased

theorem Traced.unowned_after (inv : Traced s) {id : UUID} (sweeps : s.Sweeps tx id)
    (taken : s.step (.commit tx) = some s') : ¬ Owned s'.jobs.rows id := by
  obtain ⟨session, found, isSweep, returned, ready, job, member, rfl⟩ := sweeps
  have call := StoreCall.eq_requeueOrphanedJobs isSweep
  obtain ⟨old, locks, _, written⟩ := inv.swept found call ready member
  have after := published taken inv.orderly.sound locks.2
  have sound' := sound_step (step_moves taken) inv.orderly.sound
  rintro ⟨row, rowMember, same, owned⟩
  rw [eq_of_key_eq sound'.keys rowMember after same, written] at owned
  exact owned ⟨rfl, rfl⟩

/-- A commit that gives an unowned row a worker or a lease is a claim that returns it. -/
theorem Traced.claims_of_owned (inv : Traced s) {id : UUID}
    (taken : s.step (.commit tx) = some s') (before : ¬ Owned s.jobs.rows id)
    (after : Owned s'.jobs.rows id) : s.Returns tx id := by
  obtain ⟨row, member, same, owned⟩ := after
  have moves := step_moves taken
  cases moves with
  | committed _ session returned found ready =>
      obtain ⟨running, rewritten⟩ := rewritten_of_ready ready
      have rewriting := inv.rewriting tx session found running
      rcases inv.orderly.sound.mem_seenBy.mp member with ⟨old, _⟩ | ⟨draft, drafted, own, version⟩
      · exact absurd ⟨row, old, same, owned⟩ before
      · obtain ⟨new, listed, version', newKey⟩ := rewriting.listed draft drafted own
        rw [version] at version'
        cases version'
        cases isClaim : session.call.isClaim with
        | true =>
            rw [rewritten] at listed
            exact ⟨session, found, isClaim, returned, ready, row, listed, same⟩
        | false =>
            obtain ⟨old, oldMember, key, keeps⟩ := rewriting.rooted draft drafted own
            have unowned : old.Unowned := by
              by_contra owned'
              exact before ⟨old, oldMember, key.trans (newKey.symm.trans same), owned'⟩
            exact absurd (keeps isClaim unowned row version) owned
  | moved _ _ _ _ _ _ _ _ _ acts => simp at acts
  | failed _ _ _ _ _ _ acts => simp at acts

end Sessions

theorem traced_throughout {trace : List (Sessions × SessionAction)} {s : Sessions}
    (run : Run sessions trace s) : Throughout Sessions.Traced trace s := by
  have anyway : Meets (fun _ _ => True) trace := fun _ _ => trivial
  refine run.throughout anyway ?_ ?_
  · intro s initial
    refine ⟨Sessions.orderly_initial initial, ?_⟩
    intro tx session found
    rw [initial.2.2.2.2] at found
    cases found
  · intro s a s' taken _ inv
    exact Sessions.traced_step (Sessions.step_moves taken) inv

/-- **Concurrent sweeps reclaim expired claims only, and each once.** -/
structure ReapsSafely (trace : List (Sessions × SessionAction)) : Prop where
  /-- A sweep requeues a row whose committed version has a lease before the sweep's `NOW()`. -/
  expired : ∀ entry ∈ trace, ∀ tx session returned job, entry.2 = .commit tx →
    entry.1.txs[tx]? = some session → session.call = .requeueOrphanedJobs →
    session.ready = some returned → job ∈ returned →
    ∃ old ∈ entry.1.jobs.rows, old.id = job.id ∧ old.Orphaned session.now ∧
      job = old.requeueOrphaned session.now
  /-- A row that is claimed or renewed with a later lease by then is left alone. -/
  spared : ∀ entry ∈ trace, ∀ tx session s', entry.2 = .commit tx →
    entry.1.step entry.2 = some s' → entry.1.txs[tx]? = some session →
    session.call = .requeueOrphanedJobs →
    ∀ row ∈ entry.1.jobs.rows, ¬ row.Orphaned session.now → row ∈ s'.jobs.rows
  /-- Between two sweeps that requeue the same job a claim of the job commits. -/
  once : ∀ later middle earlier s₁ s₂ first second id,
    trace = later ++ (s₂, .commit second) :: (middle ++ (s₁, .commit first) :: earlier) →
    s₁.Sweeps first id → s₂.Sweeps second id →
    ∃ entry ∈ middle, ∃ tx, entry.2 = .commit tx ∧ entry.1.Returns tx id

theorem reaps_safely (trace : List (Sessions × SessionAction)) (s : Sessions)
    (run : Run sessions trace s) : ReapsSafely trace where
  expired entry member tx session returned job _ found call ready listed := by
    have inv := (traced_throughout run).1 entry member
    obtain ⟨old, locks, orphaned, written⟩ := inv.swept found call ready listed
    refine ⟨old, locks.1, ?_, orphaned, written⟩
    rw [written]
    rfl
  spared entry member tx session s' commits taken found call row listed held := by
    have inv := (traced_throughout run).1 entry member
    rw [commits] at taken
    exact inv.spared taken found call listed held
  once later middle earlier s₁ s₂ first second id split sweeps₁ sweeps₂ := by
    subst split
    obtain ⟨s₃, run₃, _⟩ := Run.split sessions run
    cases run₃ with
    | next _ run₂ taken₂ =>
        obtain ⟨s₁', run₁', path⟩ := Run.split sessions run₂
        have traced := (traced_throughout run₂).1
        cases run₁' with
        | next _ run₁ taken₁ =>
            have after := (traced_throughout run₁).2.unowned_after sweeps₁ taken₁
            have before := (traced_throughout run₂).2.owned_before sweeps₂
            obtain ⟨entry, member, tx, s', commits, taken, unowned, owned⟩ :=
              Sessions.exists_commit path (Sessions.Owned · id) after before
            rw [commits] at taken
            have inv := traced entry (List.mem_append_left _ member)
            exact ⟨entry, member, tx, commits, inv.claims_of_owned taken unowned owned⟩

/-- The queued job of `oneQueued`, claimed by worker `5`. -/
def oneClaimed : Sessions :=
  { oneQueued with
    jobs := ⟨oneQueued.jobs.rows.map (Job.claim 0 5 0), []⟩ }

/-- A sweep takes its snapshot and stops. A second sweep requeues the job, worker `6` claims
it, and the first sweep comes to the row. A third sweep comes after the lease of the claim. -/
def racingSweeps : List SessionAction :=
  ([.begin .requeueOrphanedJobs 1, .statement 0 fun _ => 0] : List SessionAction) ++
    updateOne 1 .requeueOrphanedJobs 1 ++ claimOne 2 6 2 ++
    ([.row 0, .row 0, .commit 0] : List SessionAction) ++ updateOne 3 .requeueOrphanedJobs 40000000

theorem reaps_safely_racingSweeps :
    ∃ trace s, Run sessions trace s ∧
      (∃ entry ∈ trace, entry.2.commits? = some 0 ∧ ¬ entry.1.Sweeps 0 4) ∧
      (∃ entry ∈ trace, entry.2.commits? = some 1 ∧ entry.1.Sweeps 1 4) ∧
      (∃ entry ∈ trace, entry.2.commits? = some 3 ∧ entry.1.Sweeps 3 4) ∧ ReapsSafely trace := by
  obtain ⟨trace, s, run, robbed, first, last⟩ :=
    exists_run_of_execute sessions racingSweeps oneClaimed
      (fun trace _ => (∃ entry ∈ trace, entry.2.commits? = some 0 ∧ ¬ entry.1.Sweeps 0 4) ∧
        (∃ entry ∈ trace, entry.2.commits? = some 1 ∧ entry.1.Sweeps 1 4) ∧
        ∃ entry ∈ trace, entry.2.commits? = some 3 ∧ entry.1.Sweeps 3 4)
      ⟨by decide, rfl, rfl, rfl, rfl⟩ (by decide)
  exact ⟨trace, s, run, robbed, first, last, reaps_safely trace s run⟩

end JobScheduler
