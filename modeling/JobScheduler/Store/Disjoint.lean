import JobScheduler.Store.Sessions

/-!
# No two claims of the same job

The `UPDATE` of `ClaimJobs` takes a row only in its newest version, only while no other
transaction has it locked, and only if that version is `queued`; it then has the row locked
to its commit. So the committed version of a claimed row is `queued` right up to the commit
that makes it `claimed`, and between the commits of two claims of one job some commit has
set the row back to `queued`.
-/

set_option autoImplicit false

namespace JobScheduler

open Relational Transition ReadCommitted

namespace Sessions

/-- The committed row of the job is `queued`. -/
def Queued (s : Sessions) (id : UUID) : Prop :=
  ∃ row ∈ s.jobs.rows, row.id = id ∧ row.status = .queued

/-- A `ClaimJobs` that is about to commit and returns the job. -/
def Returns (s : Sessions) (tx : Nat) (id : UUID) : Prop :=
  ∃ session ∈ s.txs[tx]?, session.call.isClaim = true ∧ ∃ returned ∈ session.ready,
    ∃ job ∈ returned, job.id = id

instance (s : Sessions) (tx : Nat) (id : UUID) : Decidable (s.Returns tx id) :=
  inferInstanceAs (Decidable (∃ session ∈ s.txs[tx]?, _ ∧ ∃ returned ∈ session.ready,
    ∃ job ∈ returned, _))

/-- What an open `ClaimJobs` has rewritten: rows whose committed version is `queued` and
whose draft is `claimed`. -/
structure Claiming (s : Sessions) (tx : Nat) (session : Session) : Prop where
  rewritten : ∀ new ∈ session.point.rewritten, ∃ old, s.Locks tx old new ∧ new.id = old.id ∧
    old.status = .queued ∧ new.status = .claimed
  drafts : ∀ draft ∈ s.jobs.drafts, draft.tx = tx → ∃ job, draft.version = some job ∧
    job.status = .claimed

/-- Every open `ClaimJobs` is claiming. -/
structure Claims (s : Sessions) : Prop where
  orderly : s.Orderly
  claiming : ∀ tx session workerId queueId leaseSeconds, s.txs[tx]? = some session →
    session.call = .claimJobs workerId queueId leaseSeconds → session.point.ended = false →
    s.Claiming tx session

variable {s s' : Sessions} {a : SessionAction}

/-- An open `ClaimJobs` takes rows in their committed version, and only queued ones. -/
theorem Claiming.takes {tx : Nat} {session : Session} (claiming : s.Claiming tx session)
    {workerId queueId id : UUID} {leaseSeconds : Int} {job : Job}
    (call : session.call = .claimJobs workerId queueId leaseSeconds)
    (handled : s.jobs.handle Job.id (session.call.takes session.now) tx id = .takes job) :
    (∀ draft ∈ s.jobs.drafts, draft.tx = tx → draft.key ≠ id) ∧ job ∈ s.jobs.rows ∧
      job.id = id ∧ job.status = .queued := by
  obtain ⟨_, newest, selected⟩ := Versions.handle_takes handled
  rw [call] at selected
  have queued := (of_decide_eq_true selected : job.Claimable queueId session.now).2.1
  have free : ∀ draft ∈ s.jobs.drafts, draft.tx = tx → draft.key ≠ id := by
    -- the transaction's own version would be claimed
    intro draft member own same
    unfold Versions.newest at newest
    split at newest
    next draft' found =>
      obtain ⟨member', own', _⟩ := Versions.mem_of_draftOf found
      obtain ⟨job', version, claimed⟩ := claiming.drafts draft' member' own'
      rw [version] at newest
      cases newest
      rw [queued] at claimed
      cases claimed
    next missing =>
      have absent := List.find?_eq_none.mp missing draft member
      simp [own, same] at absent
  obtain ⟨member, same⟩ := Versions.committed_of_newest free newest
  exact ⟨free, member, same, queued⟩

/-- A step of another transaction does not disturb an open `ClaimJobs`. -/
theorem Claiming.kept {tx : Nat} {session : Session} (claiming : s.Claiming tx session)
    (aside : Bystander s s' tx) : s'.Claiming tx session where
  rewritten new member := by
    obtain ⟨row, ⟨rowMember, drafted⟩, facts⟩ := claiming.rewritten new member
    exact ⟨row, ⟨(aside.locked _ drafted rfl row rfl).mpr rowMember,
      (aside.drafts _ rfl).mpr drafted⟩, facts⟩
  drafts draft member own := claiming.drafts draft ((aside.drafts draft own).mp member) own

/-- An open `ClaimJobs` moves on or takes its next row. -/
theorem Claims.advances (inv : Claims s) {tx : Nat} {session session' : Session}
    {workerId queueId : UUID} {leaseSeconds : Int} (found : s.txs[tx]? = some session)
    (call : session.call = .claimJobs workerId queueId leaseSeconds)
    (advances : Advances s s' tx session session') (running' : session'.point.ended = false) :
    s'.Claiming tx session' := by
  cases advances with
  | moved change jobs =>
      have claiming := inv.claiming tx session _ _ _ found call change.running
      refine ⟨?_, ?_⟩
      · intro new member
        unfold Locks
        rw [jobs]
        exact claiming.rewritten new (change.rewritten ▸ member)
      · rw [jobs]
        exact claiming.drafts
  | wrote id rest room returned job before handled after jobs =>
      have claiming := inv.claiming tx session _ _ _ found call (by rw [before]; rfl)
      obtain ⟨free, member, same, queued⟩ := claiming.takes call handled
      refine ⟨?_, ?_⟩
      · intro new newMember
        unfold Locks
        rw [jobs]
        rw [after] at newMember
        rcases List.mem_append.mp newMember with old | last
        · -- the rows rewritten before have other keys
          have earlier : new ∈ session.point.rewritten := by
            rw [before]
            exact old
          obtain ⟨row, ⟨rowMember, drafted⟩, facts⟩ := claiming.rewritten new earlier
          refine ⟨row, ⟨rowMember, ?_⟩, facts⟩
          refine List.mem_cons_of_mem _ (List.mem_filter.mpr ⟨drafted, ?_⟩)
          have otherKey := free _ drafted rfl
          simpa using otherKey
        · rw [List.mem_singleton] at last
          subst last
          refine ⟨job, ⟨member, ?_⟩, StoreCall.sets_id _ _ _, queued, ?_⟩
          · rw [same]
            exact List.mem_cons_self
          · rw [call]
            rfl
      · intro draft draftMember own
        rw [jobs] at draftMember
        rcases Versions.cases_drafts_write draftMember with rfl | ⟨old, _⟩
        · refine ⟨_, rfl, ?_⟩
          rw [call]
          rfl
        · exact claiming.drafts draft old own
  | committed returned ready after =>
      rw [after] at running'
      cases running'
  | failed error running own after =>
      rw [after] at running'
      cases running'

/-- The open `ClaimJobs` after a step. -/
theorem claiming_step (moves : Moves s a s') (inv : Claims s) {tx : Nat} {session' : Session}
    {workerId queueId : UUID} {leaseSeconds : Int} (found' : s'.txs[tx]? = some session')
    (call' : session'.call = .claimJobs workerId queueId leaseSeconds)
    (running' : session'.point.ended = false) : s'.Claiming tx session' := by
  by_cases acts : a.actor? = some tx
  · obtain ⟨session, found, call, _, advances⟩ := cases_acting moves acts found'
    rw [call] at call'
    exact inv.advances found call' advances running'
  · have aside := bystander moves inv.orderly.sound acts
    rcases cases_other moves acts found' with found | ⟨begun, new⟩
    · exact (inv.claiming tx session' _ _ _ found call' running').kept aside
    · refine ⟨by simp [begun, SessionPoint.rewritten], ?_⟩
      intro draft member own
      exact absurd own
        (inv.orderly.attended.unbegun new draft ((aside.drafts draft own).mp member))

theorem claims_step (moves : Moves s a s') (inv : Claims s) : Claims s' where
  orderly := orderly_step moves inv.orderly
  claiming _ _ _ _ _ found' call' running' := claiming_step moves inv found' call' running'

/-- A job that a `ClaimJobs` returns: its committed version is queued, its draft claimed. -/
theorem Claims.returned (inv : Claims s) {tx : Nat} {id : UUID} (returns : s.Returns tx id) :
    ∃ old new, s.Locks tx old new ∧ old.id = id ∧ new.id = id ∧ old.status = .queued ∧
      new.status = .claimed := by
  obtain ⟨session, found, isClaim, returned, ready, job, member, rfl⟩ := returns
  obtain ⟨running, rewritten⟩ := rewritten_of_ready ready
  rw [← rewritten] at member
  cases call : session.call with
  | claimJobs workerId queueId leaseSeconds =>
      have claiming := inv.claiming tx session _ _ _ found call running
      obtain ⟨old, locks, same, queued, claimed⟩ :=
        claiming.rewritten job member
      exact ⟨old, job, locks, same.symm, rfl, queued, claimed⟩
  | _ =>
      rw [call] at isClaim
      cases isClaim

/-- The job a `ClaimJobs` returns is queued before the commit. -/
theorem Claims.queued_before (inv : Claims s) {tx : Nat} {id : UUID} (returns : s.Returns tx id) :
    s.Queued id := by
  obtain ⟨old, new, locks, oldId, _, queued, _⟩ := inv.returned returns
  exact ⟨old, locks.1, oldId, queued⟩

/-- The job a `ClaimJobs` returns is not queued after the commit. -/
theorem Claims.claimed_after (inv : Claims s) {tx : Nat} {id : UUID} (returns : s.Returns tx id)
    (taken : s.step (.commit tx) = some s') : ¬ s'.Queued id := by
  obtain ⟨old, new, locks, _, newId, _, claimed⟩ := inv.returned returns
  have sound' := sound_step (step_moves taken) inv.orderly.sound
  have after := published taken inv.orderly.sound locks.2
  rintro ⟨row, rowMember, rowId, queued⟩
  have eq := eq_of_key_eq sound'.keys rowMember after (rowId.trans newId.symm)
  rw [eq, claimed] at queued
  cases queued

end Sessions

theorem claims_throughout {trace : List (Sessions × SessionAction)} {s : Sessions}
    (run : Run sessions trace s) : Throughout Sessions.Claims trace s := by
  have anyway : Meets (fun _ _ => True) trace := fun _ _ => trivial
  refine run.throughout anyway ?_ ?_
  · intro s initial
    refine ⟨Sessions.orderly_initial initial, ?_⟩
    intro tx session _ _ _ found
    rw [initial.2.2.2.2] at found
    cases found
  · intro s a s' taken _ inv
    exact Sessions.claims_step (Sessions.step_moves taken) inv

/-- **Claims are disjoint.** If two `ClaimJobs` transactions commit and both return the same
job, then between the two commits some commit sets the job's row back to `queued`. -/
theorem claims_disjoint (later middle earlier : List (Sessions × SessionAction))
    (s₁ s₂ s : Sessions) (first second : Nat) (id : UUID)
    (run : Run sessions (later ++ (s₂, .commit second) :: (middle ++ (s₁, .commit first) :: earlier))
      s)
    (returns₁ : s₁.Returns first id) (returns₂ : s₂.Returns second id) :
    ∃ entry ∈ middle, ∃ tx s', entry.2 = .commit tx ∧ entry.1.step entry.2 = some s' ∧
      ¬ entry.1.Queued id ∧ s'.Queued id := by
  obtain ⟨s₃, run₃, _⟩ := Run.split sessions run
  cases run₃ with
  | next _ run₂ taken₂ =>
      obtain ⟨s₁', run₁', path⟩ := Run.split sessions run₂
      cases run₁' with
      | next _ run₁ taken₁ =>
          have after := (claims_throughout run₁).2.claimed_after returns₁ taken₁
          have before := (claims_throughout run₂).2.queued_before returns₂
          exact Sessions.exists_commit path
            (fun rows => ∃ row ∈ rows, row.id = id ∧ row.status = .queued) after before

/-! ## A job that is released and claimed again -/

/-- One queue with a queued job. -/
def oneQueued : Sessions where
  jobs := ⟨[Job.inserted 0 4 ⟨3, 0, .null, none, some 0, .queued, 3, none, none⟩], []⟩
  letters := ⟨[], []⟩
  queues := ⟨[⟨3, 2, "queue", "queue", none, 0, none, false, 0, 0⟩], []⟩
  projects := [⟨2, 1, "project", "project", none, 0, 0⟩]
  txs := []

/-- The statements of a `ClaimJobs` that takes one row. -/
def claimOne (tx : Nat) (workerId : UUID) (now : Timestamptz) : List SessionAction :=
  [.begin (.claimJobs workerId 3 30) now, .statement tx fun _ => 0, .row tx,
    .statement tx fun _ => 0, .row tx, .row tx, .commit tx]

/-- The statements of a call with a single `UPDATE` that takes one row. -/
def updateOne (tx : Nat) (call : StoreCall) (now : Timestamptz) : List SessionAction :=
  [.begin call now, .statement tx fun _ => 0, .row tx, .row tx, .commit tx]

theorem claims_disjoint_released :
    ∃ later middle earlier s₁ s₂ s,
      Run sessions (later ++ (s₂, .commit 2) :: (middle ++ (s₁, .commit 0) :: earlier)) s ∧
      ∃ entry ∈ middle, ∃ tx s', entry.2 = .commit tx ∧ entry.1.step entry.2 = some s' ∧
        ¬ entry.1.Queued 4 ∧ s'.Queued 4 := by
  obtain ⟨trace, s, run, check⟩ :=
    exists_run_of_execute sessions
      (claimOne 0 5 1 ++ updateOne 1 (.releaseJobs 5) 2 ++ claimOne 2 6 3) oneQueued
      (fun trace _ => (match trace with
        | last :: before => decide (last.2.commits? = some 2 ∧ last.1.Returns 2 4 ∧
            ∃ entry ∈ before, entry.2.commits? = some 0 ∧ entry.1.Returns 0 4)
        | [] => false) = true)
      ⟨by decide, rfl, rfl, rfl, rfl⟩ (by decide)
  match trace, run, check with
  | (s₂, a₂) :: before, run, check =>
      obtain ⟨commits₂, returns₂, ⟨s₁, a₁⟩, member, commits₁, returns₁⟩ := of_decide_eq_true check
      obtain ⟨middle, earlier, rfl⟩ := List.append_of_mem member
      have second := SessionAction.eq_commit commits₂
      have first := SessionAction.eq_commit commits₁
      dsimp only at second first
      subst second
      subst first
      exact ⟨[], middle, earlier, s₁, s₂, s, run,
        claims_disjoint [] middle earlier s₁ s₂ s 0 2 4 run returns₁ returns₂⟩

end JobScheduler
