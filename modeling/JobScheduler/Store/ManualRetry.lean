import JobScheduler.Store.Disjoint

/-!
# Manual retry and what happens between its check and its update

`RetryDLQJob` checks in a plain `SELECT` that the job is dead-lettered, deletes its dead
letter, and rewrites the row `WHERE id = $1`. The check locks nothing, so the row may be
rewritten and committed by others before the `UPDATE` takes it, and the `UPDATE` does not
look at the status again. As long as nobody commits the row in another status while a retry
is between its check and its `UPDATE`, the retries are what they should be.
-/

set_option autoImplicit false

namespace JobScheduler

open Relational Transition ReadCommitted

/-- The job a `RetryDLQJob` is about. -/
def StoreCall.retries? : StoreCall → Option UUID
  | .retryDLQJob id _ => some id
  | _ => none

/-- Past the check of `RetryDLQJob`, before its `UPDATE` has the row. -/
def SessionPoint.awaitsUpdate : SessionPoint → Bool
  | .checked | .deleting _ | .deleted | .updating _ _ [] => true
  | _ => false

namespace Sessions

/-- The committed row of the job is `dead_letter`. -/
def DeadLettered (s : Sessions) (id : UUID) : Prop :=
  ∃ row ∈ s.jobs.rows, row.id = id ∧ row.status = .deadLetter

instance (s : Sessions) (id : UUID) : Decidable (s.DeadLettered id) :=
  inferInstanceAs (Decidable (∃ row ∈ s.jobs.rows, _ ∧ _))

/-- A `RetryDLQJob` of the job that is about to commit. -/
def Retries (s : Sessions) (tx : Nat) (id : UUID) : Prop :=
  ∃ session ∈ s.txs[tx]?, session.call.retries? = some id ∧ session.ready.isSome = true

instance (s : Sessions) (tx : Nat) (id : UUID) : Decidable (s.Retries tx id) :=
  inferInstanceAs (Decidable (∃ session ∈ s.txs[tx]?, _ ∧ _))

/-- No commit takes a job out of `dead_letter` while a `RetryDLQJob` of the job is between
its check and its `UPDATE` of the row. -/
def Uninterrupted (s : Sessions) : SessionAction → Prop
  | .commit tx => ∀ session ∈ s.txs, ∀ id ∈ session.call.retries?,
      session.point.awaitsUpdate = true → ∀ draft ∈ s.jobs.drafts, draft.tx = tx →
        draft.key = id → ∃ job ∈ draft.version, job.status = .deadLetter
  | _ => True

instance (s : Sessions) (a : SessionAction) : Decidable (s.Uninterrupted a) :=
  match a with
  | .commit tx => inferInstanceAs (Decidable (∀ session ∈ s.txs, ∀ id ∈ session.call.retries?,
      session.point.awaitsUpdate = true → ∀ draft ∈ s.jobs.drafts, draft.tx = tx →
        draft.key = id → ∃ job ∈ draft.version, _))
  | .begin .. | .statement .. | .row _ | .rollback _ => inferInstanceAs (Decidable True)

/-- A `RetryDLQJob` ends with a commit or with `ErrNotFound`, unless it is cut off, and its
`UPDATE` finds the row. -/
def Answers : SessionPoint → Prop
  | .failed (some error) => error = .notFound
  | .updated [] => False
  | _ => True

/-- The transaction has changed nothing. -/
structure Untouched (trace : List (Sessions × SessionAction)) (s : Sessions) (tx : Nat) :
    Prop where
  commits : ∀ entry ∈ trace, ∀ s', entry.1.step entry.2 = some s' → entry.2.actor? = some tx →
    s'.jobs.rows = entry.1.jobs.rows ∧ s'.letters.rows = entry.1.letters.rows
  drafts : (∀ draft ∈ s.jobs.drafts, draft.tx ≠ tx) ∧ ∀ draft ∈ s.letters.drafts, draft.tx ≠ tx

end Sessions

/-- **Manual retries act on dead-lettered jobs only.** -/
structure RetriesSafely (trace : List (Sessions × SessionAction)) (s : Sessions) : Prop where
  /-- A retry that changes a row changes it from `dead_letter`. -/
  fromDeadLetter : ∀ entry ∈ trace, ∀ tx id, entry.2 = .commit tx → entry.1.Retries tx id →
    entry.1.DeadLettered id
  /-- Between two retries that succeed the job is dead-lettered again. -/
  once : ∀ later middle earlier s₁ s₂ first second id,
    trace = later ++ (s₂, .commit second) :: (middle ++ (s₁, .commit first) :: earlier) →
    s₁.Retries first id → s₂.Retries second id →
    ∃ entry ∈ middle, ∃ tx s', entry.2 = .commit tx ∧ entry.1.step entry.2 = some s' ∧
      ¬ entry.1.DeadLettered id ∧ s'.DeadLettered id
  /-- The others return `ErrNotFound`. -/
  others : ∀ session ∈ s.txs, session.call.retries?.isSome = true →
    Sessions.Answers session.point
  /-- And they change nothing. -/
  unchanged : ∀ tx session error, s.txs[tx]? = some session →
    session.point = .failed error → Sessions.Untouched trace s tx

/-! ## An open retry -/

namespace Sessions

/-- The transaction has locked no job. -/
def Unwritten (s : Sessions) (tx : Nat) : Prop :=
  ∀ draft ∈ s.jobs.drafts, draft.tx ≠ tx

/-- The transaction has the job's row locked and drafted `queued`. -/
def Requeues (s : Sessions) (tx : Nat) (id : UUID) : Prop :=
  ∃ new : Job, ⟨tx, id, some new⟩ ∈ s.jobs.drafts ∧ new.id = id ∧ new.status = .queued

/-- Where a `RetryDLQJob` can be, and what is known of the job there. -/
def Retrying (s : Sessions) (tx : Nat) (id : UUID) : SessionPoint → Prop
  | .begun => s.Unwritten tx
  | .checked | .deleting _ | .deleted => s.Unwritten tx ∧ s.DeadLettered id
  | .updating keys room [] => s.Unwritten tx ∧ s.DeadLettered id ∧ room = none ∧ id ∈ keys
  | .updating _ _ (_ :: _) | .updated (_ :: _) => s.Requeues tx id ∧ s.DeadLettered id
  | .committed _ => True
  | .failed (some error) => error = .notFound
  | .failed none => True
  | .locking _ | .budgeted _ | .updated [] | .filed _ => False

/-- The transactions are orderly, and the retries stand on dead-lettered jobs. -/
structure Guarded (s : Sessions) : Prop where
  orderly : s.Orderly
  retrying : ∀ tx session id, s.txs[tx]? = some session → session.call.retries? = some id →
    s.Retrying tx id session.point

variable {s s' : Sessions} {a : SessionAction} {tx : Nat} {id : UUID}

theorem retryDLQJob_of_retries {call : StoreCall} (retries : call.retries? = some id) :
    ∃ orgId, call = .retryDLQJob id orgId := by
  cases call with
  | retryDLQJob id' orgId =>
      cases retries
      exact ⟨orgId, rfl⟩
  | _ => cases retries

/-- The `UPDATE` of a retry selects the job's row and nothing else. -/
theorem takes_retries {call : StoreCall} (retries : call.retries? = some id) (now : Timestamptz)
    (job : Job) : (call.takes now).selects job = true ↔ job.id = id := by
  obtain ⟨orgId, rfl⟩ := retryDLQJob_of_retries retries
  exact decide_eq_true_iff

/-- The `UPDATE` of a retry skips nothing. -/
theorem waits_retries {call : StoreCall} (retries : call.retries? = some id)
    (now : Timestamptz) : (call.takes now).skipLocked = false := by
  obtain ⟨orgId, rfl⟩ := retryDLQJob_of_retries retries
  rfl

/-- The snapshot of the `UPDATE` has the dead-lettered row. -/
theorem mem_scan_of_deadLettered (sound : s.jobs.Sound Job.id) (unwritten : s.Unwritten tx)
    (dead : s.DeadLettered id) {call : StoreCall} (retries : call.retries? = some id)
    (now : Timestamptz) (rank : UUID → Nat) :
    id ∈ call.scan now rank (s.jobs.seenBy Job.id tx) := by
  obtain ⟨row, member, rfl, _⟩ := dead
  have seen : row ∈ s.jobs.seenBy Job.id tx :=
    sound.mem_seenBy.mpr (.inl ⟨member, fun draft drafted own => absurd own
      (unwritten draft drafted)⟩)
  have selected := (takes_retries retries now row).mpr rfl
  obtain ⟨orgId, rfl⟩ := retryDLQJob_of_retries retries
  refine List.mem_map.mpr ⟨row, ?_, rfl⟩
  rw [(arrange_perm _ _).mem_iff]
  exact List.mem_filter.mpr ⟨seen, selected⟩

/-- The `UPDATE` of a retry does not pass over the dead-lettered row. -/
theorem handle_ne_passed (sound : s.jobs.Sound Job.id) (unwritten : s.Unwritten tx)
    (dead : s.DeadLettered id) {call : StoreCall} (retries : call.retries? = some id)
    (now : Timestamptz) : s.jobs.handle Job.id (call.takes now) tx id ≠ .passed := by
  obtain ⟨row, member, rfl, _⟩ := dead
  have newest : s.jobs.newest Job.id tx row.id = some row := by
    rw [Versions.newest, Versions.draftOf_eq_none
      (fun draft drafted own => absurd own (unwritten draft drafted))]
    exact find?_key_eq sound.keys member
  intro passed
  simp only [Versions.handle, newest, waits_retries retries now,
    (takes_retries retries now row).mpr rfl] at passed
  split at passed
  · cases passed
  · cases passed

/-! ## Steps of the others -/

theorem Unwritten.kept (unwritten : s.Unwritten tx) (aside : Bystander s s' tx) :
    s'.Unwritten tx := by
  intro draft member own
  exact unwritten draft ((aside.drafts draft own).mp member) own

theorem Requeues.kept (requeues : s.Requeues tx id) (aside : Bystander s s' tx) :
    s'.Requeues tx id := by
  obtain ⟨new, drafted, facts⟩ := requeues
  exact ⟨new, (aside.drafts _ rfl).mpr drafted, facts⟩

/-- A dead-lettered job that a retry has locked stays so. -/
theorem DeadLettered.locked (dead : s.DeadLettered id) (requeues : s.Requeues tx id)
    (aside : Bystander s s' tx) : s'.DeadLettered id := by
  obtain ⟨row, member, same, status⟩ := dead
  obtain ⟨new, drafted, _⟩ := requeues
  exact ⟨row, (aside.locked _ drafted rfl row same).mpr member, same, status⟩

/-- A dead-lettered job stays so when no commit takes it out of `dead_letter`. -/
theorem DeadLettered.spared (dead : s.DeadLettered id) (sound : s.jobs.Sound Job.id)
    (moves : Moves s a s') (spares : ∀ acting, a = .commit acting → ∀ draft ∈ s.jobs.drafts,
      draft.tx = acting → draft.key = id → ∃ job ∈ draft.version, job.status = .deadLetter) :
    s'.DeadLettered id := by
  obtain ⟨row, member, same, status⟩ := dead
  cases moves with
  | committed acting =>
      by_cases locked : ∃ draft ∈ s.jobs.drafts, draft.tx = acting ∧ draft.key = id
      · obtain ⟨draft, drafted, own, key⟩ := locked
        obtain ⟨job, version, dead⟩ := spares acting rfl draft drafted own key
        refine ⟨job, sound.mem_publish_of_draft drafted own version, ?_, dead⟩
        rw [sound.versions draft drafted job version, key]
      · refine ⟨row, sound.mem_publish_of_free ?_ member, same, status⟩
        intro draft drafted own key
        exact locked ⟨draft, drafted, own, key.trans same⟩
  | began | moved | wrote | failed => exact ⟨row, member, same, status⟩

/-- A retry that does not take the step keeps its ground. -/
theorem Retrying.kept {point : SessionPoint} (retrying : s.Retrying tx id point)
    (aside : Bystander s s' tx)
    (dead : point.awaitsUpdate = true → s.DeadLettered id → s'.DeadLettered id) :
    s'.Retrying tx id point := by
  cases point with
  | begun => exact Unwritten.kept retrying aside
  | checked | deleting | deleted => exact ⟨retrying.1.kept aside, dead rfl retrying.2⟩
  | updating keys room returned =>
      cases returned with
      | nil =>
          obtain ⟨unwritten, deadLettered, rest⟩ := retrying
          exact ⟨unwritten.kept aside, dead rfl deadLettered, rest⟩
      | cons =>
          obtain ⟨requeues, deadLettered⟩ := retrying
          exact ⟨requeues.kept aside, deadLettered.locked requeues aside⟩
  | updated returned =>
      cases returned with
      | nil => cases retrying
      | cons =>
          obtain ⟨requeues, deadLettered⟩ := retrying
          exact ⟨requeues.kept aside, deadLettered.locked requeues aside⟩
  | committed => trivial
  | failed error =>
      cases error with
      | none => trivial
      | some => exact retrying
  | locking | budgeted | filed => cases retrying

/-! ## Its own steps -/

/-- A retry that leaves the jobs alone. -/
theorem Retrying.moved {session : Session} {point : SessionPoint} (sound : s.jobs.Sound Job.id)
    (retries : session.call.retries? = some id) (retrying : s.Retrying tx id session.point)
    (change : PointStep s tx session point) : s.Retrying tx id point := by
  obtain ⟨orgId, call⟩ := retryDLQJob_of_retries retries
  cases change with
  | counted _ claims | budgeted _ claims | scannedBudgeted _ claims | filed _ claims =>
      rw [call] at claims
      cases claims
  | scannedAtOnce _ other => exact absurd call (other id orgId)
  | checked before checks found =>
      rw [before] at retrying
      rw [call] at checks
      cases checks
      obtain ⟨job, member, same, status, _⟩ := found
      exact ⟨retrying, job, member, same, status⟩
  | deletes before | deletesNext before | deleted before =>
      rw [before] at retrying
      exact retrying
  | scannedDeleted before =>
      rw [before] at retrying
      obtain ⟨unwritten, dead⟩ := retrying
      exact ⟨unwritten, dead, rfl, mem_scan_of_deadLettered sound unwritten dead retries _ _⟩
  | @passed key rest room returned before handled =>
      rw [before] at retrying
      cases returned with
      | nil =>
          obtain ⟨unwritten, dead, unlimited, member⟩ := retrying
          refine ⟨unwritten, dead, unlimited, ?_⟩
          rcases List.mem_cons.mp member with rfl | member
          · exact absurd handled (handle_ne_passed sound unwritten dead retries _)
          · exact member
      | cons => exact retrying
  | @updated keys room returned before spent =>
      rw [before] at retrying
      cases returned with
      | nil =>
          -- the row is still to come and the number of rows is not limited
          obtain ⟨_, _, unlimited, member⟩ := retrying
          rcases spent with rfl | limited
          · cases member
          · rw [unlimited] at limited
            cases limited
      | cons => exact retrying

/-- A retry takes the row in its committed version. -/
theorem Retrying.wrote {session session' : Session} {key : UUID} {rest : List UUID}
    {room : Option Nat} {returned : List Job} {job : Job} (sound : s.jobs.Sound Job.id)
    (retries : session.call.retries? = some id) (retrying : s.Retrying tx id session.point)
    (before : session.point = .updating (key :: rest) room returned)
    (handled : s.jobs.handle Job.id (session.call.takes session.now) tx key = .takes job)
    (after : session'.point = .updating rest (room.map (· - 1))
      (returned ++ [session.call.sets session.now job]))
    (jobs : s'.jobs = s.jobs.write tx key (some (session.call.sets session.now job))) :
    s'.Retrying tx id session'.point := by
  obtain ⟨_, _, selected, same⟩ := takes_spec sound handled
  have about := (takes_retries retries _ job).mp selected
  have requeues : s'.Requeues tx id := by
    refine ⟨session.call.sets session.now job, ?_, ?_, ?_⟩
    · rw [jobs, ← about, same]
      exact List.mem_cons_self
    · rw [StoreCall.sets_id, about]
    · obtain ⟨orgId, call⟩ := retryDLQJob_of_retries retries
      rw [call]
      rfl
  have dead : s.DeadLettered id := by
    rw [before] at retrying
    cases returned with
    | nil => exact retrying.2.1
    | cons => exact retrying.2
  have dead' : s'.DeadLettered id := by
    unfold DeadLettered
    rw [jobs]
    exact dead
  rw [after]
  cases returned with
  | nil => exact ⟨requeues, dead'⟩
  | cons => exact ⟨requeues, dead'⟩

theorem Retrying.advances {session session' : Session} (sound : s.jobs.Sound Job.id)
    (retries : session.call.retries? = some id) (retrying : s.Retrying tx id session.point)
    (advances : Advances s s' tx session session') : s'.Retrying tx id session'.point := by
  cases advances with
  | moved change jobs =>
      have after := retrying.moved sound retries change
      have aside : Bystander s s' tx := by
        refine ⟨?_, ?_⟩
        · rw [jobs]
          exact fun _ _ => Iff.rfl
        · rw [jobs]
          exact fun _ _ _ _ _ => Iff.rfl
      refine after.kept aside ?_
      unfold DeadLettered
      rw [jobs]
      exact fun _ dead => dead
  | wrote key rest room returned job before handled after jobs =>
      exact retrying.wrote sound retries before handled after jobs
  | committed returned ready after =>
      rw [after]
      trivial
  | failed error running own after =>
      rw [after]
      obtain ⟨orgId, call⟩ := retryDLQJob_of_retries retries
      cases error with
      | none => trivial
      | some e => exact own id orgId e call rfl

/-- **The retries stay on dead-lettered jobs.** -/
theorem guarded_step (moves : Moves s a s') (uninterrupted : s.Uninterrupted a)
    (inv : Guarded s) : Guarded s' := by
  refine ⟨orderly_step moves inv.orderly, ?_⟩
  intro tx session' id found' retries
  by_cases acts : a.actor? = some tx
  · obtain ⟨session, found, call, _, advances⟩ := cases_acting moves acts found'
    rw [call] at retries
    exact (inv.retrying tx session id found retries).advances inv.orderly.sound retries advances
  · have aside := bystander moves inv.orderly.sound acts
    rcases cases_other moves acts found' with found | ⟨begun, new⟩
    · refine (inv.retrying tx session' id found retries).kept aside ?_
      intro awaits dead
      refine dead.spared inv.orderly.sound moves ?_
      rintro acting rfl
      exact uninterrupted session' (List.mem_of_getElem? found) id retries awaits
    · rw [begun]
      have unwritten : s.Unwritten tx := inv.orderly.attended.unbegun new
      exact unwritten.kept aside

/-- A retry that is about to commit: the job is dead-lettered and drafted `queued`. -/
theorem Guarded.retries (inv : Guarded s) (retries : s.Retries tx id) :
    s.Requeues tx id ∧ s.DeadLettered id := by
  obtain ⟨session, found, about, ready⟩ := retries
  have retrying := inv.retrying tx session id found about
  obtain ⟨orgId, call⟩ := retryDLQJob_of_retries about
  unfold Session.ready at ready
  rw [call] at ready
  cases point : session.point with
  | updated returned =>
      rw [point] at retrying
      cases returned with
      | nil => cases retrying
      | cons => exact retrying
  | _ =>
      rw [point] at ready
      cases ready

/-- After a retry has committed the job is not dead-lettered. -/
theorem Guarded.requeued (inv : Guarded s) (retries : s.Retries tx id)
    (taken : s.step (.commit tx) = some s') : ¬ s'.DeadLettered id := by
  obtain ⟨⟨new, drafted, newId, queued⟩, _⟩ := inv.retries retries
  have sound' := sound_step (step_moves taken) inv.orderly.sound
  have after := published taken inv.orderly.sound drafted
  rintro ⟨row, member, same, dead⟩
  have eq := eq_of_key_eq sound'.keys member after (same.trans newId.symm)
  rw [eq, queued] at dead
  cases dead

/-! ## Runs -/

/-- A transaction that has ended stays where it is. -/
theorem ended_stays (moves : Moves s a s') {session : Session}
    (found : s.txs[tx]? = some session) (ended : session.point.ended = true) :
    s'.txs[tx]? = some session := by
  have kept : ∀ acting session₀ point, s.txs[acting]? = some session₀ →
      session₀.point.ended = false → (s.put acting session₀ point).txs[tx]? = some session := by
    intro acting session₀ point found₀ running
    have other : acting ≠ tx := by
      rintro rfl
      rw [found] at found₀
      cases found₀
      rw [ended] at running
      cases running
    simpa [put, List.getElem?_set_ne other] using found
  cases moves with
  | began => simpa [List.getElem?_append_left (List.getElem?_eq_some_iff.mp found).1] using found
  | moved acting session₀ point _ _ found₀ change =>
      exact kept acting session₀ point found₀ change.running
  | wrote acting session₀ _ _ _ _ _ found₀ before =>
      exact kept acting session₀ _ found₀ (by rw [before]; rfl)
  | committed acting session₀ _ found₀ ready =>
      exact kept acting session₀ _ found₀ (rewritten_of_ready ready).1
  | failed acting session₀ _ found₀ running => exact kept acting session₀ _ found₀ running

/-- A transaction whose commit is in the trace has committed. -/
theorem committed_of_commit {trace : List (Sessions × SessionAction)}
    (run : Run sessions trace s) {before : Sessions} (member : (before, .commit tx) ∈ trace) :
    ∃ session returned, s.txs[tx]? = some session ∧ session.point = .committed returned := by
  induction run with
  | start => cases member
  | next a run taken ih =>
      have moves := step_moves taken
      rcases List.mem_cons.mp member with same | member
      · cases same
        cases moves with
        | moved _ _ _ _ _ _ _ _ _ acts => simp at acts
        | failed _ _ _ _ _ _ acts => simp at acts
        | committed _ session returned found =>
            exact ⟨_, returned,
              List.getElem?_set_self (List.getElem?_eq_some_iff.mp found).1, rfl⟩
      · obtain ⟨session, returned, found, committed⟩ := ih member
        exact ⟨session, returned, ended_stays moves found (by rw [committed]; rfl), committed⟩

/-- A transaction that has failed has changed nothing. -/
theorem untouched_of_failed {trace : List (Sessions × SessionAction)}
    (run : Run sessions trace s) (orderly : s.Orderly) {session : Session}
    {error : Option StoreError} (found : s.txs[tx]? = some session)
    (failed : session.point = .failed error) : Untouched trace s tx := by
  have ended : ∀ (session' : Session), s.txs[tx]? = some session' →
      session'.point.ended = true := by
    intro session' found'
    rw [found] at found'
    cases found'
    rw [failed]
    rfl
  refine ⟨?_, ?_, ?_⟩
  · rintro ⟨before, a⟩ member s' taken acts
    refine rows_kept (step_moves taken) ?_
    rintro other rfl
    cases acts
    obtain ⟨session', returned, found', committed⟩ := committed_of_commit run member
    rw [found] at found'
    cases found'
    rw [failed] at committed
    cases committed
  · rintro draft member rfl
    obtain ⟨session', found', running⟩ := orderly.attended.jobs draft member
    rw [ended session' found'] at running
    cases running
  · rintro draft member rfl
    obtain ⟨session', found', running⟩ := orderly.attended.letters draft member
    rw [ended session' found'] at running
    cases running

theorem Retrying.answers {point : SessionPoint} (retrying : s.Retrying tx id point) :
    Answers point := by
  cases point with
  | updated returned =>
      cases returned with
      | nil => cases retrying
      | cons => trivial
  | failed error =>
      cases error with
      | none => trivial
      | some => exact retrying
  | _ => trivial

end Sessions

theorem guarded_throughout {trace : List (Sessions × SessionAction)} {s : Sessions}
    (run : Run sessions trace s) (meets : Meets Sessions.Uninterrupted trace) :
    Throughout Sessions.Guarded trace s := by
  refine run.throughout meets ?_ ?_
  · intro s initial
    refine ⟨Sessions.orderly_initial initial, ?_⟩
    intro tx session id found
    rw [initial.2.2.2.2] at found
    cases found
  · intro s a s' taken uninterrupted inv
    exact Sessions.guarded_step (Sessions.step_moves taken) uninterrupted inv

/-- One queue with a dead-lettered job. -/
def oneDeadLettered : Sessions where
  jobs := ⟨oneQueued.jobs.rows.map (Job.deadLetter 1 "boom" 3), []⟩
  letters := ⟨oneQueued.jobs.rows.map fun job => ⟨7, job.deadLetterEntry 1 "boom" 3⟩, []⟩
  queues := oneQueued.queues
  projects := oneQueued.projects
  txs := []

/-- The check of a `RetryDLQJob`. -/
def retryChecks (tx : Nat) (now : Timestamptz) : List SessionAction :=
  [.begin (.retryDLQJob 4 1) now, .statement tx fun _ => 0]

/-- Its other statements, with so many dead letters to delete. -/
def retryWrites (tx letters : Nat) : List SessionAction :=
  .statement tx (fun _ => 0) :: List.replicate letters (.row tx) ++
    [.row tx, .statement tx fun _ => 0, .row tx, .row tx, .commit tx]

end JobScheduler
