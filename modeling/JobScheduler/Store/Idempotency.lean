import JobScheduler.Store.Submissions

/-!
# Idempotent submission

Every row that is committed or about to be has its own entry in the index on
`(queue_id, idempotency_key)`: an `INSERT` waits for the conflicting rows of others and does
nothing beside a conflicting row it sees. So a key has one row, and every call with that key
returns it. Only the call that inserted the row reports it as created, and it counts once its
transaction has committed.
-/

set_option autoImplicit false

namespace JobScheduler

open Relational Transition

/-- What the calls of `Create` with this queue and key returned in committed transactions. -/
def Submissions.reports (s : Submissions) (queueId : UUID) (key : String) :
    List CreateJobResult :=
  s.txs.flatMap fun submission =>
    if submission.point = .committed then
      (submission.results.filter fun call =>
        call.1.queueId = queueId ∧ call.1.idempotencyKey = some key).map (·.2)
    else []

/-- **Submissions are idempotent.** -/
structure Idempotent (start s : Submissions) : Prop where
  /-- No two committed jobs share a queue and a key. -/
  unique : (s.jobs.filterMap Job.indexKey).Nodup
  /-- A call returns a job with its queue and key. -/
  returned : ∀ queueId key, ∀ result ∈ s.reports queueId key,
    result.job.queueId = queueId ∧ result.job.idempotencyKey = some key
  /-- All calls with one queue and key return the same job. -/
  same : ∀ queueId key, ∀ first ∈ s.reports queueId key, ∀ second ∈ s.reports queueId key,
    first.job.id = second.job.id
  /-- One of them has created it, unless it was there at the start. -/
  created : ∀ queueId key, s.reports queueId key ≠ [] →
    (s.reports queueId key).countP (·.created) =
      if ∃ job ∈ start.jobs, job.queueId = queueId ∧ job.idempotencyKey = some key then 0 else 1

/-- The index entries of the jobs a transaction reports as created. -/
def Submission.created (submission : Submission) : List (UUID × String) :=
  submission.results.filterMap fun call => if call.2.created then call.2.job.indexKey else none

/-- The same once the transaction has committed. -/
def Submission.published (submission : Submission) : List (UUID × String) :=
  if submission.point = .committed then submission.created else []

theorem CreateJobInput.conflicts_iff {input : CreateJobInput} {job : Job} :
    input.Conflicts job ↔ ∃ entry, job.indexKey = some entry ∧ input.indexKey = some entry := by
  simp only [Conflicts, Job.indexKey, CreateJobInput.indexKey, Option.map_eq_some_iff]
  constructor
  · rintro ⟨queue, keyed, same⟩
    obtain ⟨key, found⟩ := Option.isSome_iff_exists.mp keyed
    exact ⟨(job.queueId, key), ⟨key, found, rfl⟩, key, same ▸ found, by rw [queue]⟩
  · rintro ⟨entry, ⟨key, found, rfl⟩, key', found', same⟩
    rw [Prod.mk.injEq] at same
    refine ⟨same.1.symm, by rw [found]; rfl, ?_⟩
    rw [found, found', same.2]

theorem Submission.published_eq_nil {submission : Submission}
    (running : submission.point.ended = false) : submission.published = [] := by
  refine if_neg ?_
  intro committed
  rw [committed] at running
  cases running

namespace Submissions

/-! ## The tally of created jobs -/

/-- Each index entry belongs to one row, committed or not. The results of a transaction that
has not failed are rows it sees. The jobs an open transaction reports as created are its own
rows, and those that committed ones report are the jobs that were not there at the start. -/
structure Tallied (start s : Submissions) : Prop where
  index : ((s.jobs ++ s.pending.map (·.2)).filterMap Job.indexKey).Nodup
  attended : ∀ row ∈ s.pending, ∃ submission, s.txs[row.1]? = some submission ∧
    submission.point.ended = false
  results : ∀ tx submission, s.txs[tx]? = some submission →
    (∀ error, submission.point ≠ .failed error) → ∀ call ∈ submission.results,
      call.2.job.indexKey = call.1.indexKey ∧ call.2.job ∈ s.seenBy tx
  created : ∀ tx submission, s.txs[tx]? = some submission → submission.point.ended = false →
    submission.created = (s.own tx).filterMap Job.indexKey
  total : (s.jobs.filterMap Job.indexKey).Perm
    (start.jobs.filterMap Job.indexKey ++ s.txs.flatMap Submission.published)

variable {start s s' : Submissions} {tx acting : Nat}

/-- The transactions after one of them is moved. -/
theorem cases_put {moved submission : Submission}
    (after : (s.put acting moved).txs[tx]? = some submission) :
    tx = acting ∧ submission = moved ∨ tx ≠ acting ∧ s.txs[tx]? = some submission := by
  simp only [put] at after
  by_cases same : tx = acting
  · subst same
    rw [List.getElem?_set_self'] at after
    obtain ⟨_, _, rfl⟩ := Option.map_eq_some_iff.mp after
    exact .inl ⟨rfl, rfl⟩
  · rw [List.getElem?_set_ne (Ne.symm same)] at after
    exact .inr ⟨same, after⟩

/-- The transactions after a new one begins. -/
theorem cases_began {new submission : Submission}
    (after : (s.txs ++ [new])[tx]? = some submission) :
    s.txs[tx]? = some submission ∨ submission = new ∧ s.txs.length ≤ tx := by
  rw [List.getElem?_append] at after
  split at after
  · exact .inl after
  next outside =>
    exact .inr ⟨List.mem_singleton.mp (List.mem_of_getElem? after), Nat.not_lt.mp outside⟩

/-- Another transaction's rows stay when one ends. -/
theorem own_release (pending : s'.pending = s.pending.filter (·.1 ≠ acting))
    (other : tx ≠ acting) : s'.own tx = s.own tx := by
  simp only [own, pending, List.filter_filter]
  congr 1
  refine List.filter_congr ?_
  intro row member
  by_cases mine : row.1 = tx
  · simp [mine, other]
  · simp [mine]

theorem own_insert {job : Job} (pending : s'.pending = s.pending ++ [(acting, job)])
    (other : tx ≠ acting) : s'.own tx = s.own tx := by
  simp [own, pending, List.filter_append, Ne.symm other]

theorem own_inserted {job : Job} (pending : s'.pending = s.pending ++ [(acting, job)]) :
    s'.own acting = s.own acting ++ [job] := by
  simp [own, pending, List.filter_append]

/-- The rows a transaction sees stay visible to it as long as it does not fail. -/
theorem seenBy_mono (moves : Moves s s') {submission' : Submission}
    (found' : s'.txs[tx]? = some submission')
    (alive : ∀ error, submission'.point ≠ .failed error) {job : Job} (seen : job ∈ s.seenBy tx) :
    job ∈ s'.seenBy tx := by
  cases moves with
  | began | conflicted | fetched => exact seen
  | inserted acting submission input rest id found before free =>
      rcases List.mem_append.mp seen with committed | own
      · exact List.mem_append_left _ committed
      · exact List.mem_append_right _ (mem_own.mpr (List.mem_append_left _ (mem_own.mp own)))
  | committed acting submission found before =>
      by_cases mine : tx = acting
      · subst mine
        exact List.mem_append_left _ seen
      · rcases List.mem_append.mp seen with committed | own
        · exact List.mem_append_left _ (List.mem_append_left _ committed)
        · refine List.mem_append_right _ ?_
          rw [own_release rfl mine]
          exact own
  | failed acting submission error found running =>
      rcases cases_put found' with ⟨rfl, rfl⟩ | ⟨other, _⟩
      · exact absurd rfl (alive error)
      · rcases List.mem_append.mp seen with committed | own
        · exact List.mem_append_left _ committed
        · refine List.mem_append_right _ ?_
          rw [own_release rfl other]
          exact own

/-- The new row of an `INSERT` has an index entry of its own. -/
theorem Tallied.index_inserted (inv : Tallied start s) {input : CreateJobInput} {job : Job}
    (entry : job.indexKey = input.indexKey)
    (free : ∀ job ∈ s.jobs ++ s.pending.map (·.2), ¬ input.Conflicts job) :
    ((s.jobs ++ (s.pending ++ [(acting, job)]).map (·.2)).filterMap Job.indexKey).Nodup := by
  rw [List.map_append, ← List.append_assoc, List.filterMap_append, List.nodup_append]
  refine ⟨inv.index, ?_, ?_⟩
  · cases own : job.indexKey with
    | none => simp [own]
    | some value => simp [own]
  · intro first firstMember second secondMember same
    subst same
    obtain ⟨old, oldMember, oldEntry⟩ := List.mem_filterMap.mp firstMember
    obtain ⟨new, newMember, newEntry⟩ := List.mem_filterMap.mp secondMember
    rw [List.map_singleton, List.mem_singleton] at newMember
    subst newMember
    rw [entry] at newEntry
    exact free old oldMember (CreateJobInput.conflicts_iff.mpr ⟨first, oldEntry, newEntry⟩)

/-- The rows of all transactions before and after a commit. -/
theorem finish_perm (tx : Nat) :
    (s.seenBy tx ++ (s.pending.filter (·.1 ≠ tx)).map (·.2)).Perm
      (s.jobs ++ s.pending.map (·.2)) := by
  rw [seenBy, own, List.append_assoc, ← List.map_append]
  refine List.Perm.append_left _ (List.Perm.map _ ?_)
  have split := List.filter_append_perm (fun row : Nat × Job => decide (row.1 = tx)) s.pending
  simpa using split

theorem index_step (moves : Moves s s') (inv : Tallied start s) :
    ((s'.jobs ++ s'.pending.map (·.2)).filterMap Job.indexKey).Nodup := by
  cases moves with
  | began | conflicted | fetched => exact inv.index
  | inserted acting submission input rest id found before free =>
      exact inv.index_inserted rfl free
  | committed acting submission found before =>
      exact ((finish_perm acting).filterMap _).nodup_iff.mpr inv.index
  | failed acting submission error found running =>
      refine inv.index.sublist (List.Sublist.filterMap _ ?_)
      exact (List.filter_sublist.map _).append_left _

/-- An open transaction stays open when another one is moved, or it moves on itself. -/
theorem open_put {moved submission : Submission} (found : s.txs[tx]? = some submission)
    (running : submission.point.ended = false)
    (continues : tx = acting → moved.point.ended = false) :
    ∃ submission', (s.put acting moved).txs[tx]? = some submission' ∧
      submission'.point.ended = false := by
  by_cases same : tx = acting
  · subst same
    exact ⟨moved, List.getElem?_set_self (List.getElem?_eq_some_iff.mp found).1, continues rfl⟩
  · exact ⟨submission, by simpa [put, List.getElem?_set_ne (Ne.symm same)] using found, running⟩

theorem attended_step (moves : Moves s s') (inv : Tallied start s) :
    ∀ row ∈ s'.pending, ∃ submission, s'.txs[row.1]? = some submission ∧
      submission.point.ended = false := by
  intro row member
  cases moves with
  | began now inputs =>
      obtain ⟨submission, found, running⟩ := inv.attended row member
      refine ⟨submission, ?_, running⟩
      rw [List.getElem?_append_left (List.getElem?_eq_some_iff.mp found).1]
      exact found
  | conflicted acting submission | fetched acting submission =>
      obtain ⟨submission, found, running⟩ := inv.attended row member
      exact open_put found running fun _ => rfl
  | inserted acting submission input rest id found before free =>
      rcases List.mem_append.mp member with old | new
      · obtain ⟨submission, found, running⟩ := inv.attended row old
        exact open_put found running fun _ => rfl
      · rw [List.mem_singleton] at new
        subst new
        exact open_put found (by rw [before]; rfl) fun _ => rfl
  | committed acting submission | failed acting submission =>
      obtain ⟨old, other⟩ := List.mem_filter.mp member
      obtain ⟨submission, found, running⟩ := inv.attended row old
      exact open_put found running fun same => absurd same (of_decide_eq_true other)

/-- A transaction that has not begun has no rows. -/
theorem Tallied.own_unbegun (inv : Tallied start s) (new : s.txs.length ≤ tx) : s.own tx = [] := by
  refine List.eq_nil_iff_forall_not_mem.mpr ?_
  intro job member
  obtain ⟨_, found, _⟩ := inv.attended (tx, job) (mem_own.mp member)
  have old := (List.getElem?_eq_some_iff.mp found).1
  omega

theorem results_step (moves : Moves s s') (inv : Tallied start s) {submission' : Submission}
    (found' : s'.txs[tx]? = some submission')
    (alive : ∀ error, submission'.point ≠ .failed error) :
    ∀ call ∈ submission'.results,
      call.2.job.indexKey = call.1.indexKey ∧ call.2.job ∈ s'.seenBy tx := by
  intro call member
  have kept : ∀ submission, s.txs[tx]? = some submission →
      (∀ error, submission.point ≠ .failed error) → call ∈ submission.results →
      call.2.job.indexKey = call.1.indexKey ∧ call.2.job ∈ s'.seenBy tx := by
    intro submission found alive' listed
    obtain ⟨entry, seen⟩ := inv.results tx submission found alive' call listed
    exact ⟨entry, seenBy_mono moves found' alive seen⟩
  cases moves with
  | began now inputs =>
      rcases cases_began found' with found | ⟨rfl, _⟩
      · exact kept submission' found alive member
      · cases member
  | inserted acting submission input rest id found before free =>
      rcases cases_put found' with ⟨rfl, rfl⟩ | ⟨_, found⟩
      · rcases List.mem_append.mp member with old | new
        · exact kept submission found (by rw [before]; simp) old
        · rw [List.mem_singleton] at new
          subst new
          refine ⟨rfl, List.mem_append_right _ (mem_own.mpr ?_)⟩
          exact List.mem_append_right _ List.mem_cons_self
      · exact kept submission' found alive member
  | conflicted acting submission found before =>
      rcases cases_put found' with ⟨rfl, rfl⟩ | ⟨_, found⟩
      · exact kept submission found (by rw [before]; simp) member
      · exact kept submission' found alive member
  | fetched acting submission input rest existing found before seen conflicts =>
      rcases cases_put found' with ⟨rfl, rfl⟩ | ⟨_, found⟩
      · rcases List.mem_append.mp member with old | new
        · exact kept submission found (by rw [before]; simp) old
        · rw [List.mem_singleton] at new
          subst new
          obtain ⟨entry, jobEntry, inputEntry⟩ := CreateJobInput.conflicts_iff.mp conflicts
          exact ⟨jobEntry.trans inputEntry.symm, seen⟩
      · exact kept submission' found alive member
  | committed acting submission found before =>
      rcases cases_put found' with ⟨rfl, rfl⟩ | ⟨_, found⟩
      · exact kept submission found (by rw [before]; simp) member
      · exact kept submission' found alive member
  | failed acting submission error found running =>
      rcases cases_put found' with ⟨rfl, rfl⟩ | ⟨_, found⟩
      · exact absurd rfl (alive error)
      · exact kept submission' found alive member

theorem created_step (moves : Moves s s') (inv : Tallied start s) {submission' : Submission}
    (found' : s'.txs[tx]? = some submission') (running' : submission'.point.ended = false) :
    submission'.created = (s'.own tx).filterMap Job.indexKey := by
  cases moves with
  | began now inputs =>
      rcases cases_began found' with found | ⟨rfl, new⟩
      · exact inv.created tx submission' found running'
      · have none : own { s with txs := s.txs ++ [⟨now, inputs, [], .inserting⟩] } tx = [] :=
          inv.own_unbegun new
        rw [none]
        rfl
  | inserted acting submission input rest id found before free =>
      rcases cases_put found' with ⟨rfl, rfl⟩ | ⟨other, found⟩
      · have earlier := inv.created tx submission found (by rw [before]; rfl)
        rw [own_inserted rfl, List.filterMap_append, ← earlier]
        simp only [Submission.created, answer, List.filterMap_append]
        rfl
      · rw [own_insert rfl other]
        exact inv.created tx submission' found running'
  | conflicted acting submission found before =>
      rcases cases_put found' with ⟨rfl, rfl⟩ | ⟨_, found⟩
      · exact inv.created tx submission found (by rw [before]; rfl)
      · exact inv.created tx submission' found running'
  | fetched acting submission input rest existing found before =>
      rcases cases_put found' with ⟨rfl, rfl⟩ | ⟨_, found⟩
      · have unchanged : (answer submission input rest ⟨existing, false⟩).created =
            submission.created := by
          simp [Submission.created, answer]
        rw [unchanged]
        exact inv.created tx submission found (by rw [before]; rfl)
      · exact inv.created tx submission' found running'
  | committed acting submission found before | failed acting submission error found running =>
      rcases cases_put found' with ⟨rfl, rfl⟩ | ⟨other, found⟩
      · cases running'
      · rw [own_release rfl other]
        exact inv.created tx submission' found running'

/-- The published entries stay when an open transaction moves on or fails. -/
theorem published_put {submission moved : Submission} (found : s.txs[acting]? = some submission)
    (running : submission.point.ended = false) (unpublished : moved.published = []) :
    ((s.put acting moved).txs.flatMap Submission.published).Perm
      (s.txs.flatMap Submission.published) := by
  have perm := flatMap_set_perm moved found (Submission.published_eq_nil running)
  rw [unpublished, List.append_nil] at perm
  exact perm

theorem total_step (moves : Moves s s') (inv : Tallied start s) :
    (s'.jobs.filterMap Job.indexKey).Perm
      (start.jobs.filterMap Job.indexKey ++ s'.txs.flatMap Submission.published) := by
  cases moves with
  | began now inputs =>
      rw [List.flatMap_append]
      simpa [Submission.published] using inv.total
  | inserted acting submission input rest id found before =>
      refine inv.total.trans (List.Perm.append_left _ (List.Perm.symm ?_))
      exact published_put found (by rw [before]; rfl) rfl
  | conflicted acting submission found before =>
      refine inv.total.trans (List.Perm.append_left _ (List.Perm.symm ?_))
      exact published_put found (by rw [before]; rfl) rfl
  | fetched acting submission input rest existing found before =>
      refine inv.total.trans (List.Perm.append_left _ (List.Perm.symm ?_))
      exact published_put found (by rw [before]; rfl) rfl
  | failed acting submission error found running =>
      refine inv.total.trans (List.Perm.append_left _ (List.Perm.symm ?_))
      exact published_put found running rfl
  | committed acting submission found before =>
      -- the rows that become visible are those the transaction reports as created
      have running : submission.point.ended = false := by
        rw [before]
        rfl
      have mine := inv.created acting submission found running
      have perm := flatMap_set_perm { submission with point := .committed } found
        (Submission.published_eq_nil running)
      have published : Submission.published { submission with point := .committed } =
          submission.created := rfl
      rw [published, mine] at perm
      calc (s.seenBy acting).filterMap Job.indexKey
          = s.jobs.filterMap Job.indexKey ++ (s.own acting).filterMap Job.indexKey :=
            List.filterMap_append
        _ |>.Perm ((start.jobs.filterMap Job.indexKey ++ s.txs.flatMap Submission.published) ++
            (s.own acting).filterMap Job.indexKey) := inv.total.append_right _
        _ |>.Perm _ := by
            rw [List.append_assoc]
            exact List.Perm.append_left _ perm.symm

theorem tallied_step (moves : Moves s s') (inv : Tallied start s) : Tallied start s' where
  index := index_step moves inv
  attended := attended_step moves inv
  results _ _ found' alive := results_step moves inv found' alive
  created _ _ found' running' := created_step moves inv found' running'
  total := total_step moves inv

/-! ## From the tally to the reports -/

theorem tallied_initial (initial : submissions.initial start) : Tallied start start := by
  obtain ⟨unique, pending, txs⟩ := initial
  refine ⟨?_, ?_, ?_, ?_, ?_⟩
  · simpa [pending] using unique
  · simp [pending]
  · simp [txs]
  · simp [txs]
  · simp [txs]

theorem Tallied.own_committed (inv : Tallied start s) {submission : Submission}
    (found : s.txs[tx]? = some submission) (committed : submission.point = .committed) :
    s.own tx = [] := by
  refine List.eq_nil_iff_forall_not_mem.mpr ?_
  intro job member
  obtain ⟨submission', found', running⟩ := inv.attended (tx, job) (mem_own.mp member)
  rw [found] at found'
  cases found'
  rw [committed] at running
  cases running

/-- A reported job is committed, under its queue and key. -/
theorem Tallied.reported (inv : Tallied start s) {queueId : UUID} {key : String}
    {result : CreateJobResult} (member : result ∈ s.reports queueId key) :
    result.job ∈ s.jobs ∧ result.job.indexKey = some (queueId, key) := by
  obtain ⟨submission, listed, reported⟩ := List.mem_flatMap.mp member
  split at reported
  next committed =>
    obtain ⟨⟨input, result'⟩, call, rfl⟩ := List.mem_map.mp reported
    rw [List.mem_filter, decide_eq_true_eq] at call
    obtain ⟨tx, found⟩ := List.getElem?_of_mem listed
    obtain ⟨entry, seen⟩ :=
      inv.results tx submission found (by rw [committed]; simp) (input, result') call.1
    refine ⟨?_, ?_⟩
    · rw [seenBy, inv.own_committed found committed, List.append_nil] at seen
      exact seen
    · rw [entry, CreateJobInput.indexKey, call.2.2, call.2.1]
      rfl
  · cases reported

/-- Among the calls of one transaction, the reports of a created job and the tally agree. -/
theorem countP_created {calls : List (CreateJobInput × CreateJobResult)}
    (entries : ∀ call ∈ calls, call.2.job.indexKey = call.1.indexKey) (queueId : UUID)
    (key : String) :
    ((calls.filter fun call => call.1.queueId = queueId ∧
        call.1.idempotencyKey = some key).map (·.2)).countP (·.created) =
      (calls.filterMap fun call =>
        if call.2.created then call.2.job.indexKey else none).count (queueId, key) := by
  rw [List.countP_map, List.countP_filter, List.count_filterMap]
  refine List.countP_congr ?_
  intro call member
  have entry := entries call member
  simp only [Function.comp_apply, Bool.and_eq_true, decide_eq_true_eq, beq_iff_eq]
  cases made : call.2.created with
  | false => simp
  | true =>
      simp only [true_and, if_true, entry, CreateJobInput.indexKey, Option.map_eq_some_iff,
        Prod.mk.injEq]
      constructor
      · rintro ⟨queue, keyed⟩
        exact ⟨key, keyed, queue, rfl⟩
      · rintro ⟨key', keyed, queue, rfl⟩
        exact ⟨queue, keyed⟩

theorem Tallied.countP_reports (inv : Tallied start s) (queueId : UUID) (key : String) :
    (s.reports queueId key).countP (·.created) =
      (s.txs.flatMap Submission.published).count (queueId, key) := by
  rw [reports, List.countP_flatMap, List.count_flatMap]
  congr 1
  refine List.map_congr_left ?_
  intro submission member
  simp only [Function.comp_apply, Submission.published]
  split
  next committed =>
    obtain ⟨tx, found⟩ := List.getElem?_of_mem member
    refine countP_created ?_ queueId key
    intro call listed
    exact (inv.results tx submission found (by rw [committed]; simp) call listed).1
  · rfl

end Submissions

theorem tallied_throughout {start s : Submissions}
    {trace : List (Submissions × SubmissionAction)} (initial : submissions.initial start)
    (path : Path submissions start trace s) : Submissions.Tallied start s := by
  have anyway : Meets (fun _ _ => True) trace := fun _ _ => trivial
  refine (path.throughout anyway (Submissions.tallied_initial initial) ?_).2
  intro s a s' taken _ inv
  exact Submissions.tallied_step (Submissions.step_moves taken) inv

/-- **Submission is idempotent.** Whatever the order of the statements of any number of
calls, and whichever of their transactions are rolled back. -/
theorem submission_idempotent (start s : Submissions)
    (trace : List (Submissions × SubmissionAction)) (initial : submissions.initial start)
    (path : Path submissions start trace s) : Idempotent start s := by
  have inv := tallied_throughout initial path
  have unique : (s.jobs.filterMap Job.indexKey).Nodup := by
    refine inv.index.sublist ?_
    rw [List.filterMap_append]
    exact List.sublist_append_left _ _
  refine ⟨unique, ?_, ?_, ?_⟩
  · intro queueId key result member
    have entry := (inv.reported member).2
    simp only [Job.indexKey, Option.map_eq_some_iff, Prod.mk.injEq] at entry
    obtain ⟨key', keyed, queue, rfl⟩ := entry
    exact ⟨queue, keyed⟩
  · intro queueId key first firstMember second secondMember
    obtain ⟨firstJob, firstEntry⟩ := inv.reported firstMember
    obtain ⟨secondJob, secondEntry⟩ := inv.reported secondMember
    rw [eq_of_index_eq unique firstJob secondJob firstEntry secondEntry]
  · intro queueId key reported
    obtain ⟨result, member⟩ := List.exists_mem_of_ne_nil _ reported
    obtain ⟨job, entry⟩ := inv.reported member
    have present : (queueId, key) ∈ s.jobs.filterMap Job.indexKey :=
      List.mem_filterMap.mpr ⟨result.job, job, entry⟩
    have tally := inv.total.count_eq (queueId, key)
    rw [List.count_eq_one_of_mem unique present, List.count_append,
      ← inv.countP_reports queueId key] at tally
    have atStart : (∃ job ∈ start.jobs, job.queueId = queueId ∧ job.idempotencyKey = some key) ↔
        (queueId, key) ∈ start.jobs.filterMap Job.indexKey := by
      simp only [List.mem_filterMap, Job.indexKey, Option.map_eq_some_iff, Prod.mk.injEq]
      constructor
      · rintro ⟨job, listed, queue, keyed⟩
        exact ⟨job, listed, key, keyed, queue, rfl⟩
      · rintro ⟨job, listed, key', keyed, queue, rfl⟩
        exact ⟨job, listed, queue, keyed⟩
    split
    next there =>
      have one := List.count_pos_iff.mpr (atStart.mp there)
      omega
    next absent =>
      have zero := List.count_eq_zero.mpr fun there => absent (atStart.mpr there)
      omega

/-- A batch that has one key twice, and a call with the same key that comes while the batch
is open. -/
theorem submission_idempotent_overlapping :
    ∃ start s trace, submissions.initial start ∧ Path submissions start trace s ∧
      (s.reports 3 "key").length = 3 ∧ Idempotent start s := by
  let input : CreateJobInput := ⟨3, 0, .null, some "key", some 0, .queued, 3, none, none⟩
  let start : Submissions := ⟨[⟨3, 2, "queue", "queue", none, 0, none, false, 0, 0⟩], [], [], []⟩
  have initial : submissions.initial start := ⟨List.nodup_nil, rfl, rfl⟩
  obtain ⟨trace, s, path, reports⟩ :=
    exists_path_of_execute submissions
      [.begin 1 [input, input], .insert 0 10, .begin 2 [input], .insert 0 11, .fetch 0, .commit 0,
        .insert 1 12, .fetch 1, .commit 1]
      start (fun _ last => (last.reports 3 "key").length = 3) (by decide)
  exact ⟨start, s, trace, initial, path, reports, submission_idempotent start s trace initial path⟩

end JobScheduler
