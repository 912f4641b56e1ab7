import JobScheduler.Store.Job
import JobScheduler.Transition.Run

/-!
# Submitting jobs statement by statement

`JobRepository.Create` is an `INSERT … ON CONFLICT DO NOTHING` and, when that does nothing, a
`SELECT` of the existing row. A submission is a list of inputs created in one transaction: a
batch inside `WithTx`, or a single input outside of it (a conflicting `INSERT` holds nothing,
so it makes no difference that the `SELECT` then runs in a transaction of its own).

The `INSERT` meets the unique index on `(queue_id, idempotency_key)`. It waits for a
conflicting row that another transaction has not committed yet, does nothing when it finds a
committed or own one, and inserts otherwise. A collision of primary keys waits too, and is an
error. The `SELECT` sees what is committed when it starts, and the transaction's own rows.
-/

set_option autoImplicit false

namespace JobScheduler

open Relational Transition

/-- The entry of a job in `idx_jobs_idempotency`. -/
def Job.indexKey (job : Job) : Option (UUID × String) :=
  job.idempotencyKey.map (job.queueId, ·)

/-- The entry the job of an input would have. -/
def CreateJobInput.indexKey (input : CreateJobInput) : Option (UUID × String) :=
  input.idempotencyKey.map (input.queueId, ·)

/-- The rows that an `INSERT` of the input conflicts with, and that the `SELECT` returns. -/
def CreateJobInput.Conflicts (input : CreateJobInput) (job : Job) : Prop :=
  job.queueId = input.queueId ∧ job.idempotencyKey.isSome ∧
    job.idempotencyKey = input.idempotencyKey

instance (input : CreateJobInput) : DecidablePred input.Conflicts :=
  fun _ => inferInstanceAs (Decidable (_ ∧ _ ∧ _))

inductive SubmissionPoint where
  /-- The next statement is an `INSERT`, or the commit. -/
  | inserting
  /-- The `INSERT` did nothing, and the existing row is to be selected. -/
  | fetching
  | committed
  /-- Rolled back, with the error of a statement if there was one. -/
  | failed (error : Option StoreError)
deriving DecidableEq

/-- Committed or rolled back. -/
def SubmissionPoint.ended : SubmissionPoint → Bool
  | .committed | .failed _ => true
  | _ => false

/-- A transaction: its `NOW()`, the inputs still to create, and what its calls of `Create`
have returned so far. -/
structure Submission where
  now : Timestamptz
  todo : List CreateJobInput
  results : List (CreateJobInput × CreateJobResult)
  point : SubmissionPoint

/-- The committed jobs, the rows of the open transactions, and the transactions. -/
structure Submissions where
  queues : List Queue
  jobs : List Job
  pending : List (Nat × Job)
  txs : List Submission

inductive SubmissionAction where
  | begin (now : Timestamptz) (inputs : List CreateJobInput)
  /-- The `INSERT`, with the identifier `uuid.New` has drawn. -/
  | insert (tx : Nat) (id : UUID)
  | fetch (tx : Nat)
  | commit (tx : Nat)
  | rollback (tx : Nat)

namespace Submissions

variable (s : Submissions)

/-- The rows a transaction has inserted. -/
def own (tx : Nat) : List Job := (s.pending.filter (·.1 = tx)).map (·.2)

/-- The rows a transaction sees. -/
def seenBy (tx : Nat) : List Job := s.jobs ++ s.own tx

/-- Move a transaction. -/
def put (tx : Nat) (submission : Submission) : Submissions :=
  { s with txs := s.txs.set tx submission }

/-- Roll a transaction back. -/
def abort (tx : Nat) (submission : Submission) (error : Option StoreError) : Submissions :=
  { s.put tx { submission with point := .failed error } with
    pending := s.pending.filter (·.1 ≠ tx) }

/-- Commit a transaction. -/
def finish (tx : Nat) (submission : Submission) : Submissions :=
  { s.put tx { submission with point := .committed } with
    jobs := s.seenBy tx
    pending := s.pending.filter (·.1 ≠ tx) }

/-- The `INSERT` of `Create`. -/
def insert (tx : Nat) (id : UUID) : Option Submissions :=
  match s.txs[tx]? with
  | none => none
  | some submission =>
      match submission.point, submission.todo with
      | .inserting, input :: rest =>
          if ¬ (InInt4 input.priority ∧ InInt4 input.maxAttempts) then
            some (s.abort tx submission (some .numericOutOfRange))
          else if ∃ row ∈ s.pending, row.1 ≠ tx ∧ input.Conflicts row.2 then none
          else if ∃ job ∈ s.seenBy tx, input.Conflicts job then
            some (s.put tx { submission with point := .fetching })
          else if ∃ row ∈ s.pending, row.1 ≠ tx ∧ row.2.id = id then none
          else if ∃ job ∈ s.seenBy tx, job.id = id then
            some (s.abort tx submission (some .uniqueViolation))
          else if ¬ ∃ q ∈ s.queues, q.id = input.queueId then
            some (s.abort tx submission (some .foreignKeyViolation))
          else
            let job := Job.inserted submission.now id input
            some { s.put tx { submission with
                todo := rest, results := submission.results ++ [(input, ⟨job, true⟩)] } with
              pending := s.pending ++ [(tx, job)] }
      | _, _ => none

/-- The `SELECT` of `Create`. -/
def fetch (tx : Nat) : Option Submissions :=
  match s.txs[tx]? with
  | none => none
  | some submission =>
      match submission.point, submission.todo with
      | .fetching, input :: rest =>
          match (s.seenBy tx).find? fun job => input.Conflicts job with
          | none => some (s.abort tx submission (some .notFound))
          | some existing => some (s.put tx { submission with
              todo := rest
              results := submission.results ++ [(input, ⟨existing, false⟩)]
              point := .inserting })
      | _, _ => none

/-- One step of one transaction. -/
def step : SubmissionAction → Option Submissions
  | .begin now inputs => some { s with txs := s.txs ++ [⟨now, inputs, [], .inserting⟩] }
  | .insert tx id => s.insert tx id
  | .fetch tx => s.fetch tx
  | .commit tx =>
      match s.txs[tx]? with
      | none => none
      | some submission =>
          match submission.point, submission.todo with
          | .inserting, [] => some (s.finish tx submission)
          | _, _ => none
  | .rollback tx =>
      match s.txs[tx]? with
      | none => none
      | some submission =>
          if submission.point.ended then none else some (s.abort tx submission none)

end Submissions

/-- The submissions on a database whose jobs satisfy the unique index. -/
def submissions : System Submissions SubmissionAction where
  initial s := (s.jobs.filterMap Job.indexKey).Nodup ∧ s.pending = [] ∧ s.txs = []
  step := Submissions.step

namespace Submissions

/-! ## What a step can do -/

/-- A transaction without the input it has just created, with its result. -/
def answer (submission : Submission) (input : CreateJobInput) (rest : List CreateJobInput)
    (result : CreateJobResult) : Submission :=
  { submission with
    todo := rest, results := submission.results ++ [(input, result)], point := .inserting }

/-- The outcomes of a step. -/
inductive Moves (s : Submissions) : Submissions → Prop where
  | began (now : Timestamptz) (inputs : List CreateJobInput) :
      Moves s { s with txs := s.txs ++ [⟨now, inputs, [], .inserting⟩] }
  | inserted (tx : Nat) (submission : Submission) (input : CreateJobInput)
      (rest : List CreateJobInput) (id : UUID) (found : s.txs[tx]? = some submission)
      (before : submission.point = .inserting)
      (free : ∀ job ∈ s.jobs ++ s.pending.map (·.2), ¬ input.Conflicts job) :
      Moves s { s.put tx (answer submission input rest
          ⟨Job.inserted submission.now id input, true⟩) with
        pending := s.pending ++ [(tx, Job.inserted submission.now id input)] }
  | conflicted (tx : Nat) (submission : Submission) (found : s.txs[tx]? = some submission)
      (before : submission.point = .inserting) :
      Moves s (s.put tx { submission with point := .fetching })
  | fetched (tx : Nat) (submission : Submission) (input : CreateJobInput)
      (rest : List CreateJobInput) (existing : Job) (found : s.txs[tx]? = some submission)
      (before : submission.point = .fetching) (seen : existing ∈ s.seenBy tx)
      (conflicts : input.Conflicts existing) :
      Moves s (s.put tx (answer submission input rest ⟨existing, false⟩))
  | committed (tx : Nat) (submission : Submission) (found : s.txs[tx]? = some submission)
      (before : submission.point = .inserting) : Moves s (s.finish tx submission)
  | failed (tx : Nat) (submission : Submission) (error : Option StoreError)
      (found : s.txs[tx]? = some submission) (running : submission.point.ended = false) :
      Moves s (s.abort tx submission error)

variable {start s s' : Submissions} {tx : Nat} {job : Job}

theorem mem_own : job ∈ s.own tx ↔ (tx, job) ∈ s.pending := by
  simp only [own, List.mem_map, List.mem_filter, decide_eq_true_eq]
  constructor
  · rintro ⟨⟨tx', job'⟩, ⟨member, rfl⟩, rfl⟩
    exact member
  · intro member
    exact ⟨(tx, job), ⟨member, rfl⟩, rfl⟩

theorem insert_moves {id : UUID} (taken : s.insert tx id = some s') : Moves s s' := by
  unfold insert at taken
  split at taken
  · cases taken
  next submission found =>
    split at taken
    next input rest before todo =>
      have fails : ∀ error, Moves s (s.abort tx submission error) := fun error =>
        .failed tx submission error found (by rw [before]; rfl)
      split at taken
      · cases taken
        exact fails _
      · split at taken
        · cases taken
        next noneWaiting =>
          split at taken
          · cases taken
            exact .conflicted tx submission found before
          next noneSeen =>
            split at taken
            · cases taken
            · split at taken
              · cases taken
                exact fails _
              · split at taken
                · cases taken
                  exact fails _
                · cases taken
                  have free : ∀ job ∈ s.jobs ++ s.pending.map (·.2), ¬ input.Conflicts job := by
                    intro job member conflicts
                    rcases List.mem_append.mp member with committed | listed
                    · exact noneSeen ⟨job, List.mem_append_left _ committed, conflicts⟩
                    · obtain ⟨⟨tx', job'⟩, pending, rfl⟩ := List.mem_map.mp listed
                      by_cases mine : tx' = tx
                      · subst mine
                        exact noneSeen
                          ⟨job', List.mem_append_right _ (mem_own.mpr pending), conflicts⟩
                      · exact noneWaiting ⟨(tx', job'), pending, mine, conflicts⟩
                  have moves := Moves.inserted tx submission input rest id found before free
                  rw [answer, ← before] at moves
                  exact moves
    · cases taken

theorem fetch_moves (taken : s.fetch tx = some s') : Moves s s' := by
  unfold fetch at taken
  split at taken
  · cases taken
  next submission found =>
    split at taken
    next input rest before todo =>
      split at taken
      · cases taken
        exact .failed tx submission _ found (by rw [before]; rfl)
      next existing selected =>
        cases taken
        have conflicts := List.find?_some selected
        rw [decide_eq_true_eq] at conflicts
        exact .fetched tx submission input rest existing found before
          (List.mem_of_find?_eq_some selected) conflicts
    · cases taken

/-- **Every step is one of the moves.** -/
theorem step_moves {a : SubmissionAction} (taken : s.step a = some s') : Moves s s' := by
  cases a with
  | begin now inputs =>
      cases taken
      exact .began now inputs
  | insert tx id => exact insert_moves taken
  | fetch tx => exact fetch_moves taken
  | commit tx =>
      simp only [step] at taken
      split at taken
      · cases taken
      next submission found =>
        split at taken
        next before todo =>
          cases taken
          exact .committed tx submission found before
        · cases taken
  | rollback tx =>
      simp only [step] at taken
      split at taken
      · cases taken
      next submission found =>
        split at taken
        · cases taken
        next running =>
          cases taken
          exact .failed tx submission none found (by simpa using running)

/-! ## The statements of an undisturbed call -/

theorem fetch_of_selected {submission : Submission} {input : CreateJobInput}
    {rest : List CreateJobInput} {existing : Job} (found : s.txs[tx]? = some submission)
    (before : submission.point = .fetching) (todo : submission.todo = input :: rest)
    (selected : (s.seenBy tx).find? (fun job => input.Conflicts job) = some existing) :
    submissions.step s (.fetch tx) =
      some (s.put tx (answer submission input rest ⟨existing, false⟩)) := by
  simp only [submissions, step, fetch, found, before, todo, selected]
  rfl

/-- **Without other transactions the statements are the atomic `Create`**: they lead to what it
returns and to the rows it leaves. -/
theorem create_of_statements {db db' : Database} {submission : Submission}
    {input : CreateJobInput} {rest : List CreateJobInput} {id : UUID} {result : CreateJobResult}
    (found : s.txs[tx]? = some submission) (before : submission.point = .inserting)
    (todo : submission.todo = input :: rest) (alone : ∀ row ∈ s.pending, row.1 = tx)
    (jobs : db.jobs = s.seenBy tx) (queues : db.queues = s.queues)
    (fresh : ∀ job ∈ db.jobs, job.id ≠ id)
    (creates : db.createJob submission.now id input = .ok (db', result)) :
    ∃ trace s', Path submissions s trace s' ∧
      s'.txs[tx]? = some (answer submission input rest result) ∧ s'.seenBy tx = db'.jobs ∧
      ∀ row ∈ s'.pending, row.1 = tx := by
  have inside := (List.getElem?_eq_some_iff.mp found).1
  have noneWaits : ∀ holds : Job → Prop, ¬ ∃ row ∈ s.pending, row.1 ≠ tx ∧ holds row.2 := by
    rintro holds ⟨row, member, other, _⟩
    exact other (alone row member)
  rw [jobs] at fresh
  unfold Database.createJob at creates
  split at creates
  · cases creates
  next inRange =>
    split at creates
    next existing selected =>
      cases creates
      rw [jobs] at selected
      have conflicts := List.find?_some selected
      rw [decide_eq_true_eq] at conflicts
      have seen : ∃ job ∈ s.seenBy tx, input.Conflicts job :=
        ⟨existing, List.mem_of_find?_eq_some selected, conflicts⟩
      have inserts : submissions.step s (.insert tx id) =
          some (s.put tx { submission with point := .fetching }) := by
        simp only [submissions, step, insert, found, before, todo, if_neg inRange,
          if_neg (noneWaits _), if_pos seen]
      have moved : (s.put tx { submission with point := .fetching }).txs[tx]? =
          some { submission with point := .fetching } := List.getElem?_set_self inside
      have fetches := fetch_of_selected moved rfl todo selected
      refine ⟨_, _, (Transition.Path.refl.next (.insert tx id) inserts).next (.fetch tx) fetches, ?_, ?_,
        ?_⟩
      · exact List.getElem?_set_self (by simpa [put] using inside)
      · exact jobs.symm
      · exact alone
    next absent =>
      split at creates
      · cases creates
      next queueExists =>
        cases creates
        rw [jobs] at absent
        rw [queues, not_not] at queueExists
        have unseen : ¬ ∃ job ∈ s.seenBy tx, input.Conflicts job := by
          rintro ⟨job, member, conflicts⟩
          exact List.find?_eq_none.mp absent job member (decide_eq_true conflicts)
        have unused : ¬ ∃ job ∈ s.seenBy tx, job.id = id := by
          rintro ⟨job, member, same⟩
          exact fresh job member same
        have inserts : submissions.step s (.insert tx id) =
            some { s.put tx (answer submission input rest
                ⟨Job.inserted submission.now id input, true⟩) with
              pending := s.pending ++ [(tx, Job.inserted submission.now id input)] } := by
          simp only [submissions, step, insert, found, before, todo, if_neg inRange,
            if_neg (noneWaits input.Conflicts), if_neg (noneWaits (·.id = id)), if_neg unseen,
            if_neg unused, not_not.mpr queueExists, if_false, answer]
        refine ⟨_, _, Transition.Path.refl.next (.insert tx id) inserts, ?_, ?_, ?_⟩
        · exact List.getElem?_set_self inside
        · rw [jobs]
          simp [seenBy, own, put, List.filter_append]
        · intro row member
          rcases List.mem_append.mp member with old | new
          · exact alone row old
          · rw [List.mem_singleton] at new
            rw [new]

end Submissions

end JobScheduler
