import JobScheduler.Api.Isolation
import Mathlib.Data.Finset.Card
import Mathlib.Data.Finset.Filter

/-!
# Batches under database errors

`CreateBatch` validates every request of a batch and then inserts the jobs in one transaction. Here
any call of `Create` and the commit may fail for reasons of their own, such as a lost connection.
A failure anywhere rolls the whole transaction back; otherwise each request is answered with the
job inserted for it or with the row that has its key, which may come from the same batch
(`batch_all_or_nothing`). A row from before the batch keeps the batch id it has, so the jobs of an
answer share the new id unless a key was taken already (`batch_shares_id_iff`). Without failures a
batch is created whenever each of its requests can be inserted (`batch_created_iff`).
-/

set_option autoImplicit false

namespace JobScheduler

/-! ## The transaction -/

/-- An error inside `WithTx`: of the store, or of the connection. -/
inductive TxError where
  | store (error : StoreError)
  | connection

/-- `mapDomainError`. -/
def TxError.response : TxError → ApiResponse
  | .store error => .failure "" "" error
  | .connection => .internal

/-- The calls that fail: `Create`, by its index in the batch, and `Commit`. -/
structure Faults where
  create : Nat → Bool
  commit : Bool

/-- The loop over the inputs inside the transaction. -/
def createAll (fails : Nat → Bool) (now : Timestamptz) :
    Nat → List (UUID × CreateJobInput) → Database → Except TxError (Database × List Job)
  | _, [], db => .ok (db, [])
  | index, (id, input) :: rest, db =>
      if fails index then .error .connection
      else
        match db.createJob now id input with
        | .error e => .error (.store e)
        | .ok (db', result) =>
            match createAll fails now (index + 1) rest db' with
            | .error e => .error e
            | .ok (db'', jobs) => .ok (db'', result.job :: jobs)

/-- `WithTx`: what the transaction has written is there after the commit, and not before. -/
def Site.withTx {α : Type} (site : Site) (commitFails : Bool)
    (run : Database → Except TxError (Database × α)) : Except TxError (Site × α) :=
  match run site.core with
  | .error e => .error e
  | .ok (db, value) =>
      if commitFails then .error .connection else .ok ({ site with jobs := db.jobs }, value)

/-- `JobHandler.CreateBatch`, where calls may fail. -/
def JobHandler.createBatchUnder (faults : Faults) (env : ApiEnv) (orgId : UUID) (site : Site)
    (queueId : Option UUID) (body : Body (List (UUID × CreateJobRequest))) (batchId : UUID) :
    ApiResponse × Site :=
  withId site "queue" queueId fun queueId =>
    withBody site body fun jobs =>
      if jobs = [] then (.invalid "jobs array is empty" [], site)
      else if 1000 < jobs.length then (.invalid "batch limited to 1000 jobs" [], site)
      else
        withFound site (site.getQueue queueId orgId) fun queue =>
          match buildInputs env.cron env.instant queue batchId 0 jobs with
          | .error (index, errors) =>
              (.invalid ("invalid input at index " ++ toString index) errors, site)
          | .ok inputs =>
              match site.withTx faults.commit (createAll faults.create env.now 0 inputs) with
              | .error e => (e.response, site)
              | .ok (site', results) => (⟨201, .batch batchId results⟩, site')

/-- Without faults the loop is that of the plain handler. -/
theorem createAll_faultless (now : Timestamptz) (inputs : List (UUID × CreateJobInput)) :
    ∀ (index : Nat) (db : Database), createAll (fun _ => false) now index inputs db =
      (Database.createJobBatch now inputs db).mapError TxError.store := by
  induction inputs with
  | nil => exact fun _ _ => rfl
  | cons entry rest ih =>
      obtain ⟨id, input⟩ := entry
      intro index db
      unfold createAll Database.createJobBatch
      cases db.createJob now id input with
      | error e => rfl
      | ok done =>
          simp only [Bool.false_eq_true, if_false, ih]
          cases Database.createJobBatch now rest done.1 <;> rfl

/-- Without faults the handler is the plain one. -/
theorem createBatchUnder_faultless (env : ApiEnv) (orgId : UUID) (site : Site)
    (queueId : Option UUID) (body : Body (List (UUID × CreateJobRequest))) (batchId : UUID) :
    JobHandler.createBatchUnder ⟨fun _ => false, false⟩ env orgId site queueId body batchId =
      JobHandler.createBatch env orgId site queueId body batchId := by
  unfold JobHandler.createBatchUnder JobHandler.createBatch Site.withTx Site.createJobBatch conclude
  simp only [createAll_faultless]
  congr 1
  funext queueId
  congr 1
  funext jobs
  split
  · rfl
  · split
    · rfl
    · congr 1
      funext queue
      cases buildInputs env.cron env.instant queue batchId 0 jobs with
      | error invalid => rfl
      | ok inputs =>
          dsimp only
          cases Database.createJobBatch env.now inputs site.core <;> rfl

/-! ## What a batch has to do -/

/-- A job of the queue carries the key. -/
def Keyed (queueId : UUID) (key : String) (job : Job) : Prop :=
  job.queueId = queueId ∧ job.idempotencyKey = some key

instance (queueId : UUID) (key : String) : DecidablePred (Keyed queueId key) :=
  fun _ => inferInstanceAs (Decidable (_ ∧ _))

/-- How many rows a list of keys adds to a table: one for each request without a key, and one for
each key that the table does not have. -/
def addedRows (queueId : UUID) (table : List Job) (keys : List (Option String)) : Nat :=
  keys.count none +
    ((keys.filterMap id).toFinset.filter fun key => ¬ ∃ job ∈ table, Keyed queueId key job).card

/-- The `index`-th job of an answer to a batch of requests. -/
structure AnsweredRight (env : ApiEnv) (queue : Queue) (batchId : UUID) (table : List Job)
    (answer : List Job) (index : Nat) (id : UUID) (req : CreateJobRequest) (job : Job) : Prop where
  ofQueue : job.queueId = queue.id
  withKey : job.idempotencyKey = req.idempotencyKey
  source : (∃ input, buildJobInput env.cron env.instant req queue = .ok input ∧
      job = Job.inserted env.now id { input with batchId := some batchId }) ∨
    req.idempotencyKey ≠ none ∧ (job ∈ table ∨ ∃ earlier < index, answer[earlier]? = some job)

/-- The batch has been inserted. -/
structure BatchInserted (env : ApiEnv) (queue : Queue) (batchId : UUID)
    (jobs : List (UUID × CreateJobRequest)) (site site' : Site) (answer : List Job) : Prop where
  length : answer.length = jobs.length
  inOrder : ∀ index id req, jobs[index]? = some (id, req) → ∃ job, answer[index]? = some job ∧
    AnsweredRight env queue batchId site.jobs answer index id req job
  stored : ∀ job ∈ answer, job ∈ site'.jobs
  grows : ∃ added, site' = { site with jobs := site.jobs ++ added } ∧ added.Sublist answer ∧
    added.length = addedRows queue.id site.jobs (jobs.map (·.2.idempotencyKey))

/-- An error, with its message and code. -/
def ApiResponse.IsError (response : ApiResponse) : Prop :=
  400 ≤ response.status ∧ ∃ message code details, response.body = .error message code details

/-- The request is answered with an error and the tables are as they were, or the batch has been
inserted. -/
def AllOrNothing (env : ApiEnv) (queueId : UUID) (batchId : UUID)
    (jobs : List (UUID × CreateJobRequest)) (site : Site) (done : ApiResponse × Site) : Prop :=
  done.1.IsError ∧ done.2 = site ∨
    ∃ queue ∈ site.queues, queue.id = queueId ∧ ∃ answer,
      done.1 = ⟨201, .batch batchId answer⟩ ∧
        BatchInserted env queue batchId jobs site done.2 answer

/-! ## One insertion after the other -/

section Insertions

variable {now : Timestamptz} {db db' : Database} {id : UUID} {input : CreateJobInput}
  {result : CreateJobResult}

/-- What a call of `Create` answers, and what it adds to the table. -/
theorem createJob_cases (creates : db.createJob now id input = .ok (db', result)) :
    (∃ key, input.idempotencyKey = some key ∧ result.job ∈ db.jobs ∧
      Keyed input.queueId key result.job ∧ db' = db) ∨
    (∀ key, input.idempotencyKey = some key → ∀ job ∈ db.jobs, ¬ Keyed input.queueId key job) ∧
      result.job = Job.inserted now id input ∧
      db' = { db with jobs := db.jobs ++ [Job.inserted now id input] } := by
  unfold Database.createJob at creates
  split at creates
  · cases creates
  · split at creates
    next existing found =>
      cases creates
      have holds := List.find?_some found
      rw [decide_eq_true_eq] at holds
      obtain ⟨key, keyed⟩ := Option.isSome_iff_exists.mp holds.2.1
      refine .inl ⟨key, ?_, List.mem_of_find?_eq_some found, ⟨holds.1, keyed⟩, rfl⟩
      rw [← holds.2.2, keyed]
    next absent =>
      split at creates
      · cases creates
      · cases creates
        refine .inr ⟨?_, rfl, rfl⟩
        rintro key given job member ⟨sameQueue, sameKey⟩
        refine List.find?_eq_none.mp absent job member (decide_eq_true ⟨sameQueue, ?_, ?_⟩)
        · rw [sameKey]
          rfl
        · rw [sameKey, given]

variable {queueId : UUID} {table : List Job} {keys : List (Option String)}

theorem addedRows_none : addedRows queueId table (none :: keys) =
    addedRows queueId table keys + 1 := by
  have same : (none :: keys).filterMap id = keys.filterMap id := rfl
  unfold addedRows
  rw [List.count_cons_self, same]
  omega

/-- A key that the table has adds no row. -/
theorem addedRows_present {key : String} (present : ∃ job ∈ table, Keyed queueId key job) :
    addedRows queueId table (some key :: keys) = addedRows queueId table keys := by
  have cons : (some key :: keys).filterMap id = key :: keys.filterMap id := rfl
  unfold addedRows
  rw [List.count_cons_of_ne (by simp), cons, List.toFinset_cons,
    Finset.filter_insert, if_neg (not_not.mpr present)]

/-- A key that the table does not have adds a row, and is there for the rest of the batch. -/
theorem addedRows_absent {key : String} {row : Job}
    (absent : ∀ job ∈ table, ¬ Keyed queueId key job) (keyed : Keyed queueId key row) :
    addedRows queueId table (some key :: keys) =
      addedRows queueId (table ++ [row]) keys + 1 := by
  have cons : (some key :: keys).filterMap id = key :: keys.filterMap id := rfl
  have new : ¬ ∃ job ∈ table, Keyed queueId key job := by
    rintro ⟨job, member, holds⟩
    exact absent job member holds
  have others : ∀ key', (¬ ∃ job ∈ table ++ [row], Keyed queueId key' job) ↔
      key' ≠ key ∧ ¬ ∃ job ∈ table, Keyed queueId key' job := by
    intro key'
    rw [← not_iff_not, not_not, not_and_or, not_not, not_not]
    constructor
    · rintro ⟨job, member, holds⟩
      rcases List.mem_append.mp member with old | here
      · exact .inr ⟨job, old, holds⟩
      · rw [List.mem_singleton.mp here] at holds
        exact .inl (Option.some.inj (holds.2.symm.trans keyed.2))
    · rintro (rfl | ⟨job, member, holds⟩)
      · exact ⟨row, List.mem_append_right _ (List.mem_singleton_self row), keyed⟩
      · exact ⟨job, List.mem_append_left _ member, holds⟩
  have keySet : (insert key (keys.filterMap id).toFinset).filter
        (fun key => ¬ ∃ job ∈ table, Keyed queueId key job) =
      insert key ((keys.filterMap id).toFinset.filter
        fun key => ¬ ∃ job ∈ table ++ [row], Keyed queueId key job) := by
    ext key'
    simp only [Finset.mem_filter, Finset.mem_insert, others]
    by_cases same : key' = key
    · subst same
      simp [new]
    · simp [same]
  have fresh : key ∉ (keys.filterMap id).toFinset.filter
      fun key => ¬ ∃ job ∈ table ++ [row], Keyed queueId key job := by
    rw [Finset.mem_filter, others]
    exact fun listed => listed.2.1 rfl
  unfold addedRows
  rw [List.count_cons_of_ne (by simp), cons, List.toFinset_cons, keySet,
    Finset.card_insert_of_notMem fresh]
  omega

/-- A row without a key leaves the keys of the table as they are. -/
theorem addedRows_unkeyed {row : Job} (unkeyed : row.idempotencyKey = none) :
    addedRows queueId (table ++ [row]) keys = addedRows queueId table keys := by
  have same : ∀ key, (∃ job ∈ table ++ [row], Keyed queueId key job) ↔
      ∃ job ∈ table, Keyed queueId key job := by
    intro key
    simp [List.mem_append, Keyed, unkeyed, or_and_right, exists_or]
  unfold addedRows
  simp only [same]

end Insertions

/-! ## The loop -/

section Loop

variable {fails : Nat → Bool} {now : Timestamptz}

/-- What a first round of the loop has done. -/
theorem createAll_cons {index : Nat} {id : UUID} {input : CreateJobInput}
    {rest : List (UUID × CreateJobInput)} {db db' : Database} {answer : List Job}
    (creates : createAll fails now index ((id, input) :: rest) db = .ok (db', answer)) :
    ∃ middle result jobs, db.createJob now id input = .ok (middle, result) ∧
      createAll fails now (index + 1) rest middle = .ok (db', jobs) ∧
        answer = result.job :: jobs := by
  unfold createAll at creates
  split at creates
  · cases creates
  · split at creates
    · cases creates
    next middle result first =>
      split at creates
      · cases creates
      next final jobs later =>
        cases creates
        exact ⟨middle, result, jobs, first, later, rfl⟩

/-- A successful loop answers every input. -/
theorem createAll_length {inputs : List (UUID × CreateJobInput)} :
    ∀ {index : Nat} {db db' : Database} {answer : List Job},
      createAll fails now index inputs db = .ok (db', answer) →
        answer.length = inputs.length := by
  induction inputs with
  | nil =>
      intro index db db' answer creates
      cases creates
      rfl
  | cons entry rest ih =>
      intro index db db' answer creates
      obtain ⟨middle, result, jobs, _, later, rfl⟩ := createAll_cons creates
      rw [List.length_cons, List.length_cons, ih later]

/-- The jobs of an answer are in the table. -/
theorem createAll_stored {inputs : List (UUID × CreateJobInput)} :
    ∀ {index : Nat} {db db' : Database} {answer : List Job},
      createAll fails now index inputs db = .ok (db', answer) →
        (∀ job ∈ db.jobs, job ∈ db'.jobs) ∧ ∀ job ∈ answer, job ∈ db'.jobs := by
  induction inputs with
  | nil =>
      intro index db db' answer creates
      cases creates
      exact ⟨fun _ member => member, by simp⟩
  | cons entry rest ih =>
      intro index db db' answer creates
      obtain ⟨middle, result, jobs, first, later, rfl⟩ := createAll_cons creates
      obtain ⟨kept, stored⟩ := ih later
      have here : result.job ∈ middle.jobs ∧ ∀ job ∈ db.jobs, job ∈ middle.jobs := by
        rcases createJob_cases first with ⟨_, _, present, _, rfl⟩ | ⟨_, row, rfl⟩
        · exact ⟨present, fun _ member => member⟩
        · rw [row]
          exact ⟨List.mem_append_right _ (List.mem_singleton_self _),
            fun _ member => List.mem_append_left _ member⟩
      refine ⟨fun job member => kept job (here.2 job member), ?_⟩
      exact List.forall_mem_cons.mpr ⟨kept _ here.1, stored⟩

/-- A successful loop adds a row for each input without a key and for each new key. -/
theorem createAll_rows {queueId : UUID} {inputs : List (UUID × CreateJobInput)} :
    ∀ {index : Nat} {db db' : Database} {answer : List Job},
      (∀ entry ∈ inputs, entry.2.queueId = queueId) →
      createAll fails now index inputs db = .ok (db', answer) →
        ∃ added, db' = { db with jobs := db.jobs ++ added } ∧ added.Sublist answer ∧
          added.length = addedRows queueId db.jobs (inputs.map (·.2.idempotencyKey)) := by
  induction inputs with
  | nil =>
      intro index db db' answer _ creates
      cases creates
      exact ⟨[], by simp, .slnil, rfl⟩
  | cons entry rest ih =>
      obtain ⟨id, input⟩ := entry
      intro index db db' answer target creates
      rw [List.forall_mem_cons] at target
      obtain ⟨middle, result, jobs, first, later, rfl⟩ := createAll_cons creates
      obtain ⟨added, rfl, among, count⟩ := ih target.2 later
      have sameQueue : input.queueId = queueId := target.1
      rw [List.map_cons]
      rcases createJob_cases first with ⟨key, keyed, present, holds, rfl⟩ | ⟨free, row, rfl⟩
      · refine ⟨added, rfl, among.cons _, ?_⟩
        rw [sameQueue] at holds
        rw [keyed, addedRows_present ⟨result.job, present, holds⟩, count]
      · refine ⟨Job.inserted now id input :: added, by simp, row ▸ among.cons_cons _, ?_⟩
        rw [List.length_cons, count]
        cases keyed : input.idempotencyKey with
        | none => rw [addedRows_unkeyed keyed, addedRows_none]
        | some key =>
            rw [sameQueue] at free
            have holds : Keyed queueId key (Job.inserted now id input) := ⟨sameQueue, keyed⟩
            rw [addedRows_absent (free key keyed) holds]

/-- How the `i`-th input is answered: with its own row, or with one that has its key and was there
before. -/
structure AnsweredInput (now : Timestamptz) (table answer : List Job) (i : Nat) (id : UUID)
    (input : CreateJobInput) (job : Job) : Prop where
  ofQueue : job.queueId = input.queueId
  withKey : job.idempotencyKey = input.idempotencyKey
  source : job = Job.inserted now id input ∨
    input.idempotencyKey ≠ none ∧ (job ∈ table ∨ ∃ earlier < i, answer[earlier]? = some job)

theorem createAll_answers {inputs : List (UUID × CreateJobInput)} :
    ∀ {index : Nat} {db db' : Database} {answer : List Job},
      createAll fails now index inputs db = .ok (db', answer) →
      ∀ i id input, inputs[i]? = some (id, input) →
        ∃ job, answer[i]? = some job ∧ AnsweredInput now db.jobs answer i id input job := by
  induction inputs with
  | nil =>
      intro index db db' answer _ i id input found
      cases found
  | cons entry rest ih =>
      obtain ⟨firstId, firstInput⟩ := entry
      intro index db db' answer creates i id input found
      obtain ⟨middle, result, jobs, first, later, rfl⟩ := createAll_cons creates
      cases i with
      | zero =>
          cases found
          refine ⟨result.job, rfl, ?_⟩
          rcases createJob_cases first with ⟨key, keyed, present, holds, _⟩ | ⟨_, inserted, _⟩
          · exact ⟨holds.1, holds.2.trans keyed.symm, .inr ⟨by simp [keyed], .inl present⟩⟩
          · rw [inserted]
            exact ⟨rfl, rfl, .inl rfl⟩
      | succ i =>
          rw [List.getElem?_cons_succ] at found
          obtain ⟨job, answered, ofQueue, withKey, source⟩ := ih later i id input found
          refine ⟨job, answered, ofQueue, withKey, ?_⟩
          rcases source with inserted | ⟨keyed, present | ⟨earlier, before, same⟩⟩
          · exact .inl inserted
          · refine .inr ⟨keyed, ?_⟩
            -- the row was in the table, or the first input has just been answered with it
            rcases createJob_cases first with ⟨_, _, _, _, rfl⟩ | ⟨_, row, rfl⟩
            · exact .inl present
            · rcases List.mem_append.mp present with old | new
              · exact .inl old
              · rw [List.mem_singleton, ← row] at new
                exact .inr ⟨0, Nat.succ_pos i, by rw [new]; rfl⟩
          · exact .inr ⟨keyed, .inr ⟨earlier + 1, Nat.succ_lt_succ before, same⟩⟩

end Loop

/-! ## The inputs -/

section Inputs

variable {cron : CronParser} {instant : Time} {queue : Queue} {batchId : UUID}
  {jobs : List (UUID × CreateJobRequest)} {inputs : List (UUID × CreateJobInput)}

theorem builtInputs_getElem? {id : UUID} {req : CreateJobRequest}
    (built : List.Forall₂ (BuiltFrom cron instant queue batchId) jobs inputs) :
    ∀ {i : Nat}, jobs[i]? = some (id, req) → ∃ input,
      buildJobInput cron instant req queue = .ok input ∧
        inputs[i]? = some (id, { input with batchId := some batchId }) := by
  induction built with
  | nil =>
      intro i found
      cases found
  | cons first _ ih =>
      intro i found
      cases i with
      | zero =>
          cases found
          obtain ⟨input, builds, rfl⟩ := first
          exact ⟨input, builds, rfl⟩
      | succ i => exact ih found

end Inputs

/-! ## Whole batches -/

theorem invalid_isError (message : String) (details : List (String × String)) :
    (ApiResponse.invalid message details).IsError :=
  ⟨Nat.le_of_ble_eq_true rfl, message, _, details, rfl⟩

theorem failure_isError (notFound conflict : String) (e : StoreError) :
    (ApiResponse.failure notFound conflict e).IsError := by
  cases e <;> exact ⟨Nat.le_of_ble_eq_true rfl, _, _, _, rfl⟩

theorem TxError.response_isError (e : TxError) : e.response.IsError := by
  cases e with
  | store e => exact failure_isError "" "" e
  | connection => exact ⟨Nat.le_of_ble_eq_true rfl, _, _, _, rfl⟩

theorem mem_of_getQueue {site : Site} {queueId orgId : UUID} {queue : Queue}
    (found : site.getQueue queueId orgId = .ok queue) :
    queue ∈ site.queues ∧ queue.id = queueId := by
  unfold Site.getQueue Database.getQueue at found
  split at found
  next row listed =>
    cases found
    have holds := List.find?_some listed
    rw [decide_eq_true_eq] at holds
    exact ⟨List.mem_of_find?_eq_some listed, holds.1⟩
  · cases found

/-- What a committed transaction has written. -/
theorem Site.withTx_ok {α : Type} {site site' : Site} {commitFails : Bool} {value : α}
    {run : Database → Except TxError (Database × α)}
    (commits : site.withTx commitFails run = .ok (site', value)) :
    ∃ db, run site.core = .ok (db, value) ∧ site' = { site with jobs := db.jobs } := by
  unfold Site.withTx at commits
  split at commits
  · cases commits
  next db written runs =>
    split at commits
    · cases commits
    · cases commits
      exact ⟨db, runs, rfl⟩

/-- A committed transaction has inserted the batch. -/
theorem batchInserted_of_commit {faults : Faults} {env : ApiEnv} {queue : Queue} {batchId : UUID}
    {jobs : List (UUID × CreateJobRequest)} {inputs : List (UUID × CreateJobInput)}
    {site site' : Site} {answer : List Job}
    (builds : buildInputs env.cron env.instant queue batchId 0 jobs = .ok inputs)
    (commits : site.withTx faults.commit (createAll faults.create env.now 0 inputs) =
      .ok (site', answer)) :
    BatchInserted env queue batchId jobs site site' answer := by
  have built := buildInputs_builtFrom builds
  obtain ⟨db, loop, rfl⟩ := Site.withTx_ok commits
  obtain ⟨_, target, keys⟩ := buildInputs_columns builds
  obtain ⟨added, rfl, among, count⟩ := createAll_rows target loop
  constructor
  case length => rw [createAll_length loop, built.length_eq]
  case inOrder =>
    intro index id req found
    obtain ⟨input, made, entry⟩ := builtInputs_getElem? built found
    obtain ⟨target, key⟩ := buildJobInput_columns made
    obtain ⟨job, answered, ofQueue, withKey, source⟩ := createAll_answers loop index id _ entry
    refine ⟨job, answered, ofQueue.trans target, withKey.trans key, ?_⟩
    rcases source with inserted | ⟨keyed, existing⟩
    · exact .inl ⟨input, made, inserted⟩
    · exact .inr ⟨key ▸ keyed, existing⟩
  case stored => exact (createAll_stored loop).2
  case grows => exact ⟨added, rfl, among, by rw [count, keys]; rfl⟩

/-- What the handler does: it answers with an error and changes nothing, or commits the transaction
of the inputs. -/
theorem createBatchUnder_cases (faults : Faults) (env : ApiEnv) (orgId : UUID) (site : Site)
    (queueId : UUID) (jobs : List (UUID × CreateJobRequest)) (batchId : UUID)
    {done : ApiResponse × Site} (answered : JobHandler.createBatchUnder faults env orgId site
      (some queueId) (.ok jobs) batchId = done) :
    done.1.IsError ∧ done.2 = site ∨
      ∃ queue ∈ site.queues, queue.id = queueId ∧ ∃ inputs,
        buildInputs env.cron env.instant queue batchId 0 jobs = .ok inputs ∧ ∃ answer,
          site.withTx faults.commit (createAll faults.create env.now 0 inputs) =
            .ok (done.2, answer) ∧ done.1 = ⟨201, .batch batchId answer⟩ := by
  subst answered
  unfold JobHandler.createBatchUnder withId withBody
  dsimp only
  split
  · exact .inl ⟨invalid_isError _ _, rfl⟩
  · split
    · exact .inl ⟨invalid_isError _ _, rfl⟩
    · unfold withFound
      split
      next e missing => exact .inl ⟨failure_isError "" "" e, rfl⟩
      next queue found =>
        obtain ⟨member, same⟩ := mem_of_getQueue found
        dsimp only
        split
        · exact .inl ⟨invalid_isError _ _, rfl⟩
        next inputs builds =>
          split
          next e fails => exact .inl ⟨e.response_isError, rfl⟩
          next site' answer commits =>
            exact .inr ⟨queue, member, same, inputs, builds, answer, commits, rfl⟩

/-- The request is valid, and its numbers are in the range of their columns. -/
def Insertable (env : ApiEnv) (queue : Queue) (req : CreateJobRequest) : Prop :=
  ∃ input, buildJobInput env.cron env.instant req queue = .ok input ∧
    InInt4 input.priority ∧ InInt4 input.maxAttempts

/-- For a queue that exists, `Create` fails on numbers out of range only. -/
theorem createJob_ok_iff {db : Database} {now : Timestamptz} {id : UUID} {input : CreateJobInput}
    (target : ∃ q ∈ db.queues, q.id = input.queueId) :
    (∃ done, db.createJob now id input = .ok done) ↔
      InInt4 input.priority ∧ InInt4 input.maxAttempts := by
  unfold Database.createJob
  by_cases inRange : InInt4 input.priority ∧ InInt4 input.maxAttempts
  · rw [if_neg (not_not.mpr inRange)]
    refine iff_of_true ?_ inRange
    split
    · exact ⟨_, rfl⟩
    · rw [if_neg (not_not.mpr target)]
      exact ⟨_, rfl⟩
  · rw [if_pos inRange]
    refine iff_of_false ?_ inRange
    rintro ⟨_, ⟨⟩⟩

theorem createJob_queues {db db' : Database} {now : Timestamptz} {id : UUID}
    {input : CreateJobInput} {result : CreateJobResult}
    (creates : db.createJob now id input = .ok (db', result)) : db'.queues = db.queues := by
  rcases createJob_cases creates with ⟨_, _, _, _, rfl⟩ | ⟨_, _, rfl⟩ <;> rfl

/-- Without failures of their own the calls of the loop fail on numbers out of range only. -/
theorem createAll_ok_iff {now : Timestamptz} {inputs : List (UUID × CreateJobInput)} :
    ∀ {index : Nat} {db : Database},
      (∀ entry ∈ inputs, ∃ q ∈ db.queues, q.id = entry.2.queueId) →
        ((∃ done, createAll (fun _ => false) now index inputs db = .ok done) ↔
          ∀ entry ∈ inputs, InInt4 entry.2.priority ∧ InInt4 entry.2.maxAttempts) := by
  induction inputs with
  | nil => exact fun _ => iff_of_true ⟨_, rfl⟩ (List.forall_mem_nil _)
  | cons entry rest ih =>
      obtain ⟨id, input⟩ := entry
      intro index db targets
      rw [List.forall_mem_cons] at targets ⊢
      obtain ⟨target, others⟩ := targets
      constructor
      · rintro ⟨⟨db', answer⟩, creates⟩
        obtain ⟨middle, result, jobs, first, later, _⟩ := createAll_cons creates
        rw [← createJob_queues first] at others
        exact ⟨(createJob_ok_iff target).mp ⟨_, first⟩, (ih others).mp ⟨_, later⟩⟩
      · rintro ⟨inRange, ranges⟩
        obtain ⟨⟨middle, result⟩, first⟩ :=
          (@createJob_ok_iff db now id input target).mpr inRange
        rw [← createJob_queues first] at others
        obtain ⟨done, later⟩ := (ih others).mpr ranges
        refine ⟨(done.1, result.job :: done.2), ?_⟩
        unfold createAll
        rw [if_neg Bool.false_ne_true, first]
        dsimp only
        rw [later]

theorem buildInputs_ok_iff {cron : CronParser} {instant : Time} {queue : Queue} {batchId : UUID} :
    ∀ {index : Nat} {jobs : List (UUID × CreateJobRequest)},
      (∃ inputs, buildInputs cron instant queue batchId index jobs = .ok inputs) ↔
        ∀ entry ∈ jobs, ∃ input, buildJobInput cron instant entry.2 queue = .ok input
  | _, [] => iff_of_true ⟨_, rfl⟩ (List.forall_mem_nil _)
  | index, (id, req) :: rest => by
      have ih := @buildInputs_ok_iff cron instant queue batchId (index + 1) rest
      rw [buildInputs, List.forall_mem_cons, ← ih]
      cases buildJobInput cron instant req queue with
      | error errors => simp
      | ok input => cases buildInputs cron instant queue batchId (index + 1) rest <;> simp

/-- Without failures, the transaction of inputs for a queue commits if their numbers are in range,
and only then. -/
theorem withTx_ok_iff {env : ApiEnv} {site : Site} {queue : Queue} (member : queue ∈ site.queues)
    {inputs : List (UUID × CreateJobInput)}
    (targets : ∀ entry ∈ inputs, entry.2.queueId = queue.id) :
    (∃ done, site.withTx false (createAll (fun _ => false) env.now 0 inputs) = .ok done) ↔
      ∀ entry ∈ inputs, InInt4 entry.2.priority ∧ InInt4 entry.2.maxAttempts := by
  have exist : ∀ entry ∈ inputs, ∃ q ∈ site.core.queues, q.id = entry.2.queueId :=
    fun entry listed => ⟨queue, member, (targets entry listed).symm⟩
  rw [← @createAll_ok_iff env.now inputs 0 site.core exist]
  unfold Site.withTx
  cases createAll (fun _ => false) env.now 0 inputs site.core with
  | error e => simp
  | ok done => simp

theorem ApiResponse.IsError.not_created {response : ApiResponse} (fails : response.IsError) :
    response.status ≠ 201 := by
  have bound := fails.1
  omega

/-- The numbers of the inputs are in range if the requests can be inserted. -/
theorem inRange_iff_insertable {env : ApiEnv} {queue : Queue} {batchId : UUID} {index : Nat}
    {jobs : List (UUID × CreateJobRequest)} {inputs : List (UUID × CreateJobInput)}
    (builds : buildInputs env.cron env.instant queue batchId index jobs = .ok inputs) :
    (∀ entry ∈ inputs, InInt4 entry.2.priority ∧ InInt4 entry.2.maxAttempts) ↔
      ∀ entry ∈ jobs, Insertable env queue entry.2 := by
  have built := buildInputs_builtFrom builds
  clear builds
  induction built with
  | nil => simp
  | cons first _ ih =>
      obtain ⟨input, made, rfl⟩ := first
      rw [List.forall_mem_cons, List.forall_mem_cons]
      refine and_congr ?_ ih
      constructor
      · exact fun inRange => ⟨input, made, inRange⟩
      · rintro ⟨_, same, inRange⟩
        rw [made] at same
        cases same
        exact inRange

/-- **When a batch is created.** If no call fails on its own, it is created exactly when it has 1 to
1000 requests, the organization has the queue, and each request can be inserted. -/
theorem batch_created_iff (env : ApiEnv) (orgId : UUID) (site : Site) (queueId : UUID)
    (jobs : List (UUID × CreateJobRequest)) (batchId : UUID) :
    (JobHandler.createBatchUnder ⟨fun _ => false, false⟩ env orgId site (some queueId) (.ok jobs)
      batchId).1.status = 201 ↔
      jobs ≠ [] ∧ jobs.length ≤ 1000 ∧ ∃ queue, site.getQueue queueId orgId = .ok queue ∧
        ∀ entry ∈ jobs, Insertable env queue entry.2 := by
  unfold JobHandler.createBatchUnder withId withBody
  dsimp only
  by_cases empty : jobs = []
  · rw [if_pos empty]
    exact iff_of_false (invalid_isError _ _).not_created fun created => created.1 empty
  rw [if_neg empty]
  by_cases long : 1000 < jobs.length
  · rw [if_pos long]
    exact iff_of_false (invalid_isError _ _).not_created fun created => by omega
  rw [if_neg long]
  unfold withFound
  cases found : site.getQueue queueId orgId with
  | error e =>
      refine iff_of_false (failure_isError "" "" e).not_created ?_
      rintro ⟨_, _, _, ⟨⟩, _⟩
  | ok queue =>
      have member := (mem_of_getQueue found).1
      dsimp only
      cases builds : buildInputs env.cron env.instant queue batchId 0 jobs with
      | error invalid =>
          refine iff_of_false (invalid_isError _ _).not_created ?_
          rintro ⟨_, _, _, ⟨⟩, insertable⟩
          have valid : ∀ entry ∈ jobs, ∃ input,
              buildJobInput env.cron env.instant entry.2 queue = .ok input :=
            fun entry listed => (insertable entry listed).imp fun _ => And.left
          obtain ⟨inputs, made⟩ :=
            (@buildInputs_ok_iff env.cron env.instant queue batchId 0 jobs).mpr valid
          rw [builds] at made
          cases made
      | ok inputs =>
          have commits :=
            @withTx_ok_iff env site queue member inputs (buildInputs_columns builds).2.1
          rw [inRange_iff_insertable builds] at commits
          dsimp only
          cases done : site.withTx false (createAll (fun _ => false) env.now 0 inputs) with
          | error e =>
              refine iff_of_false e.response_isError.not_created ?_
              rintro ⟨_, _, _, ⟨⟩, insertable⟩
              obtain ⟨_, committed⟩ := commits.mpr insertable
              rw [done] at committed
              cases committed
          | ok written =>
              exact iff_of_true rfl
                ⟨empty, Nat.le_of_not_lt long, queue, rfl, commits.mp ⟨written, done⟩⟩

/-! ## The batch's id

The id goes on the inputs, and the answer has the rows: those that `Create` has inserted, and those
that it has fetched because their key was taken. -/

/-- No job of the queue has a key of the batch yet. -/
def KeysFree (queueId : UUID) (table : List Job) (jobs : List (UUID × CreateJobRequest)) : Prop :=
  ∀ entry ∈ jobs, ∀ key, entry.2.idempotencyKey = some key →
    ∀ row ∈ table, ¬ Keyed queueId key row

theorem buildInputs_batchId {cron : CronParser} {instant : Time} {queue : Queue} {batchId : UUID}
    {index : Nat} {jobs : List (UUID × CreateJobRequest)} {inputs : List (UUID × CreateJobInput)}
    (builds : buildInputs cron instant queue batchId index jobs = .ok inputs) :
    ∀ entry ∈ inputs, entry.2.batchId = some batchId := by
  have built := buildInputs_builtFrom builds
  clear builds
  induction built with
  | nil => simp
  | cons first _ ih =>
      obtain ⟨input, _, rfl⟩ := first
      exact List.forall_mem_cons.mpr ⟨rfl, ih⟩

section SharedId

variable {fails : Nat → Bool} {now : Timestamptz} {queueId batchId : UUID}

/-- The loop answers with jobs of the batch if each row that has one of its keys is of the batch. -/
theorem createAll_shared {inputs : List (UUID × CreateJobInput)} :
    ∀ {index : Nat} {db db' : Database} {answer : List Job},
      (∀ entry ∈ inputs, entry.2.queueId = queueId ∧ entry.2.batchId = some batchId) →
      (∀ entry ∈ inputs, ∀ key, entry.2.idempotencyKey = some key → ∀ row ∈ db.jobs,
        Keyed queueId key row → row.batchId = some batchId) →
      createAll fails now index inputs db = .ok (db', answer) →
        ∀ job ∈ answer, job.batchId = some batchId := by
  induction inputs with
  | nil =>
      intro index db db' answer _ _ creates
      cases creates
      simp
  | cons entry rest ih =>
      intro index db db' answer columns shared creates
      obtain ⟨middle, result, jobs, first, later, rfl⟩ := createAll_cons creates
      rw [List.forall_mem_cons] at columns shared
      obtain ⟨⟨target, ofBatch⟩, others⟩ := columns
      rw [List.forall_mem_cons]
      rcases createJob_cases first with ⟨key, keyed, present, holds, rfl⟩ | ⟨_, row, rfl⟩
      · rw [target] at holds
        exact ⟨shared.1 key keyed _ present holds, ih others shared.2 later⟩
      · refine ⟨row ▸ ofBatch, ih others ?_ later⟩
        intro entry' listed key keyed job member holds
        rcases List.mem_append.mp member with old | new
        · exact shared.2 entry' listed key keyed job old holds
        · rw [List.mem_singleton.mp new]
          exact ofBatch

/-- A taken key stays taken by the jobs that have it, so its request is answered with one of
them. -/
theorem createAll_taken {key : String} {inputs : List (UUID × CreateJobInput)} :
    ∀ {index : Nat} {db db' : Database} {answer : List Job},
      (∀ entry ∈ inputs, entry.2.queueId = queueId) →
      (∃ row ∈ db.jobs, Keyed queueId key row) →
      (∀ row ∈ db.jobs, Keyed queueId key row → row.batchId ≠ some batchId) →
      (∃ entry ∈ inputs, entry.2.idempotencyKey = some key) →
      createAll fails now index inputs db = .ok (db', answer) →
        ∃ job ∈ answer, job.batchId ≠ some batchId := by
  induction inputs with
  | nil =>
      rintro index db db' answer _ _ _ ⟨entry, listed, _⟩
      exact absurd listed List.not_mem_nil
  | cons entry rest ih =>
      intro index db db' answer targets taken foreign asked creates
      obtain ⟨middle, result, jobs, first, later, rfl⟩ := createAll_cons creates
      rw [List.forall_mem_cons] at targets
      obtain ⟨target, others⟩ := targets
      simp only [List.mem_cons, exists_eq_or_imp] at asked ⊢
      by_cases here : entry.2.idempotencyKey = some key
      · left
        rcases createJob_cases first with ⟨key', keyed, present, holds, _⟩ | ⟨free, _, _⟩
        · rw [target] at holds
          obtain rfl : key' = key := Option.some.inj (keyed.symm.trans here)
          exact foreign _ present holds
        · obtain ⟨row, member, holds⟩ := taken
          rw [target] at free
          exact absurd holds (free key here row member)
      · right
        have asked' := asked.resolve_left here
        rcases createJob_cases first with ⟨_, _, _, _, rfl⟩ | ⟨_, _, rfl⟩
        · exact ih others taken foreign asked' later
        · refine ih others ?_ ?_ asked' later
          · obtain ⟨row, member, holds⟩ := taken
            exact ⟨row, List.mem_append_left _ member, holds⟩
          · intro row member holds
            rcases List.mem_append.mp member with old | new
            · exact foreign row old holds
            · rw [List.mem_singleton.mp new] at holds
              exact absurd holds.2 here

end SharedId

/-- **The jobs of an answer share the batch's id if no key of the batch is taken, and, as the id is
new, only then.** -/
theorem batch_shares_id_iff {faults : Faults} {env : ApiEnv} {orgId : UUID} {site : Site}
    {queueId : UUID} {jobs : List (UUID × CreateJobRequest)} {batchId reported : UUID}
    {answer : List Job}
    (answered : (JobHandler.createBatchUnder faults env orgId site (some queueId) (.ok jobs)
      batchId).1 = ⟨201, .batch reported answer⟩) :
    (KeysFree queueId site.jobs jobs → ∀ job ∈ answer, job.batchId = some reported) ∧
      ((∀ row ∈ site.jobs, row.batchId ≠ some batchId) →
        (∀ job ∈ answer, job.batchId = some reported) → KeysFree queueId site.jobs jobs) := by
  rcases createBatchUnder_cases faults env orgId site queueId jobs batchId rfl with
    ⟨failed, _⟩ | ⟨queue, _, rfl, inputs, builds, _, commits, created⟩
  · rw [answered] at failed
    obtain ⟨_, _, _, _, body⟩ := failed
    cases body
  · rw [answered] at created
    cases created
    obtain ⟨_, targets, keys⟩ := buildInputs_columns builds
    have ofBatch := buildInputs_batchId builds
    obtain ⟨db, loop, _⟩ := Site.withTx_ok commits
    have asked : ∀ key, (∃ entry ∈ inputs, entry.2.idempotencyKey = some key) ↔
        ∃ entry ∈ jobs, entry.2.idempotencyKey = some key := by
      intro key
      rw [← List.mem_map (f := fun entry : UUID × CreateJobInput => entry.2.idempotencyKey), keys,
        List.mem_map]
    constructor
    · intro free
      refine createAll_shared (fun entry listed => ⟨targets entry listed, ofBatch entry listed⟩)
        ?_ loop
      intro entry listed key keyed row member holds
      obtain ⟨request, sent, sameKey⟩ := (asked key).mp ⟨entry, listed, keyed⟩
      exact absurd holds (free request sent key sameKey row member)
    · intro fresh shared request sent key keyed row member holds
      have foreign : ∃ job ∈ answer, job.batchId ≠ some batchId :=
        createAll_taken targets ⟨row, member, holds⟩ (fun row member _ => fresh row member)
          ((asked key).mpr ⟨request, sent, keyed⟩) loop
      obtain ⟨job, listed, other⟩ := foreign
      exact other (shared job listed)

/-- A request for a job with the key. -/
def keyedRequest (key : String) : CreateJobRequest :=
  { payload := ⟨2, some .null⟩, priority := none, maxAttempts := none, idempotencyKey := some key,
    delaySeconds := none, runAt := none, cronExpr := none }

/-- A batch that uses a key twice, sent to the first organization. -/
def twiceKeyed (batchId : UUID) (site : Site) : ApiResponse × Site :=
  JobHandler.createBatchUnder ⟨fun _ => false, false⟩ plainEnv 1 site (some 100)
    (.ok [(batchId + 1, keyedRequest "key"), (batchId + 2, keyedRequest "key")]) batchId

theorem batch_created_twiceKeyed : (twiceKeyed 3000 twoOrganizations).1.status = 201 := by
  refine (batch_created_iff _ _ _ _ _ _).mpr ⟨by simp, by simp, ⟨100, 10, "queue", "queue", none, 0,
    none, false, 0, 0⟩, rfl, ?_⟩
  rw [List.forall_mem_cons, List.forall_mem_singleton]
  exact ⟨⟨_, rfl, by decide, by decide⟩, ⟨_, rfl, by decide, by decide⟩⟩

theorem batch_shares_id_twiceKeyed :
    ∃ answer, (twiceKeyed 3000 twoOrganizations).1 = ⟨201, .batch 3000 answer⟩ ∧
      answer.length = 2 ∧ ∀ job ∈ answer, job.batchId = some 3000 := by
  obtain ⟨answer, answered, both⟩ : ∃ answer,
      (twiceKeyed 3000 twoOrganizations).1 = ⟨201, .batch 3000 answer⟩ ∧ answer.length = 2 :=
    ⟨_, rfl, rfl⟩
  refine ⟨answer, answered, both, (batch_shares_id_iff answered).1 ?_⟩
  intro request sent key keyed row member holds
  have unkeyed : ∀ row ∈ twoOrganizations.jobs, row.idempotencyKey = none := by
    simp [twoOrganizations, twoOrganizations.deadJob]
  rw [Keyed, unkeyed row member] at holds
  exact absurd holds.2 (Option.some_ne_none key).symm

/-- The batch is sent again: its key is taken now, and the jobs of the answer are of the first
batch. -/
theorem taken_key_of_former_batch :
    ¬ ∀ (faults : Faults) (env : ApiEnv) (orgId : UUID) (site : Site) (queueId : UUID)
      (jobs : List (UUID × CreateJobRequest)) (batchId reported : UUID) (answer : List Job),
      (∀ row ∈ site.jobs, row.batchId ≠ some batchId) →
      (JobHandler.createBatchUnder faults env orgId site (some queueId) (.ok jobs) batchId).1 =
        ⟨201, .batch reported answer⟩ → ∀ job ∈ answer, job.batchId = some reported := by
  intro claim
  obtain ⟨answer, answered, first⟩ : ∃ answer,
      (twiceKeyed 4000 (twiceKeyed 3000 twoOrganizations).2).1 = ⟨201, .batch 4000 answer⟩ ∧
        answer.map (·.batchId) = [some 3000, some 3000] :=
    ⟨_, rfl, rfl⟩
  have fresh : ∀ row ∈ (twiceKeyed 3000 twoOrganizations).2.jobs, row.batchId ≠ some 4000 := by
    decide
  have shared := claim _ _ _ _ _ _ _ _ answer fresh answered
  rw [← List.forall_mem_map (f := fun job : Job => job.batchId) (P := (· = some 4000)), first]
    at shared
  exact absurd (shared (some 3000) List.mem_cons_self) (by decide)

end JobScheduler
