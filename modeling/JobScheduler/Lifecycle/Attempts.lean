import JobScheduler.Lifecycle.Ownership

/-!
# Attempts and dead letters

`attempts` is computed from the in-memory copy of a job and written blindly, and
`dead_letter_queue` is a second copy of the fact that a job is dead. In timely runs the
two stay in agreement: a row is dead-lettered exactly when it has a dead letter, which
then is the only one and tells the same story, and any other row has attempts left.
-/

set_option autoImplicit false

namespace JobScheduler

open Relational Transition

/-- The dead letters of a job. -/
def Database.lettersOf (db : Database) (jobId : UUID) : List DeadLetterEntry :=
  db.deadLetterQueue.filter (·.jobId = jobId)

/-- What a dead letter says of its job. -/
structure DeadLetterEntry.Describes (entry : DeadLetterEntry) (row : Job) : Prop where
  attemptsMade : entry.attemptsMade = row.maxAttempts
  payload : entry.payload = row.payload
  queue : entry.originalQueueId = row.queueId

/-- Attempt accounting of a row: attempts left and no dead letter, or none left and one
dead letter. -/
inductive Accounted (db : Database) (row : Job) : Prop where
  | alive (status : row.status ≠ .deadLetter) (nonneg : 0 ≤ row.attempts)
      (left : row.attempts < row.maxAttempts) (unlettered : db.lettersOf row.id = [])
  | dead (entry : DeadLetterEntry) (status : row.status = .deadLetter)
      (used : row.attempts = row.maxAttempts) (lettered : db.lettersOf row.id = [entry])
      (describes : entry.Describes row)

/-- The accounts of a state. Dead letters belong to identifiers already issued. -/
structure Accounts (w : World) : Prop where
  exclusive : Exclusive w
  rows : ∀ row ∈ w.db.jobs, Accounted w.db row
  filed : ∀ entry ∈ w.db.deadLetterQueue, entry.jobId ∈ w.issued

namespace Accounted

variable {db db' : Database} {row row' : Job}

/-- A row that is not dead stays accounted as long as its count and letters stay. -/
theorem carry (accounted : Accounted db row) (status : row.status ≠ .deadLetter)
    (fixed : row'.fixed = row.fixed) (status' : row'.status ≠ .deadLetter)
    (attempts : row'.attempts = row.attempts)
    (letters : db'.lettersOf row.id = db.lettersOf row.id) : Accounted db' row' := by
  cases accounted with
  | alive _ nonneg left unlettered =>
      refine .alive status' (by rw [attempts]; exact nonneg) ?_ ?_
      · rw [attempts, Job.maxAttempts_eq_of_fixed fixed]
        exact left
      · rw [Job.id_eq_of_fixed fixed, letters, unlettered]
  | dead _ dead => exact absurd dead status

theorem congr (accounted : Accounted db row)
    (letters : db'.lettersOf row.id = db.lettersOf row.id) : Accounted db' row := by
  cases accounted with
  | alive status nonneg left unlettered =>
      exact .alive status nonneg left (letters.trans unlettered)
  | dead entry status used lettered describes =>
      exact .dead entry status used (letters.trans lettered) describes

theorem unlettered (accounted : Accounted db row) (status : row.status ≠ .deadLetter) :
    0 ≤ row.attempts ∧ row.attempts < row.maxAttempts ∧ db.lettersOf row.id = [] := by
  cases accounted with
  | alive _ nonneg left unlettered => exact ⟨nonneg, left, unlettered⟩
  | dead _ dead => exact absurd dead status

end Accounted

/-! ## Dead letters before and after a step -/

/-- The letters of a row whose queue survives a deletion survive too. -/
theorem lettersOf_deleteQueues {db : Database} {row : Job} {gone : List UUID}
    (ids : (db.jobs.map (·.id)).Nodup) (member : row ∈ db.jobs) (spared : row.queueId ∉ gone)
    (queues : ∀ entry ∈ db.lettersOf row.id, entry.originalQueueId = row.queueId) :
    (db.deleteQueues gone).lettersOf row.id = db.lettersOf row.id := by
  unfold Database.lettersOf Database.deleteQueues
  rw [List.filter_filter]
  refine List.filter_congr fun entry entryMember => ?_
  by_cases own : entry.jobId = row.id
  · have queue := queues entry (List.mem_filter.mpr ⟨entryMember, decide_eq_true own⟩)
    have kept : entry.jobId ∉ (db.jobs.filter (·.queueId ∈ gone)).map (·.id) := by
      intro listed
      obtain ⟨other, otherMember, same⟩ := List.mem_map.mp listed
      rw [List.mem_filter, decide_eq_true_eq] at otherMember
      have eq := eq_of_key_eq ids otherMember.1 member (same.trans own)
      rw [eq] at otherMember
      exact spared otherMember.2
    rw [← queue] at spared
    simp only [own, decide_true, Bool.true_and, decide_eq_true_eq]
    rw [own] at kept
    exact ⟨kept, spared⟩
  · simp [own]

/-! ## The writes of an execution -/

section Writes

variable {db db' : Database} {now : Timestamptz} {job row : Job} {pc : Pc}
  {rewrite : Job → Job}

/-- The letters of a job after its `MoveToDLQ`. -/
theorem lettersOf_moved {errMsg : String} (ids : (db.jobs.map (·.id)).Nodup)
    (member : row ∈ db.jobs) (own : row.id = job.id) (unlettered : db.lettersOf row.id = [])
    (letters : db'.deadLetterQueue =
      db.deadLetterQueue ++ (Pc.moveToDLQ errMsg).deadLetters now job db) :
    db'.lettersOf row.id = [row.deadLetterEntry now errMsg (job.attempts + 1)] := by
  unfold Database.lettersOf at unlettered ⊢
  rw [letters, List.filter_append, unlettered, List.nil_append]
  simp only [Pc.deadLetters, ← own]
  rw [filter_key_eq_singleton ids member]
  simp [Job.deadLetterEntry]

/-- What an execution writes is accounted for: the count of a retry stays below the limit,
and that of a dead letter meets it. -/
theorem Accounted.rewritten (accounted : Accounted db row) (ids : (db.jobs.map (·.id)).Nodup)
    (member : row ∈ db.jobs) (own : row.id = job.id) (fits : pc.Matches job row)
    (plan : pc.Plan job) (limit : row.maxAttempts = job.maxAttempts)
    (writes : pc.rewrite now job = some rewrite)
    (letters : db'.deadLetterQueue = db.deadLetterQueue ++ pc.deadLetters now job db) :
    Accounted db' (rewrite row) := by
  obtain ⟨nonneg, left, unlettered⟩ :=
    accounted.unlettered (fits.status_ne (Pc.holds_of_rewrite writes) (by decide))
  have plain : pc.deadLetters now job db = [] → db'.lettersOf row.id = [] := by
    intro none
    unfold Database.lettersOf at unlettered ⊢
    rw [letters, none, List.append_nil]
    exact unlettered
  cases pc with
  | completeIdempotent | setRunning | complete =>
      cases writes
      exact .alive (by simp [Job.complete, Job.setRunning]) nonneg left (plain rfl)
  | failJob errMsg nextRunAt =>
      cases writes
      simp only [Pc.Plan] at plan
      have counted := fits.2
      refine .alive (by simp [Job.fail]) ?_ ?_ (plain rfl)
      · simp only [Job.fail]
        omega
      · simp only [Job.fail]
        omega
  | requeueForRetry nextRunAt =>
      cases writes
      simp only [Pc.Plan] at plan
      have counted : row.attempts = job.attempts ∨ row.attempts = job.attempts + 1 := by
        rcases fits with ⟨_, counted⟩ | ⟨_, counted⟩
        · exact .inl counted
        · exact .inr counted
      refine .alive (by simp [Job.requeueForRetry]) ?_ ?_ (plain rfl)
      · simp only [Job.requeueForRetry]
        omega
      · simp only [Job.requeueForRetry]
        omega
  | moveToDLQ errMsg =>
      cases writes
      simp only [Pc.Plan] at plan
      have counted := fits.2
      have used : job.attempts + 1 = row.maxAttempts := by omega
      have lettered := lettersOf_moved ids member own unlettered letters
      exact .dead _ rfl used lettered ⟨used, rfl, rfl⟩
  | _ => cases writes

end Writes

namespace World

variable {cron : CronParser} {w w' : World} {a : Action}

/-- What a step does to the dead letters. -/
inductive LetterStep (w w' : World) : Action → Prop where
  | kept {a : Action} (same : w'.db.deadLetterQueue = w.db.deadLetterQueue) :
      LetterStep w w' a
  | deleted {request : Request} (gone : List UUID)
      (jobs : w'.db.jobs = w.db.jobs.filter (·.queueId ∉ gone))
      (letters : w'.db.deadLetterQueue = (w.db.deleteQueues gone).deadLetterQueue) :
      LetterStep w w' (.api request)
  | retried {id orgId : UUID}
      (letters : w'.db.deadLetterQueue = w.db.deadLetterQueue.filter (·.jobId ≠ id)) :
      LetterStep w w' (.api (.retryDLQJob id orgId))
  | moved {ticket : Nat} {draw : Int} {task : Task} (taken : w.tasks ticket = some task)
      (due : task.pc.rewrite w.now task.job ≠ none)
      (free : ∀ errMsg, task.pc = .moveToDLQ errMsg →
        (∃ row ∈ w.db.jobs, row.id = task.job.id) →
        ∀ entry ∈ w.db.deadLetterQueue, entry.jobId ≠ task.job.id)
      (letters : w'.db.deadLetterQueue =
        w.db.deadLetterQueue ++ task.pc.deadLetters w.now task.job w.db) :
      LetterStep w w' (.exec ticket (.call true draw))

theorem step_letters (moves : Moves cron w a w') : LetterStep w w' a := by
  cases moves with
  | api request db nodup fresh performs =>
      cases perform_effect performs with
      | configured _ letters => exact .kept letters
      | deleted gone jobs letters => exact .deleted gone jobs letters
      | inserted rows result =>
          subst result
          exact .kept rfl
      | retried id orgId retries dead result =>
          subst retries
          subst result
          exact .retried rfl
  | claim worker tie emit engine queueId queues db jobs found running phase claims =>
      obtain ⟨targets, _, rfl, _⟩ := w.db.claimJobs_spec claims
      exact .kept rfl
  | release worker succeeds | deregister worker succeeds =>
      cases succeeds with
      | false => exact .kept rfl
      | true => exact .kept rfl
  | exec ticket response task engine db pc event taken found alive permitted advances =>
      cases advance_effect advances with
      | spared same => exact .kept same.deadLetterQueue
      | written writes free =>
          refine .moved taken ?_ free rfl
          rw [writes]
          exact Option.some_ne_none _
  | tick | sweep | markDead | register | heartbeat | cancel | crash | poll | claimFailed
  | dispatch | proceed | finish => exact .kept rfl

/-- Dead letters are only added by `MoveToDLQ`, for the job's own row. -/
theorem letter_before (moves : Moves cron w a w') {entry : DeadLetterEntry}
    (member : entry ∈ w'.db.deadLetterQueue) :
    entry ∈ w.db.deadLetterQueue ∨ ∃ row ∈ w.db.jobs, entry.jobId = row.id := by
  cases step_letters moves with
  | kept same =>
      rw [same] at member
      exact .inl member
  | deleted gone jobs letters =>
      rw [letters] at member
      exact .inl (List.mem_of_mem_filter member)
  | retried letters =>
      rw [letters] at member
      exact .inl (List.mem_of_mem_filter member)
  | moved taken due free letters =>
      rw [letters] at member
      rcases List.mem_append.mp member with old | new
      · exact .inl old
      · obtain ⟨errMsg, row, rowMember, own, rfl⟩ := Pc.mem_deadLetters new
        exact .inr ⟨row, rowMember, rfl⟩

/-- The letters a `MoveToDLQ` inserts are those of its own job. -/
theorem lettersOf_other {task : Task} {row : Job} (other : row.id ≠ task.job.id) :
    (task.pc.deadLetters w.now task.job w.db).filter (·.jobId = row.id) = [] := by
  rw [List.filter_eq_nil_iff]
  intro entry member
  obtain ⟨errMsg, found, _, own, rfl⟩ := Pc.mem_deadLetters member
  rw [decide_eq_true_eq]
  intro same
  exact other (same.symm.trans own)

/-- A row that a step spares keeps its letters. -/
theorem lettersOf_kept (moves : Moves cron w a w') (inv : Accounts w) {row : Job}
    (member : row ∈ w.db.jobs) (member' : row ∈ w'.db.jobs) (spared : w.Spares row a) :
    w'.db.lettersOf row.id = w.db.lettersOf row.id := by
  have ids := inv.exclusive.wellFormed.ids
  cases step_letters moves with
  | kept same => exact congrArg (List.filter _) same
  | deleted gone jobs letters =>
      rw [jobs, List.mem_filter, decide_eq_true_eq] at member'
      rw [← lettersOf_deleteQueues ids member member'.2]
      · exact congrArg (List.filter _) letters
      · intro entry entryMember
        cases inv.rows row member with
        | alive _ _ _ unlettered =>
            rw [unlettered] at entryMember
            cases entryMember
        | dead letter _ _ lettered describes =>
            rw [lettered, List.mem_singleton] at entryMember
            rw [entryMember]
            exact describes.queue
  | @retried id _ letters =>
      replace spared : row.id ≠ id := spared
      unfold Database.lettersOf
      rw [letters, List.filter_filter]
      refine List.filter_congr fun entry _ => ?_
      by_cases own : entry.jobId = row.id
      · simp [own, spared]
      · simp [own]
  | @moved ticket draw task taken due free letters =>
      have other : row.id ≠ task.job.id := by
        intro own
        obtain ⟨errMsg, moving, entry, entryMember, same⟩ := spared task taken own due
        exact free errMsg moving ⟨row, member, own⟩ entry entryMember same
      unfold Database.lettersOf
      rw [letters, List.filter_append, lettersOf_other other, List.append_nil]

/-- A successful write of an execution keeps the account of its row. -/
theorem accounted_written (moves : Moves cron w a w') (fresh : NoStaleWrite w a)
    (inv : Accounts w) {ticket : Nat} {draw : Int} {task : Task} {rewrite : Job → Job}
    {row : Job}
    (executes : a = .exec ticket (.call true draw)) (taken : w.tasks ticket = some task)
    (live : w.Live task.worker) (writes : task.pc.rewrite w.now task.job = some rewrite)
    (own : row.id = task.job.id) (member : row ∈ w.db.jobs) :
    Accounted w'.db (rewrite row) := by
  subst executes
  have wf := inv.exclusive.wellFormed
  have owns := writer_owns fresh taken live writes
  have fits := (inv.exclusive.possesses ticket task taken owns row member own).fits
  have plan := wf.planned ticket task taken
  have limit := Job.maxAttempts_eq_of_fixed (wf.copies ticket task taken row member own)
  have accounted := inv.rows row member
  cases moves with
  | exec _ _ task' engine db pc' event taken' found running permitted advances =>
      rw [taken] at taken'
      cases taken'
      cases advance_effect advances with
      | spared same missing =>
          -- a leftover letter would have to be there, but the row has none
          have due : task.pc.rewrite w.now task.job ≠ none := by
            rw [writes]
            exact Option.some_ne_none _
          obtain ⟨_, _, entry, entryMember, letter⟩ := missing draw rfl due
          have listed : entry ∈ w.db.lettersOf row.id :=
            List.mem_filter.mpr ⟨entryMember, decide_eq_true (letter.trans own.symm)⟩
          rw [(accounted.unlettered (fits.status_ne owns.1.1 (by decide))).2.2] at listed
          cases listed
      | written _ free =>
          exact accounted.rewritten wf.ids member own fits plan limit writes rfl

/-- The account of a row after a step. -/
theorem accounted_row (moves : Moves cron w a w') (fresh : NoStaleWrite w a)
    (inv : Accounts w) {row row' : Job}
    (member : row ∈ w.db.jobs) (member' : row' ∈ w'.db.jobs) (change : RowStep w a row row') :
    Accounted w'.db row' := by
  have accounted := inv.rows row member
  cases change with
  | kept spared => exact accounted.congr (lettersOf_kept moves inv member member' spared)
  | claimed found running claimable =>
      have queued := claimable.2.1
      refine accounted.carry (by rw [queued]; simp) rfl (by simp [Job.claim]) rfl ?_
      cases moves with
      | claim worker tie emit engine queueId queues db jobs found running phase claims =>
          obtain ⟨targets, _, rfl, _⟩ := w.db.claimJobs_spec claims
          rfl
      | claimFailed => rfl
  | written taken live writes own =>
      exact accounted_written moves fresh inv rfl taken live writes own member
  | renewed found running renews =>
      refine accounted.carry ?_ rfl ?_ rfl ?_
      · exact renews.2.ne (by decide)
      · exact renews.2.ne (by decide)
      · cases moves
        rfl
  | released found cancelled releases =>
      refine accounted.carry (by rw [releases.2]; simp) rfl (by simp [Job.release]) rfl ?_
      cases moves
      rfl
  | reclaimed orphaned =>
      refine accounted.carry ?_ rfl (by simp [Job.requeueOrphaned]) rfl ?_
      · exact orphaned.1.ne (by decide)
      · cases moves
        rfl
  | @retried _ orgId dead =>
      cases moves with
      | api request db nodup fresh performs =>
          cases perform_effect performs with
          | configured _ _ _ _ _ other => exact absurd rfl (other _ _)
          | deleted _ _ _ _ other => exact absurd rfl (other _ _)
          | inserted _ _ _ _ _ other => exact absurd rfl (other _ _)
          | retried id orgId retries _ result =>
              cases retries
              subst result
              have allowed := inv.exclusive.wellFormed.allowed row member
              refine .alive (by simp [Job.retryDLQ]) le_rfl ?_ ?_
              · simp only [Job.retryDLQ]
                omega
              · refine List.filter_eq_nil_iff.mpr fun entry listed own => ?_
                rw [List.mem_filter, decide_eq_true_eq] at listed
                exact listed.2 (of_decide_eq_true own)

/-- **The accounts are kept by every step without a stale write.** -/
theorem accounts_step (moves : Moves cron w a w') (fresh : NoStaleWrite w a)
    (inv : Accounts w) : Accounts w' where
  exclusive := exclusive_step moves fresh inv.exclusive
  rows row' member' := by
    have wf := inv.exclusive.wellFormed
    rcases step_rows moves wf.ids member' with ⟨row, member, change⟩ | new
    · exact accounted_row moves fresh inv member member' change
    · have waiting := new.waiting
      refine .alive ?_ (by rw [waiting.untried]) ?_ ?_
      · exact waiting.status_ne (by decide)
      · rw [waiting.untried]
        have allowed := waiting.allowed
        omega
      · -- a fresh identifier has no letters
        obtain ⟨_, _, _, unissued, _⟩ := new
        refine List.filter_eq_nil_iff.mpr fun entry entryMember same => ?_
        rw [decide_eq_true_eq] at same
        rw [← same] at unissued
        rcases letter_before moves entryMember with old | ⟨row, member, id⟩
        · exact unissued (inv.filed entry old)
        · rw [id] at unissued
          exact unissued (wf.issuedRows row member)
  filed entry member := by
    rcases letter_before moves member with old | ⟨row, rowMember, id⟩
    · exact issued_mono moves (inv.filed entry old)
    · rw [id]
      exact issued_mono moves (inv.exclusive.wellFormed.issuedRows row rowMember)

end World

section Runs

variable {cron : CronParser} {trace : List (World × Action)} {w : World}

theorem accounts_start (now : Timestamptz) (policies : List RetryPolicy) :
    Accounts (World.start now policies) where
  exclusive := World.exclusive_start now policies
  rows _ member := by cases member
  filed _ member := by cases member

/-- The accounts are in order in every state of a run without stale writes. -/
theorem accounts_throughout (run : Run (scheduler cron) trace w)
    (fresh : Meets NoStaleWrite trace) : Throughout Accounts trace w := by
  refine run.throughout fresh ?_ ?_
  · rintro s ⟨now, policies, rfl⟩
    exact accounts_start now policies
  · intro s a s' taken fresh inv
    exact World.accounts_step (World.step_moves taken) fresh inv

end Runs

/-! ## Agreement of jobs and dead letters -/

/-- The attempts of a row, and the dead letters that go with it. -/
structure Balanced (db : Database) (row : Job) : Prop where
  nonneg : 0 ≤ row.attempts
  bounded : row.attempts ≤ row.maxAttempts
  left : row.status ≠ .deadLetter → row.attempts < row.maxAttempts
  agrees : row.status = .deadLetter ↔ ∃ entry ∈ db.deadLetterQueue, entry.jobId = row.id
  single : row.status = .deadLetter → ∃ entry, db.lettersOf row.id = [entry] ∧
    row.attempts = row.maxAttempts ∧ entry.attemptsMade = row.maxAttempts ∧
    entry.payload = row.payload ∧ entry.originalQueueId = row.queueId

theorem Accounted.balanced {db : Database} {row : Job} (accounted : Accounted db row)
    (allowed : 1 ≤ row.maxAttempts) : Balanced db row := by
  cases accounted with
  | alive status nonneg left unlettered =>
      refine ⟨nonneg, by omega, fun _ => left, ⟨fun dead => absurd dead status, ?_⟩,
        fun dead => absurd dead status⟩
      rintro ⟨entry, member, same⟩
      have listed : entry ∈ db.lettersOf row.id :=
        List.mem_filter.mpr ⟨member, decide_eq_true same⟩
      rw [unlettered] at listed
      cases listed
  | dead entry status used lettered describes =>
      refine ⟨by omega, by omega, fun alive => absurd status alive, ⟨fun _ => ?_, fun _ => status⟩,
        fun _ => ⟨entry, lettered, used, describes.attemptsMade, describes.payload,
          describes.queue⟩⟩
      have listed : entry ∈ db.lettersOf row.id := by
        rw [lettered]
        exact List.mem_singleton_self entry
      rw [Database.lettersOf, List.mem_filter, decide_eq_true_eq] at listed
      exact ⟨entry, listed⟩

/-- **Attempts and dead letters agree** in every state of a timely run. -/
theorem attempts_balanced (cron : CronParser) (trace : List (World × Action)) (w : World)
    (run : Run (scheduler cron) trace w) (timely : Meets Timely trace) :
    Throughout (fun state => ∀ row ∈ state.db.jobs, Balanced state.db row) trace w := by
  have all := accounts_throughout run (noStaleWrite_of_timely run timely)
  have balanced : ∀ state, Accounts state → ∀ row ∈ state.db.jobs, Balanced state.db row := by
    intro state inv row member
    exact (inv.rows row member).balanced (inv.exclusive.wellFormed.allowed row member)
  exact ⟨fun entry member => balanced _ (all.1 entry member), balanced _ all.2⟩

/-- A job with a single attempt fails and is dead-lettered. -/
def lastAttempt : List Action :=
  ([.api (.createOrg 1 "org" "org"), .api (.createProject 2 1 "project" "project" none),
    .api (.createQueue (Scenario.queue 3)),
    .api (.createJob 4 { Scenario.request none with maxAttempts := some 1 } (Scenario.queue 3)),
    .register 5 Scenario.config] : List Action) ++ Scenario.take 5 ++
    ([.exec 0 (.call true 0), .sweep, .exec 0 (.call true 0), .exec 0 .starts,
      .exec 0 (.returns (some "boom")), .exec 0 (.call true 0), .exec 0 (.call true 0),
      .exec 0 (.call true 0)] : List Action)

theorem attempts_balanced_lastAttempt :
    ∃ trace w, Run (scheduler Scenario.cron) trace w ∧
      (∃ row ∈ w.db.jobs, row.status = .deadLetter ∧ row.attempts = 1) ∧
      Throughout (fun state => ∀ row ∈ state.db.jobs, Balanced state.db row) trace w := by
  obtain ⟨trace, w, run, dead, idle⟩ :=
    exists_run_of_execute (scheduler Scenario.cron) lastAttempt (World.start 0 [])
      (fun trace w => (∃ row ∈ w.db.jobs, row.status = .deadLetter ∧ row.attempts = 1) ∧
        ∀ entry ∈ trace, entry.2.isSweep → ∀ row ∈ entry.1.db.jobs, ¬ row.Orphaned entry.1.now)
      ⟨0, [], rfl⟩ (by decide)
  exact ⟨trace, w, run, dead, attempts_balanced _ trace w run (timely_of_idle_sweeps idle)⟩

end JobScheduler
