import JobScheduler.Store.Methods
import JobScheduler.ReadCommitted.Alone

/-!
# A call that is served alone

At each point of a transaction that has the tables for itself it is known what its drafts are, in
terms of the tables as they were when it began. The statements and rows take it from one such
point to the next, or fail as the method of its call does. When it commits, the drafts are
published at once, and they are what the method writes.
-/

set_option autoImplicit false

namespace JobScheduler

open Relational ReadCommitted

/-! ## The open transaction -/

namespace Sessions

open Versions (Alone Sole)

/-- The committed rows are those of the database. -/
structure Shows (s : Sessions) (db : Database) : Prop where
  jobs : s.jobs.rows = db.jobs
  letters : s.letters.rows.map (·.entry) = db.deadLetterQueue
  queues : s.queues.rows = db.queues
  projects : s.projects = db.projects

/-- The dead letters as a transaction past its `DELETE` sees them. -/
def Lettered (letters : Versions UUID Letter) (tx : Nat) : StoreCall → Prop
  | .retryDLQJob id _ =>
      letters.seenBy Letter.id tx = letters.rows.filter (·.entry.jobId ≠ id)
  | _ => letters.drafts = []

/-- How far a transaction has come that has these tables for itself, and what its drafts are. -/
inductive Stage (jobs : Versions UUID Job) (letters : Versions UUID Letter)
    (queues : Versions UUID Queue) (db : Database) (tx : Nat) : Session → Prop where
  | begun (call : StoreCall) (now : Timestamptz) (noJobs : jobs.drafts = [])
      (noLetters : letters.drafts = []) (noQueues : queues.drafts = []) :
      Stage jobs letters queues db tx ⟨call, now, .begun⟩
  | locking (workerId queueId : UUID) (leaseSeconds : Int) (now : Timestamptz)
      (noJobs : jobs.drafts = []) (noLetters : letters.drafts = [])
      (noQueues : queues.drafts = []) :
      Stage jobs letters queues db tx
        ⟨.claimJobs workerId queueId leaseSeconds, now, .locking (db.activeCount queueId)⟩
  | budgeted (workerId queueId : UUID) (leaseSeconds : Int) (now : Timestamptz) (queue : Queue)
      (found : db.queues.find? (·.id = queueId) = some queue)
      (noJobs : jobs.drafts = []) (noLetters : letters.drafts = []) :
      Stage jobs letters queues db tx
        ⟨.claimJobs workerId queueId leaseSeconds, now, .budgeted (db.claimBudget queue)⟩
  | checked (id orgId : UUID) (now : Timestamptz)
      (found : ∃ job ∈ db.jobs, db.Retriable id orgId job) (noJobs : jobs.drafts = [])
      (noLetters : letters.drafts = []) :
      Stage jobs letters queues db tx ⟨.retryDLQJob id orgId, now, .checked⟩
  | deleting (id orgId : UUID) (now : Timestamptz) (taken rest : List Letter)
      (found : ∃ job ∈ db.jobs, db.Retriable id orgId job) (noJobs : jobs.drafts = [])
      (selected : letters.rows.filter (·.entry.jobId = id) = taken ++ rest)
      (alone : Alone Letter.id letters tx (fun _ => none) taken) :
      Stage jobs letters queues db tx
        ⟨.retryDLQJob id orgId, now, .deleting (rest.map (·.id))⟩
  | deleted (id orgId : UUID) (now : Timestamptz)
      (found : ∃ job ∈ db.jobs, db.Retriable id orgId job) (noJobs : jobs.drafts = [])
      (lettered : Lettered letters tx (.retryDLQJob id orgId)) :
      Stage jobs letters queues db tx ⟨.retryDLQJob id orgId, now, .deleted⟩
  | updating (call : StoreCall) (now : Timestamptz) (rank : UUID → Nat) (taken rest : List Job)
      (admitted : call.Admitted db) (lettered : Lettered letters tx call)
      (order : call.order now rank db.jobs = taken ++ rest)
      (within : ∀ room ∈ call.budget db, taken.length ≤ room)
      (alone : Alone Job.id jobs tx (fun job => some (call.sets now job)) taken) :
      Stage jobs letters queues db tx ⟨call, now, .updating (rest.map (·.id))
        ((call.budget db).map (· - taken.length)) (taken.map (call.sets now))⟩
  | updated (call : StoreCall) (now : Timestamptz) (rank : UUID → Nat)
      (admitted : call.Admitted db) (lettered : Lettered letters tx call)
      (alone : Alone Job.id jobs tx (fun job => some (call.sets now job))
        (call.chosen now rank db)) :
      Stage jobs letters queues db tx
        ⟨call, now, .updated ((call.chosen now rank db).map (call.sets now))⟩
  | filed (jobId letterId : UUID) (reason : String) (attempts : Int) (now : Timestamptz)
      (rank : UUID → Nat)
      (unfiled : (StoreCall.moveToDLQ jobId reason attempts letterId).Unfiled db)
      (lettered : (letters.seenBy Letter.id tx).map (·.entry) =
        (StoreCall.moveToDLQ jobId reason attempts letterId).letters now db)
      (alone : Alone Job.id jobs tx
        (fun job => some ((StoreCall.moveToDLQ jobId reason attempts letterId).sets now job))
        ((StoreCall.moveToDLQ jobId reason attempts letterId).chosen now rank db)) :
      Stage jobs letters queues db tx
        ⟨.moveToDLQ jobId reason attempts letterId, now,
          .filed (((StoreCall.moveToDLQ jobId reason attempts letterId).chosen now rank db).map
            ((StoreCall.moveToDLQ jobId reason attempts letterId).sets now))⟩

/-- One transaction has the tables for itself. The queue rows it drafts are as they were. -/
structure Serving (jobs : Versions UUID Job) (letters : Versions UUID Letter)
    (queues : Versions UUID Queue) (db : Database) (tx : Nat) (session : Session) : Prop where
  ownJobs : Sole Job.id jobs tx
  ownLetters : Sole Letter.id letters tx
  ownQueues : Sole Queue.id queues tx
  steady : queues.seenBy Queue.id tx = queues.rows
  stage : Stage jobs letters queues db tx session

/-- A step of the open transaction: it goes on, or fails as the method of its call does. -/
inductive Turn (s s' : Sessions) (db : Database) (tx : Nat) (session : Session) : Prop where
  | goesOn (point : SessionPoint) (jobs : Versions UUID Job) (letters : Versions UUID Letter)
      (queues : Versions UUID Queue)
      (same : s' = { s.put tx session point with
        jobs := jobs, letters := letters, queues := queues })
      (rows : jobs.rows = s.jobs.rows ∧ letters.rows = s.letters.rows ∧
        queues.rows = s.queues.rows)
      (running : point.ended = false)
      (serving : Serving jobs letters queues db tx { session with point := point })
  | fails (error : StoreError) (same : s' = s.abort tx session (some error))
      (answer : ∀ rank, session.call.perform session.now rank db = .error error)

variable {s s' : Sessions} {db : Database} {tx : Nat} {session : Session}

/-- The transaction moves on and leaves the tables. -/
theorem Serving.moves (serving : Serving s.jobs s.letters s.queues db tx session)
    {point : SessionPoint} (running : point.ended = false)
    (stage : Stage s.jobs s.letters s.queues db tx { session with point := point }) :
    Turn s (s.put tx session point) db tx session :=
  .goesOn point s.jobs s.letters s.queues rfl ⟨rfl, rfl, rfl⟩ running
    { serving with stage := stage }

/-- The `UPDATE` starts. -/
theorem Stage.scans (call : StoreCall) (now : Timestamptz) (rank : UUID → Nat)
    (shows : s.Shows db) (sound : s.jobs.Sound Job.id) (noJobs : s.jobs.drafts = [])
    (admitted : call.Admitted db) (lettered : Lettered s.letters tx call) :
    Stage s.jobs s.letters s.queues db tx ⟨call, now,
      .updating (call.scan now rank (s.jobs.seenBy Job.id tx)) (call.budget db) []⟩ := by
  have first : Stage s.jobs s.letters s.queues db tx _ :=
    .updating call now rank [] (call.order now rank db.jobs) admitted lettered rfl
      (fun _ _ => Nat.zero_le _) (Alone.start sound.keys noJobs)
  rw [Versions.seenBy_of_free noJobs, shows.jobs, StoreCall.scan_eq_order]
  simpa using first

/-- The checks of the two levels select the same rows. -/
theorem Shows.retriable (shows : s.Shows db) (id orgId : UUID) :
    (∃ job ∈ s.jobs.rows, s.Retriable id orgId job) ↔
      ∃ job ∈ db.jobs, db.Retriable id orgId job := by
  unfold Retriable Database.Retriable Database.QueueInOrg
  rw [shows.jobs, shows.queues, shows.projects]

theorem Shows.activeJobs (shows : s.Shows db) (queueId : UUID) :
    s.activeJobs queueId = db.activeCount queueId := by
  unfold Sessions.activeJobs Database.activeCount
  rw [shows.jobs]

/-! ## Starting a statement -/

/-- The first statement of a call. -/
theorem begun_turn {call : StoreCall} {now : Timestamptz} {rank : UUID → Nat}
    (found : s.txs[tx]? = some ⟨call, now, .begun⟩) (shows : s.Shows db)
    (serving : Serving s.jobs s.letters s.queues db tx ⟨call, now, .begun⟩)
    (taken : s.statement tx rank = some s') : Turn s s' db tx ⟨call, now, .begun⟩ := by
  obtain ⟨noJobs, noLetters, noQueues⟩ :
      s.jobs.drafts = [] ∧ s.letters.drafts = [] ∧ s.queues.drafts = [] := by
    cases serving.stage with
    | begun _ _ noJobs noLetters noQueues => exact ⟨noJobs, noLetters, noQueues⟩
  simp only [statement, found] at taken
  cases call with
  | claimJobs workerId queueId leaseSeconds =>
      dsimp only at taken
      split at taken
      · cases taken
        rw [shows.activeJobs]
        exact serving.moves rfl (.locking _ _ _ _ noJobs noLetters noQueues)
      next missing =>
        cases taken
        refine .fails .notFound rfl fun rank => ?_
        rw [shows.queues] at missing
        have absent : db.queues.find? (·.id = queueId) = none := by
          refine List.find?_eq_none.mpr fun queue member same => ?_
          exact missing ⟨queue, member, of_decide_eq_true same⟩
        simp only [StoreCall.perform, Database.claimJobs, absent]
  | retryDLQJob id orgId =>
      dsimp only at taken
      split at taken
      next retriable =>
        cases taken
        refine serving.moves rfl (.checked _ _ _ ?_ noJobs noLetters)
        exact (shows.retriable id orgId).mp retriable
      next missing =>
        cases taken
        refine .fails .notFound rfl fun rank => ?_
        rw [shows.retriable] at missing
        have absent : db.jobs.find? (db.Retriable id orgId) = none := by
          refine List.find?_eq_none.mpr fun job member retriable => ?_
          exact missing ⟨job, member, of_decide_eq_true retriable⟩
        simp only [StoreCall.perform, Database.retryDLQJob, absent]
        rfl
  | _ =>
      cases taken
      refine serving.moves rfl ?_
      exact .scans _ now rank shows serving.ownJobs.sound noJobs trivial noLetters

/-- The jobs as a `MoveToDLQ` past its `UPDATE` sees them. -/
theorem seen_moveToDLQ {jobId letterId : UUID} {reason : String} {attempts : Int}
    {now : Timestamptz} {rank : UUID → Nat} (shows : s.Shows db)
    (alone : Alone Job.id s.jobs tx
      (fun job => some ((StoreCall.moveToDLQ jobId reason attempts letterId).sets now job))
      ((StoreCall.moveToDLQ jobId reason attempts letterId).chosen now rank db)) :
    (s.jobs.seenBy Job.id tx).find? (·.id = jobId) =
      (db.jobs.find? (·.id = jobId)).map (Job.deadLetter now reason attempts) := by
  have unique := alone.unique
  rw [shows.jobs] at unique
  rw [alone.seenBy_update, shows.jobs]
  have selected := StoreCall.update_order (.moveToDLQ jobId reason attempts letterId) now rank
    unique (Job.deadLetter now reason attempts)
  have keeps : ∀ job, decide ((Job.deadLetter now reason attempts job).id = jobId) =
      decide (job.id = jobId) := fun _ => rfl
  refine (congrArg (List.find? _) selected).trans ((find?_update keeps).trans ?_)
  cases found : db.jobs.find? (·.id = jobId) with
  | none => rfl
  | some job =>
      have same := List.find?_some found
      exact congrArg some (if_pos same)

/-- The `INSERT` of `MoveToDLQ`. -/
theorem insertLetter_turn {jobId letterId : UUID} {reason : String} {attempts : Int}
    {rank : UUID → Nat} (shows : s.Shows db)
    {session : Session} (called : session.call = .moveToDLQ jobId reason attempts letterId)
    (serving : Serving s.jobs s.letters s.queues db tx session)
    (noLetters : s.letters.drafts = [])
    (alone : Alone Job.id s.jobs tx (fun job => some (session.call.sets session.now job))
        (session.call.chosen session.now rank db))
    (taken : s.insertLetter tx session jobId reason attempts letterId
      ((session.call.chosen session.now rank db).map (session.call.sets session.now)) =
        some s') :
    Turn s s' db tx session := by
  obtain ⟨call, now, point⟩ := session
  obtain rfl := called
  dsimp only at alone taken
  have unique := alone.unique
  rw [shows.jobs] at unique
  unfold insertLetter at taken
  rw [seen_moveToDLQ shows alone] at taken
  split at taken
  next absent =>
    -- no such job: nothing is inserted
    cases taken
    have missing : db.jobs.filter (·.id = jobId) = [] := by
      rw [List.filter_eq_nil_iff]
      exact List.find?_eq_none.mp (Option.map_eq_none_iff.mp absent)
    refine serving.moves rfl (.filed jobId letterId reason attempts now rank ?_ ?_ alone)
    · exact fun both => both.1 missing
    · rw [Versions.seenBy_of_free noLetters, shows.letters, StoreCall.letters, missing]
      simp
  next job found =>
    obtain ⟨old, oldFound, rfl⟩ := Option.map_eq_some_iff.mp found
    have oldId := List.find?_some oldFound
    rw [decide_eq_true_eq] at oldId
    obtain rfl := oldId
    have moved : db.jobs.filter (fun job => job.id = old.id) = [old] :=
      filter_key_eq_singleton unique (List.mem_of_find?_eq_some oldFound)
    split at taken
    · cases taken
    next free =>
      rw [not_or] at free
      rw [Versions.seenBy_of_free noLetters] at taken
      have listed : (∃ letter ∈ s.letters.rows, letter.entry.jobId = old.id) ↔
          ∃ entry ∈ db.deadLetterQueue, entry.jobId = old.id := by
        rw [← shows.letters]
        simp
      split at taken
      next clash =>
        cases taken
        refine .fails .uniqueViolation rfl fun rank => ?_
        simp only [StoreCall.perform, Database.moveToDLQ, moved]
        rw [if_pos ⟨List.cons_ne_nil _ _, listed.mp clash⟩]
        rfl
      next noClash =>
        cases taken
        have new : ∀ letter ∈ s.letters.rows, letter.id ≠ letterId :=
          fun letter member same => free.2 (.inl ⟨letter, member, same⟩)
        refine .goesOn _ s.jobs _ s.queues rfl ⟨rfl, rfl, rfl⟩ rfl
          { serving with ownLetters := ?_, stage := ?_ }
        · refine serving.ownLetters.write ?_
          rintro _ ⟨⟩
          rfl
        · refine .filed old.id letterId reason attempts now rank ?_ ?_ alone
          · exact fun both => noClash (listed.mpr both.2)
          · rw [Versions.seenBy_insert noLetters new, List.map_append, shows.letters,
              StoreCall.letters, moved]
            rfl

/-- **A statement starts.** -/
theorem statement_turn {rank : UUID → Nat} (found : s.txs[tx]? = some session)
    (shows : s.Shows db) (serving : Serving s.jobs s.letters s.queues db tx session)
    (taken : s.statement tx rank = some s') : Turn s s' db tx session := by
  cases serving.stage with
  | begun call now => exact begun_turn found shows serving taken
  | budgeted workerId queueId leaseSeconds now queue listed noJobs noLetters =>
      simp only [statement, found] at taken
      split at taken
      · cases taken
      next positive =>
        cases taken
        have room : (StoreCall.claimJobs workerId queueId leaseSeconds).budget db =
            some (db.claimBudget queue).toNat := by
          rw [StoreCall.budget, listed]
          rfl
        have stage : Stage s.jobs s.letters s.queues db tx _ :=
          .scans (.claimJobs workerId queueId leaseSeconds) now rank shows serving.ownJobs.sound
            noJobs ⟨queue, listed, Int.not_le.mp positive⟩ noLetters
        rw [room] at stage
        exact serving.moves rfl stage
  | checked id orgId now retriable noJobs noLetters =>
      simp only [statement, found] at taken
      cases taken
      exact serving.moves rfl (.deleting id orgId now [] _ retriable noJobs rfl
        (.start serving.ownLetters.sound.keys noLetters))
  | deleted id orgId now retriable noJobs lettered =>
      simp only [statement, found] at taken
      cases taken
      exact serving.moves rfl
        (.scans _ now rank shows serving.ownJobs.sound noJobs retriable lettered)
  | updated call now rank' admitted lettered alone =>
      simp only [statement, found] at taken
      cases call with
      | moveToDLQ jobId reason attempts letterId =>
          exact insertLetter_turn shows rfl serving lettered alone taken
      | _ => cases taken
  | locking | deleting | updating | filed =>
      simp only [statement, found] at taken
      cases taken

/-! ## Taking a row -/

/-- The budget `SELECT` gets the queue's row. -/
theorem locking_turn {workerId queueId : UUID} {leaseSeconds : Int}
    (called : session.call = .claimJobs workerId queueId leaseSeconds)
    (point : session.point = .locking (db.activeCount queueId))
    (found : s.txs[tx]? = some session) (shows : s.Shows db)
    (serving : Serving s.jobs s.letters s.queues db tx session)
    (noJobs : s.jobs.drafts = []) (noLetters : s.letters.drafts = [])
    (noQueues : s.queues.drafts = []) (taken : s.row tx = some s') : Turn s s' db tx session := by
  obtain ⟨call, now, point⟩ := session
  obtain rfl := called
  obtain rfl := point
  have unlocked : ¬ s.queues.LockedByOther tx queueId := by
    rintro ⟨draft, member, _⟩
    rw [noQueues] at member
    cases member
  simp only [row, found, Versions.handle, if_neg unlocked, Versions.newest_of_free noQueues]
    at taken
  cases listed : s.queues.rows.find? (·.id = queueId) with
  | none =>
      rw [listed] at taken
      cases taken
      refine .fails .notFound rfl fun rank => ?_
      rw [shows.queues] at listed
      simp only [StoreCall.perform, Database.claimJobs, listed]
  | some queue =>
      have same := List.find?_some listed
      rw [decide_eq_true_eq] at same
      rw [listed] at taken
      simp only [decide_eq_true same, if_true] at taken
      cases taken
      have member := List.mem_of_find?_eq_some listed
      obtain rfl := same
      refine .goesOn _ s.jobs s.letters _ rfl ⟨rfl, rfl, rfl⟩ rfl
        { serving with ownQueues := ?_, steady := ?_, stage := ?_ }
      · refine serving.ownQueues.write ?_
        rintro _ ⟨⟩
        rfl
      · exact Versions.seenBy_lock serving.ownQueues.sound.keys noQueues member
      · rw [shows.queues] at listed
        exact .budgeted workerId queue.id leaseSeconds now queue listed noJobs noLetters

/-- The `DELETE` of `RetryDLQJob` takes a dead letter, or ends. -/
theorem deleting_turn {id orgId : UUID} {taken₀ rest : List Letter}
    (called : session.call = .retryDLQJob id orgId)
    (point : session.point = .deleting (rest.map (·.id)))
    (found : s.txs[tx]? = some session)
    (serving : Serving s.jobs s.letters s.queues db tx session)
    (retriable : ∃ job ∈ db.jobs, db.Retriable id orgId job) (noJobs : s.jobs.drafts = [])
    (selected : s.letters.rows.filter (·.entry.jobId = id) = taken₀ ++ rest)
    (alone : Alone Letter.id s.letters tx (fun _ => none) taken₀)
    (taken : s.row tx = some s') : Turn s s' db tx session := by
  obtain ⟨call, now, point⟩ := session
  obtain rfl := called
  obtain rfl := point
  have unique := nodup_map_filter alone.unique (fun letter => letter.entry.jobId = id)
  cases rest with
  | nil =>
      simp only [row, found, List.map_nil] at taken
      cases taken
      refine serving.moves rfl (.deleted id orgId now retriable noJobs ?_)
      rw [List.append_nil] at selected
      rw [Lettered, alone.seenBy_delete, ← selected]
      refine List.filter_congr fun letter member => ?_
      have listed : letter.id ∈
          (s.letters.rows.filter (·.entry.jobId = id)).map Letter.id ↔ letter.entry.jobId = id := by
        constructor
        · intro inside
          obtain ⟨other, otherMember, same⟩ := List.mem_map.mp inside
          rw [List.mem_filter, decide_eq_true_eq] at otherMember
          rw [← eq_of_key_eq alone.unique otherMember.1 member same]
          exact otherMember.2
        · intro own
          exact List.mem_map_of_mem (List.mem_filter.mpr ⟨member, decide_eq_true own⟩)
      simp only [listed, ne_eq]
  | cons letter rest =>
      have inside : letter ∈ s.letters.rows.filter (·.entry.jobId = id) := by
        rw [selected]
        simp
      obtain ⟨member, own⟩ := List.mem_filter.mp inside
      rw [selected] at unique
      have other := Versions.key_not_mem_taken unique
      have handled := alone.handle ⟨fun l => l.entry.jobId = id, false⟩ member other own
      simp only [row, found, List.map_cons, handled] at taken
      cases taken
      refine .goesOn _ s.jobs _ s.queues rfl ⟨rfl, rfl, rfl⟩ rfl
        { serving with ownLetters := ?_, stage := ?_ }
      · refine serving.ownLetters.write ?_
        rintro _ ⟨⟩
      · refine .deleting id orgId now (taken₀ ++ [letter]) rest retriable noJobs ?_
          (alone.write member other)
        rw [List.append_assoc]
        exact selected

/-- An `UPDATE` that has no row or no room left has taken the chosen rows. -/
theorem chosen_of_spent {call : StoreCall} {now : Timestamptz} {rank : UUID → Nat}
    {taken rest : List Job} (order : call.order now rank db.jobs = taken ++ rest)
    (within : ∀ room ∈ call.budget db, taken.length ≤ room)
    (spent : rest = [] ∨ ∃ room ∈ call.budget db, room ≤ taken.length) :
    call.chosen now rank db = taken := by
  unfold StoreCall.chosen
  split
  next unlimited =>
    rcases spent with rfl | ⟨room, limited, _⟩
    · rw [order, List.append_nil]
    · rw [unlimited] at limited
      cases limited
  next room limited =>
    have fits := within room limited
    rw [order]
    rcases spent with rfl | ⟨room', limited', full⟩
    · rw [List.append_nil, List.take_of_length_le fits]
    · obtain rfl := Option.mem_unique limited limited'
      rw [List.take_append_of_le_length (Nat.le_of_eq (Nat.le_antisymm full fits)),
        List.take_of_length_le fits]

/-- The `UPDATE` takes a row. -/
theorem takes_turn {rank : UUID → Nat} {taken rest : List Job} {job : Job}
    (shows : s.Shows db) (serving : Serving s.jobs s.letters s.queues db tx session)
    (admitted : session.call.Admitted db) (lettered : Lettered s.letters tx session.call)
    (order : session.call.order session.now rank db.jobs = taken ++ job :: rest)
    (within : ∀ room ∈ session.call.budget db, taken.length + 1 ≤ room)
    (alone : Alone Job.id s.jobs tx
      (fun job => some (session.call.sets session.now job)) taken) :
    s.jobs.handle Job.id (session.call.takes session.now) tx job.id = .takes job ∧
      Turn s { s.put tx session (.updating (rest.map (·.id))
          (((session.call.budget db).map (· - taken.length)).map (· - 1))
          (taken.map (session.call.sets session.now) ++
            [session.call.sets session.now job])) with
        jobs := s.jobs.write tx job.id (some (session.call.sets session.now job)) }
        db tx session := by
  have unique := alone.unique
  rw [shows.jobs] at unique
  have distinct := StoreCall.nodup_order session.call session.now rank unique
  have inside : job ∈ session.call.order session.now rank db.jobs := by
    rw [order]
    simp
  obtain ⟨member, selected⟩ := StoreCall.mem_order.mp inside
  rw [← shows.jobs] at member
  rw [order] at distinct
  have other := Versions.key_not_mem_taken distinct
  refine ⟨alone.handle _ member other selected, ?_⟩
  refine .goesOn _ _ s.letters s.queues rfl ⟨rfl, rfl, rfl⟩ rfl
    { serving with ownJobs := ?_, stage := ?_ }
  · refine serving.ownJobs.write ?_
    rintro _ ⟨⟩
    exact session.call.sets_id session.now job
  · have next : Stage _ s.letters s.queues db tx _ :=
      .updating session.call session.now rank (taken ++ [job]) rest admitted lettered
        (by rw [order, List.append_assoc]; rfl) (by simpa using within)
        (alone.write member other)
    rw [List.map_append, List.length_append] at next
    rw [Option.map_map]
    exact next

/-- The `UPDATE` takes a row, or ends. -/
theorem updating_turn {rank : UUID → Nat} {taken rest : List Job}
    (point : session.point = .updating (rest.map (·.id))
      ((session.call.budget db).map (· - taken.length))
      (taken.map (session.call.sets session.now)))
    (found : s.txs[tx]? = some session) (shows : s.Shows db)
    (serving : Serving s.jobs s.letters s.queues db tx session)
    (admitted : session.call.Admitted db) (lettered : Lettered s.letters tx session.call)
    (order : session.call.order session.now rank db.jobs = taken ++ rest)
    (within : ∀ room ∈ session.call.budget db, taken.length ≤ room)
    (alone : Alone Job.id s.jobs tx
      (fun job => some (session.call.sets session.now job)) taken)
    (stepped : s.row tx = some s') : Turn s s' db tx session := by
  have ends : (rest = [] ∨ ∃ room ∈ session.call.budget db, room ≤ taken.length) →
      Turn s (s.put tx session (.updated (taken.map (session.call.sets session.now))))
        db tx session := by
    intro spent
    have chosen := chosen_of_spent order within spent
    refine serving.moves rfl ?_
    have last : Stage s.jobs s.letters s.queues db tx _ :=
      .updated session.call session.now rank admitted lettered (by rw [chosen]; exact alone)
    rw [chosen] at last
    exact last
  simp only [row, found, point] at stepped
  cases rest with
  | nil =>
      simp only [List.map_nil] at stepped
      cases stepped
      exact ends (.inl rfl)
  | cons job rest =>
      rw [List.map_cons] at stepped
      cases limit : session.call.budget db with
      | none =>
          have turn := takes_turn shows serving admitted lettered order
            (fun room limited => by rw [limit] at limited; cases limited) alone
          rw [limit] at stepped turn
          simp only [Option.map_none, turn.1] at stepped
          cases stepped
          exact turn.2
      | some room =>
          cases left : room - taken.length with
          | zero =>
              rw [limit] at stepped
              simp only [Option.map_some, left] at stepped
              cases stepped
              exact ends (.inr ⟨room, limit, Nat.sub_eq_zero_iff_le.mp left⟩)
          | succ more =>
              have turn := takes_turn shows serving admitted lettered order
                (fun other limited => by
                  rw [limit] at limited
                  cases limited
                  omega) alone
              rw [limit] at stepped turn
              simp only [Option.map_some, left, turn.1] at stepped
              cases stepped
              simpa [left] using turn.2

/-- **The running statement takes its next row, or ends.** -/
theorem row_turn (found : s.txs[tx]? = some session) (shows : s.Shows db)
    (serving : Serving s.jobs s.letters s.queues db tx session) (taken : s.row tx = some s') :
    Turn s s' db tx session := by
  cases serving.stage with
  | locking workerId queueId leaseSeconds now noJobs noLetters noQueues =>
      exact locking_turn rfl rfl found shows serving noJobs noLetters noQueues taken
  | deleting id orgId now _ rest retriable noJobs selected alone =>
      exact deleting_turn rfl rfl found serving retriable noJobs selected alone taken
  | updating call now rank _ rest admitted lettered order within alone =>
      exact updating_turn rfl found shows serving admitted lettered order within alone taken
  | begun | budgeted | checked | deleted | updated | filed =>
      simp only [row, found] at taken
      cases taken

/-! ## The commit -/

/-- What the `DELETE` of the call leaves of the dead letters, if it has one. -/
theorem Lettered.settled {call : StoreCall} {now : Timestamptz} (shows : s.Shows db)
    (lettered : Lettered s.letters tx call) (inserts : ∀ jobId reason attempts letterId,
      call ≠ .moveToDLQ jobId reason attempts letterId) :
    (s.letters.seenBy Letter.id tx).map (·.entry) = call.letters now db := by
  cases call with
  | retryDLQJob id orgId =>
      rw [Lettered] at lettered
      rw [lettered, StoreCall.letters, ← shows.letters, List.filter_map]
      rfl
  | moveToDLQ => exact absurd rfl (inserts _ _ _ _)
  | _ =>
      rw [Versions.seenBy_of_free lettered]
      exact shows.letters

/-- What a commit publishes is what the method writes. -/
theorem Shows.finish {db' : Database} {rank : UUID → Nat} {returned : List Job}
    (shows : s.Shows db) (steady : s.queues.seenBy Queue.id tx = s.queues.rows)
    (alone : Alone Job.id s.jobs tx (fun job => some (session.call.sets session.now job))
      (session.call.chosen session.now rank db))
    (lettered : (s.letters.seenBy Letter.id tx).map (·.entry) =
      session.call.letters session.now db)
    (writes : session.call.Writes session.now (session.call.chosen session.now rank db) db db') :
    (s.finish tx session returned).Shows db' where
  jobs := by
    rw [writes.jobs, ← shows.jobs]
    exact alone.seenBy_update
  letters := lettered.trans writes.letters.symm
  queues := steady.trans (shows.queues.trans writes.queues.symm)
  projects := shows.projects.trans writes.projects.symm

/-- **A commit answers as the method does.** -/
theorem commit_answers {returned : List Job} (shows : s.Shows db)
    (serving : Serving s.jobs s.letters s.queues db tx session)
    (registered : session.call.Registered db) (ready : session.ready = some returned) :
    ∃ rank db' answer, session.call.perform session.now rank db = .ok (db', answer) ∧
      returned.Perm answer ∧ (s.finish tx session returned).Shows db' ∧
      db'.workers = db.workers := by
  have unique := serving.ownJobs.sound.keys
  rw [shows.jobs] at unique
  have steady := serving.steady
  cases serving.stage with
  | budgeted workerId queueId leaseSeconds now queue listed noJobs noLetters =>
      simp only [Session.ready, Option.ite_none_right_eq_some, Option.some.injEq] at ready
      obtain ⟨spent, rfl⟩ := ready
      refine ⟨fun _ => 0, db, [], ?_, List.Perm.refl _, ?_, rfl⟩
      · simp only [StoreCall.perform, Database.claimJobs, listed, if_pos spent]
      · refine ⟨(Versions.seenBy_of_free noJobs).trans shows.jobs, ?_, steady.trans shows.queues,
          shows.projects⟩
        exact (congrArg _ (Versions.seenBy_of_free noLetters)).trans shows.letters
  | updated call now rank admitted lettered alone =>
      obtain ⟨_, rewritten⟩ := rewritten_of_ready ready
      have inserts : ∀ jobId reason attempts letterId,
          call ≠ .moveToDLQ jobId reason attempts letterId := by
        rintro jobId reason attempts letterId rfl
        cases ready
      have unfiled : call.Unfiled db := by
        cases call with
        | moveToDLQ => exact absurd rfl (inserts _ _ _ _)
        | _ => trivial
      obtain ⟨db', answer, performs, same, writes⟩ :=
        StoreCall.perform_spec call now rank unique admitted unfiled registered
      refine ⟨rank, db', answer, performs, ?_, ?_, writes.workers⟩
      · rw [← rewritten]
        exact same
      · exact shows.finish steady alone (lettered.settled shows inserts) writes
  | filed jobId letterId reason attempts now rank unfiled lettered alone =>
      obtain ⟨_, rewritten⟩ := rewritten_of_ready ready
      obtain ⟨db', answer, performs, same, writes⟩ :=
        StoreCall.perform_spec (.moveToDLQ jobId reason attempts letterId) now rank unique trivial
          unfiled registered
      refine ⟨rank, db', answer, performs, ?_, ?_, writes.workers⟩
      · rw [← rewritten]
        exact same
      · exact shows.finish steady alone lettered writes
  | begun | locking | checked | deleting | deleted | updating => cases ready

end Sessions

end JobScheduler
