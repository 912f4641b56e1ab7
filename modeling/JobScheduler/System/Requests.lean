import JobScheduler.System.World

/-!
# What an API request does to the jobs

A request does one of four things to jobs, dead letters and queues: it leaves the jobs
alone, it deletes queues with everything in them, it inserts new jobs, or it retries a
dead-lettered job.
-/

set_option autoImplicit false

namespace JobScheduler

open Relational

/-- The unique index on `(queue_id, idempotency_key)`. -/
def Database.KeysUnique (db : Database) : Prop :=
  ∀ first ∈ db.jobs, ∀ second ∈ db.jobs, first.queueId = second.queueId →
    first.idempotencyKey.isSome → first.idempotencyKey = second.idempotencyKey →
    first.id = second.id

/-- A row inserted through the API. -/
structure InsertedRow (now : Timestamptz) (db : Database) (row : Job) : Prop where
  made : ∃ input : CreateJobInput, input.FromApi ∧ row = Job.inserted now row.id input
  queue : ∃ q ∈ db.queues, q.id = row.queueId

/-- The effects of a successful request. -/
inductive RequestEffect (now : Timestamptz) (db : Database) (request : Request)
    (db' : Database) : Prop where
  | configured (jobs : db'.jobs = db.jobs)
      (letters : db'.deadLetterQueue = db.deadLetterQueue) (added : List UUID)
      (drawn : ∀ id ∈ added, id ∈ request.drawn)
      (queues : db'.queues.map (·.id) = db.queues.map (·.id) ++ added)
      (other : ∀ id orgId, request ≠ .retryDLQJob id orgId)
  | deleted (gone : List UUID) (jobs : db'.jobs = db.jobs.filter (·.queueId ∉ gone))
      (letters : db'.deadLetterQueue = (db.deleteQueues gone).deadLetterQueue)
      (queues : db'.queues = db.queues.filter (·.id ∉ gone))
      (other : ∀ id orgId, request ≠ .retryDLQJob id orgId)
  | inserted (rows : List Job) (result : db' = { db with jobs := db.jobs ++ rows })
      (drawn : (rows.map (·.id)).Sublist request.drawn)
      (made : ∀ row ∈ rows, InsertedRow now db row)
      (keys : db.KeysUnique → db'.KeysUnique)
      (other : ∀ id orgId, request ≠ .retryDLQJob id orgId)
  | retried (id orgId : UUID) (retries : request = .retryDLQJob id orgId)
      (dead : ∃ old ∈ db.jobs, old.id = id ∧ old.status = .deadLetter)
      (result : db' = { db with
        deadLetterQueue := db.deadLetterQueue.filter (·.jobId ≠ id)
        jobs := update (·.id = id) (Job.retryDLQ now) db.jobs })

section Insertion

variable {now : Timestamptz} {db db' : Database}

/-- Inserting a row whose key is free in its queue keeps the index unique. -/
theorem Database.KeysUnique.insert {row : Job} (unique : db.KeysUnique)
    (free : ∀ job ∈ db.jobs, job.queueId = row.queueId → job.idempotencyKey.isSome →
      job.idempotencyKey ≠ row.idempotencyKey) :
    Database.KeysUnique { db with jobs := db.jobs ++ [row] } := by
  intro first firstMember second secondMember sameQueue keyed sameKey
  simp only [List.mem_append, List.mem_singleton] at firstMember secondMember
  rcases firstMember with firstMember | rfl <;> rcases secondMember with secondMember | rfl
  · exact unique first firstMember second secondMember sameQueue keyed sameKey
  · exact absurd sameKey (free first firstMember sameQueue keyed)
  · exact absurd sameKey.symm (free second secondMember sameQueue.symm (sameKey ▸ keyed))
  · rfl

/-- The jobs `Create` adds: none, or the one row. -/
theorem createJob_rows {id : UUID} {input : CreateJobInput} {result : CreateJobResult}
    (api : input.FromApi) (creates : db.createJob now id input = .ok (db', result)) :
    ∃ rows : List Job, db' = { db with jobs := db.jobs ++ rows } ∧
      (rows.map (·.id)).Sublist [id] ∧ (∀ row ∈ rows, InsertedRow now db row) ∧
      (db.KeysUnique → db'.KeysUnique) := by
  rcases db.createJob_spec creates with rfl | ⟨rfl, queue, free⟩
  · exact ⟨[], by simp, by simp, by simp, fun unique => unique⟩
  · refine ⟨[Job.inserted now id input], rfl, List.Sublist.refl _, ?_, fun unique =>
      unique.insert free⟩
    intro row member
    rw [List.mem_singleton] at member
    subst member
    exact ⟨⟨input, api, rfl⟩, queue⟩

theorem createJobBatch_rows :
    ∀ (inputs : List (UUID × CreateJobInput)) {db db' : Database} {jobs : List Job},
      (∀ entry ∈ inputs, entry.2.FromApi) →
      Database.createJobBatch now inputs db = .ok (db', jobs) →
      ∃ rows : List Job, db' = { db with jobs := db.jobs ++ rows } ∧
        (rows.map (·.id)).Sublist (inputs.map (·.1)) ∧
        (∀ row ∈ rows, InsertedRow now db row) ∧ (db.KeysUnique → db'.KeysUnique)
  | [], db, db', jobs, _, creates => by
      cases creates
      exact ⟨[], by simp, by simp, by simp, fun unique => unique⟩
  | (id, input) :: rest, db, db', jobs, api, creates => by
      unfold Database.createJobBatch at creates
      split at creates
      · cases creates
      next middle result first =>
        split at creates
        · cases creates
        next final others later =>
          cases creates
          rw [List.forall_mem_cons] at api
          obtain ⟨rows, rfl, drawn, made, keys⟩ := createJob_rows api.1 first
          obtain ⟨more, rfl, drawn', made', keys'⟩ := createJobBatch_rows rest api.2 later
          refine ⟨rows ++ more, by simp, ?_, ?_, keys' ∘ keys⟩
          · rw [List.map_append]
            exact drawn.append drawn'
          · intro row member
            rcases List.mem_append.mp member with member | member
            · exact made row member
            · exact ⟨(made' row member).made, (made' row member).queue⟩

/-- The inputs of a batch come from `buildJobInput`, one for each request. -/
theorem buildBatch_spec {cron : CronParser} {instant : Time} {queue : Queue} {batchId : UUID} :
    ∀ {jobs : List (UUID × CreateJobRequest)} {inputs : List (UUID × CreateJobInput)},
      buildBatch cron instant queue batchId jobs = some inputs →
      (∀ entry ∈ inputs, entry.2.FromApi) ∧ inputs.map (·.1) = jobs.map (·.1)
  | [], inputs, builds => by
      cases builds
      exact ⟨by simp, rfl⟩
  | (id, req) :: rest, inputs, builds => by
      unfold buildBatch at builds
      split at builds
      next input others first later =>
        cases builds
        obtain ⟨api, ids⟩ := buildBatch_spec later
        have made := buildJobInput_fromApi first
        refine ⟨?_, by rw [List.map_cons, List.map_cons, ids]⟩
        rw [List.forall_mem_cons]
        exact ⟨⟨made.waiting, made.attempts, made.due⟩, api⟩
      · cases builds

end Insertion

/-! ## The effect of each request -/

theorem toOption_eq_some {ε α : Type} {result : Except ε α} {value : α}
    (succeeds : result.toOption = some value) : result = .ok value := by
  cases result with
  | error e => cases succeeds
  | ok found =>
      cases succeeds
      rfl

variable {cron : CronParser} {now : Timestamptz} {db db' : Database} {request : Request}

/-- A request that touches no queue row's identity and no job. -/
theorem RequestEffect.settings (jobs : db'.jobs = db.jobs)
    (letters : db'.deadLetterQueue = db.deadLetterQueue)
    (queues : db'.queues.map (·.id) = db.queues.map (·.id))
    (other : ∀ id orgId, request ≠ .retryDLQJob id orgId) : RequestEffect now db request db' :=
  .configured jobs letters [] (by simp) (by rw [queues, List.append_nil]) other

/-- **The effect of a request.** -/
theorem perform_effect (performs : request.perform cron now db = some db') :
    RequestEffect now db request db' := by
  cases request with
  | createOrg id name slug =>
      obtain ⟨_, rfl⟩ := Database.createOrg_spec (toOption_eq_some performs)
      exact .settings rfl rfl rfl (by simp)
  | updateOrg id name slug =>
      obtain ⟨_, _, rfl⟩ := Database.updateOrg_spec (toOption_eq_some performs)
      exact .settings rfl rfl rfl (by simp)
  | deleteOrg id =>
      obtain ⟨_, rfl⟩ := Database.deleteOrg_spec (toOption_eq_some performs)
      exact .deleted _ rfl rfl rfl (by simp)
  | createProject id orgId name slug description =>
      obtain ⟨_, _, rfl⟩ := Database.createProject_spec (toOption_eq_some performs)
      exact .settings rfl rfl rfl (by simp)
  | updateProject id orgId name slug description =>
      obtain ⟨_, _, rfl⟩ := Database.updateProject_spec (toOption_eq_some performs)
      exact .settings rfl rfl rfl (by simp)
  | deleteProject id orgId =>
      obtain ⟨_, rfl⟩ := Database.deleteProject_spec (toOption_eq_some performs)
      exact .deleted _ rfl rfl rfl (by simp)
  | createQueue queue =>
      obtain ⟨_, _, _, _, rfl⟩ := Database.createQueue_spec (toOption_eq_some performs)
      refine .configured rfl rfl [queue.id] ?_ (by rw [List.map_append]; rfl) (by simp)
      intro id member
      exact member
  | updateQueue queue orgId =>
      obtain ⟨_, _, _, _, rfl⟩ := Database.updateQueue_spec (toOption_eq_some performs)
      exact .settings rfl rfl (map_update fun _ => rfl) (by simp)
  | deleteQueue id orgId =>
      obtain ⟨_, rfl⟩ := Database.deleteQueue_spec (toOption_eq_some performs)
      exact .deleted _ rfl rfl rfl (by simp)
  | setPaused id orgId paused =>
      obtain ⟨_, rfl⟩ := Database.setPaused_spec (toOption_eq_some performs)
      exact .settings rfl rfl (map_update fun _ => rfl) (by simp)
  | createJob id req queue =>
      simp only [Request.perform] at performs
      split at performs
      · cases performs
      next input builds =>
        obtain ⟨⟨final, result⟩, creates, rfl⟩ := Option.map_eq_some_iff.mp performs
        obtain ⟨rows, same, drawn, made, keys⟩ :=
          createJob_rows (buildJobInput_fromApi builds) (toOption_eq_some creates)
        exact .inserted rows same drawn made keys (by simp)
  | createBatch batchId jobs queue =>
      simp only [Request.perform] at performs
      split at performs
      · cases performs
      · split at performs
        · cases performs
        next inputs builds =>
          obtain ⟨⟨final, results⟩, creates, rfl⟩ := Option.map_eq_some_iff.mp performs
          obtain ⟨api, ids⟩ := buildBatch_spec builds
          obtain ⟨rows, same, drawn, made, keys⟩ :=
            createJobBatch_rows inputs api (toOption_eq_some creates)
          refine .inserted rows same ?_ made keys (by simp)
          rw [ids] at drawn
          exact drawn.cons _
  | retryDLQJob id orgId =>
      obtain ⟨⟨final, job⟩, retries, rfl⟩ := Option.map_eq_some_iff.mp performs
      obtain ⟨dead, same⟩ := db.retryDLQJob_spec (toOption_eq_some retries)
      exact .retried id orgId rfl dead same

end JobScheduler
