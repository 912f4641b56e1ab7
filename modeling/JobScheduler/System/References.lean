import JobScheduler.System.WellFormed

/-!
# References between the tables

The foreign key from jobs to queues, the unique index on idempotency keys, and what they
mean for executions: the row of a claimed job is there until its queue is deleted, and an
identifier of a deleted queue never comes back.
-/

set_option autoImplicit false

namespace JobScheduler

open Relational

/-- The queue with the given id exists. -/
def Database.HasQueue (db : Database) (queueId : UUID) : Prop :=
  ∃ queue ∈ db.queues, queue.id = queueId

/-- The references of a state. -/
structure Referential (w : World) : Prop where
  wellFormed : WellFormed w
  issuedQueues : ∀ queueId, w.db.HasQueue queueId → queueId ∈ w.issued
  placed : ∀ row ∈ w.db.jobs, w.db.HasQueue row.queueId
  keys : w.db.KeysUnique
  assigned : ∀ ticket task, w.tasks ticket = some task → task.job.queueId ∈ w.issued
  present : ∀ ticket task, w.tasks ticket = some task → w.db.HasQueue task.job.queueId →
    ∃ row ∈ w.db.jobs, row.id = task.job.id

/-- Rows that keep the columns fixed at creation keep the index unique. -/
theorem Database.KeysUnique.congr {db db' : Database} (unique : db.KeysUnique)
    (origin : ∀ row' ∈ db'.jobs, ∃ row ∈ db.jobs, row'.fixed = row.fixed) : db'.KeysUnique := by
  intro first firstMember second secondMember sameQueue keyed sameKey
  obtain ⟨row, member, fixed⟩ := origin first firstMember
  obtain ⟨row', member', fixed'⟩ := origin second secondMember
  rw [Job.queueId_eq_of_fixed fixed, Job.queueId_eq_of_fixed fixed'] at sameQueue
  rw [Job.idempotencyKey_eq_of_fixed fixed] at keyed
  rw [Job.idempotencyKey_eq_of_fixed fixed, Job.idempotencyKey_eq_of_fixed fixed'] at sameKey
  rw [Job.id_eq_of_fixed fixed, Job.id_eq_of_fixed fixed']
  exact unique row member row' member' sameQueue keyed sameKey

namespace World

variable {cron : CronParser} {w w' : World} {a : Action}

theorem referential_start (now : Timestamptz) (policies : List RetryPolicy) :
    Referential (World.start now policies) where
  wellFormed := wellFormed_start now policies
  issuedQueues queueId exists' := by
    obtain ⟨_, member, _⟩ := exists'
    cases member
  placed _ member := by cases member
  keys _ member := by cases member
  assigned _ _ taken := by cases taken
  present _ _ taken := by cases taken

/-! ## Queues -/

/-- A queue after a step was there before or has a newly drawn id. -/
theorem hasQueue_before (moves : Moves cron w a w') {queueId : UUID}
    (after : w'.db.HasQueue queueId) :
    w.db.HasQueue queueId ∨ queueId ∉ w.issued ∧ queueId ∈ w'.issued := by
  obtain ⟨queue, member, rfl⟩ := after
  rcases step_tables moves with ⟨request, _, _, fresh, issued, effect⟩ | ⟨_, queues⟩
  · cases effect with
    | configured _ _ added drawn queues =>
        have listed := List.mem_map_of_mem (f := (·.id)) member
        rw [queues, List.mem_append] at listed
        rcases listed with old | new
        · obtain ⟨old, oldMember, same⟩ := List.mem_map.mp old
          exact .inl ⟨old, oldMember, same⟩
        · have new := drawn _ new
          refine .inr ⟨fresh _ new, ?_⟩
          rw [issued]
          exact List.mem_append_left _ new
    | deleted gone _ _ queues =>
        rw [queues] at member
        exact .inl ⟨queue, List.mem_of_mem_filter member, rfl⟩
    | inserted rows result =>
        rw [result] at member
        exact .inl ⟨queue, member, rfl⟩
    | retried id orgId retries dead result =>
        rw [result] at member
        exact .inl ⟨queue, member, rfl⟩
  · rw [queues] at member
    exact .inl ⟨queue, member, rfl⟩

/-- A deleted queue never comes back. -/
theorem hasQueue_of_issued (moves : Moves cron w a w') {queueId : UUID}
    (issued : queueId ∈ w.issued) (after : w'.db.HasQueue queueId) : w.db.HasQueue queueId := by
  rcases hasQueue_before moves after with before | ⟨fresh, _⟩
  · exact before
  · exact absurd issued fresh

/-! ## Rows -/

/-- A row stays until its queue is deleted. -/
theorem row_survives (moves : Moves cron w a w') {row : Job} (member : row ∈ w.db.jobs)
    (after : w'.db.HasQueue row.queueId) : ∃ row' ∈ w'.db.jobs, row'.id = row.id := by
  have listed : row.id ∈ w.db.jobs.map (·.id) := List.mem_map_of_mem member
  suffices row.id ∈ w'.db.jobs.map (·.id) from List.mem_map.mp this
  rcases step_tables moves with ⟨request, _, _, _, _, effect⟩ | ⟨ids, _⟩
  · cases effect with
    | configured jobs =>
        rw [jobs]
        exact listed
    | deleted gone jobs _ queues =>
        obtain ⟨queue, queueMember, same⟩ := after
        rw [queues, List.mem_filter, decide_eq_true_eq, same] at queueMember
        rw [jobs]
        exact List.mem_map_of_mem
          (List.mem_filter.mpr ⟨member, decide_eq_true queueMember.2⟩)
    | inserted rows result =>
        rw [result, List.map_append]
        exact List.mem_append_left _ listed
    | retried id orgId retries dead result =>
        have ids : w'.db.jobs.map (·.id) = w.db.jobs.map (·.id) := by
          rw [result]
          exact map_update fun _ => rfl
        rw [ids]
        exact listed
  · rw [ids]
    exact listed

/-- The queues of the remaining rows remain. -/
theorem step_placed (moves : Moves cron w a w') (inv : Referential w) {row' : Job}
    (member' : row' ∈ w'.db.jobs) : w'.db.HasQueue row'.queueId := by
  have origin := step_rows moves inv.wellFormed.ids member'
  have before : w.db.HasQueue row'.queueId := by
    rcases origin with ⟨row, member, change⟩ | ⟨_, _, _, _, made⟩
    · rw [Job.queueId_eq_of_fixed change.fixed]
      exact inv.placed row member
    · exact made.queue
  obtain ⟨queue, member, same⟩ := before
  rcases step_tables moves with ⟨request, _, _, _, _, effect⟩ | ⟨_, queues⟩
  · cases effect with
    | configured _ _ added _ queues =>
        have listed : row'.queueId ∈ w'.db.queues.map (·.id) := by
          rw [queues, ← same]
          exact List.mem_append_left _ (List.mem_map_of_mem member)
        exact List.mem_map.mp listed
    | deleted gone jobs _ queues =>
        rw [jobs, List.mem_filter, decide_eq_true_eq] at member'
        refine ⟨queue, ?_, same⟩
        rw [queues, List.mem_filter, decide_eq_true_eq, same]
        exact ⟨member, member'.2⟩
    | inserted rows result =>
        rw [result]
        exact ⟨queue, member, same⟩
    | retried id orgId retries dead result =>
        rw [result]
        exact ⟨queue, member, same⟩
  · exact ⟨queue, by rw [queues]; exact member, same⟩

theorem step_keys (moves : Moves cron w a w') (inv : Referential w) : w'.db.KeysUnique := by
  have wf := inv.wellFormed
  rcases step_tables moves with ⟨request, _, _, _, _, effect⟩ | ⟨ids, _⟩
  · cases effect with
    | configured jobs =>
        refine inv.keys.congr fun row' member' => ⟨row', ?_, rfl⟩
        rw [← jobs]
        exact member'
    | deleted gone jobs =>
        refine inv.keys.congr fun row' member' => ⟨row', ?_, rfl⟩
        rw [jobs] at member'
        exact List.mem_of_mem_filter member'
    | inserted rows result drawn made keys => exact keys inv.keys
    | retried id orgId retries dead result =>
        refine inv.keys.congr fun row' member' => ?_
        rw [result] at member'
        rcases cases_mem_update member' with ⟨old, _⟩ | ⟨row, old, _, rfl⟩
        · exact ⟨row', old, rfl⟩
        · exact ⟨row, old, rfl⟩
  · refine inv.keys.congr fun row' member' => ?_
    rcases step_rows moves wf.ids member' with ⟨row, member, change⟩ | ⟨_, _, _, fresh, _⟩
    · exact ⟨row, member, change.fixed⟩
    · have listed : row'.id ∈ w'.db.jobs.map (·.id) := List.mem_map_of_mem member'
      rw [ids] at listed
      obtain ⟨row, member, same⟩ := List.mem_map.mp listed
      rw [← same] at fresh
      exact absurd (wf.issuedRows row member) fresh

/-! ## Tasks -/

/-- The job of a task after a step is that of a task before it or of a row just claimed. -/
theorem TaskStep.job_before {ticket : Nat} {task' : Task}
    (origin : TaskStep w w' a ticket task') :
    (∃ row ∈ w.db.jobs, row.queueId = task'.job.queueId ∧ task'.job ∈ w'.db.jobs) ∨
      ∃ task, w.tasks ticket = some task ∧ task.job = task'.job := by
  cases origin with
  | opened _ _ _ _ member _ written => exact .inl ⟨_, member, rfl, written⟩
  | kept taken => exact .inr ⟨_, taken, rfl⟩
  | dispatched _ taken => exact .inr ⟨_, taken, rfl⟩
  | advanced _ taken => exact .inr ⟨_, taken, rfl⟩

/-- **References are kept by every step.** -/
theorem referential_step (moves : Moves cron w a w') (inv : Referential w) : Referential w' where
  wellFormed := wellFormed_step moves inv.wellFormed
  issuedQueues queueId after := by
    rcases hasQueue_before moves after with before | ⟨_, issued⟩
    · exact issued_mono moves (inv.issuedQueues queueId before)
    · exact issued
  placed row' member' := step_placed moves inv member'
  keys := step_keys moves inv
  assigned ticket task' taken' := by
    refine issued_mono moves ?_
    rcases (step_tasks moves inv.wellFormed.ids taken').job_before with
      ⟨row, member, same, _⟩ | ⟨task, taken, same⟩
    · rw [← same]
      exact inv.issuedQueues _ (inv.placed row member)
    · rw [← same]
      exact inv.assigned ticket task taken
  present ticket task' taken' after := by
    rcases (step_tasks moves inv.wellFormed.ids taken').job_before with
      ⟨_, _, _, written⟩ | ⟨task, taken, same⟩
    · exact ⟨task'.job, written, rfl⟩
    · rw [← same] at after ⊢
      have before := hasQueue_of_issued moves (inv.assigned ticket task taken) after
      obtain ⟨row, member, own⟩ := inv.present ticket task taken before
      have fixed := inv.wellFormed.copies ticket task taken row member own
      rw [← Job.queueId_eq_of_fixed fixed] at after
      rw [← own]
      exact row_survives moves member after

end World

end JobScheduler
