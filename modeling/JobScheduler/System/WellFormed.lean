import JobScheduler.System.Views

/-!
# The structural invariant

What holds in every reachable state, whatever the timing: identifiers are unique and were
all issued, a task's copy of its job agrees with the row in the columns fixed at creation,
the worker named by a row or a task is registered, and the lease columns of a row are set
and cleared together.
-/

set_option autoImplicit false

namespace JobScheduler

open Relational

/-- What `handleFailure` has decided by the time it reaches a program point, and the key
the gate looks up. -/
def Pc.Plan (job : Job) : Pc → Prop
  | .gate key => job.idempotencyKey = some key
  | .moveToDLQ _ => job.maxAttempts ≤ job.attempts + 1
  | .getRetryPolicy .. | .failJob .. | .requeueForRetry _ => job.attempts + 1 < job.maxAttempts
  | _ => True

theorem Pc.plan_entry (job : Job) : (Pc.entry job).Plan job := by
  unfold Pc.entry
  split
  next key keyed => exact keyed
  · trivial

theorem Next.plan {workerId : UUID} {now : Timestamptz} {job : Job} {db : Database}
    {pc pc' : Pc} {response : Response} {event : Option Event}
    (next : Next workerId now job db pc response pc' event)
    (plan : pc.Plan job) : pc'.Plan job := by
  cases next with
  | exhausted used => exact used
  | consults left | backsOff left => exact left
  | consulted | marked => exact plan
  | _ => trivial

/-- The structural invariant. -/
structure WellFormed (w : World) : Prop where
  ids : (w.db.jobs.map (·.id)).Nodup
  issuedRows : ∀ row ∈ w.db.jobs, row.id ∈ w.issued
  issuedTasks : ∀ ticket task, w.tasks ticket = some task → task.job.id ∈ w.issued
  tickets : ∀ ticket, w.nextTicket ≤ ticket → w.tasks ticket = none
  copies : ∀ ticket task, w.tasks ticket = some task → ∀ row ∈ w.db.jobs,
    row.id = task.job.id → row.fixed = task.job.fixed
  employed : ∀ ticket task, w.tasks ticket = some task →
    ∃ engine, w.engines task.worker = some engine
  enrolled : ∀ worker engine, w.engines worker = some engine → worker ∈ w.issued
  owned : ∀ row ∈ w.db.jobs, ∀ worker, row.workerId = some worker →
    ∃ engine, w.engines worker = some engine
  leased : ∀ row ∈ w.db.jobs, row.workerId.isSome = row.leaseExpiresAt.isSome
  claimed : ∀ row ∈ w.db.jobs, row.status = .claimed → row.workerId.isSome
  allowed : ∀ row ∈ w.db.jobs, 1 ≤ row.maxAttempts
  planned : ∀ ticket task, w.tasks ticket = some task → task.pc.Plan task.job
  lost : ∀ ticket task, w.tasks ticket = some task → task.superseded = true →
    task.reclaimed = true

namespace World

variable {cron : CronParser} {w w' : World} {a : Action}

theorem wellFormed_start (now : Timestamptz) (policies : List RetryPolicy) :
    WellFormed (World.start now policies) where
  ids := List.nodup_nil
  issuedRows _ member := by cases member
  issuedTasks _ _ taken := by cases taken
  tickets _ _ := rfl
  copies _ _ taken := by cases taken
  employed _ _ taken := by cases taken
  enrolled _ _ found := by cases found
  owned _ member := by cases member
  leased _ member := by cases member
  claimed _ member := by cases member
  allowed _ member := by cases member
  planned _ _ taken := by cases taken
  lost _ _ taken := by cases taken

/-! ## Identifiers -/

theorem issued_mono (moves : Moves cron w a w') {id : UUID} (member : id ∈ w.issued) :
    id ∈ w'.issued := by
  cases moves with
  | api => exact List.mem_append_right _ member
  | register => exact List.mem_cons_of_mem _ member
  | _ => exact member

theorem NewRow.issued (moves : Moves cron w a w') {row : Job} (new : NewRow w a row) :
    row.id ∈ w'.issued := by
  obtain ⟨request, rfl, drawn, _⟩ := new
  cases moves with
  | api => exact List.mem_append_left _ drawn

theorem step_ids (moves : Moves cron w a w') (wf : WellFormed w) :
    (w'.db.jobs.map (·.id)).Nodup := by
  rcases step_tables moves with ⟨request, _, nodup, fresh, _, effect⟩ | ⟨ids, _⟩
  · cases effect with
    | configured jobs =>
        rw [jobs]
        exact wf.ids
    | deleted gone jobs =>
        rw [jobs]
        exact nodup_map_filter wf.ids _
    | inserted rows result drawn =>
        rw [result, List.map_append]
        refine List.nodup_append.mpr ⟨wf.ids, nodup.sublist drawn, ?_⟩
        intro id old id' new same
        obtain ⟨row, member, rfl⟩ := List.mem_map.mp old
        refine fresh id' (drawn.subset new) ?_
        rw [← same]
        exact wf.issuedRows row member
    | retried id orgId retries dead result =>
        rw [result]
        exact nodup_map_update (fun _ => rfl) wf.ids
  · rw [ids]
    exact wf.ids

/-- A row that is there before and after a step is treated in one of the listed ways. -/
theorem step_row (moves : Moves cron w a w') (wf : WellFormed w) {row row' : Job}
    (member : row ∈ w.db.jobs) (member' : row' ∈ w'.db.jobs) (same : row'.id = row.id) :
    RowStep w a row row' := by
  rcases step_rows moves wf.ids member' with ⟨old, oldMember, change⟩ | ⟨_, _, _, fresh, _⟩
  · have eq := eq_of_key_eq wf.ids oldMember member (change.id.symm.trans same)
    rw [← eq]
    exact change
  · rw [same] at fresh
    exact absurd (wf.issuedRows row member) fresh

/-- A task after a step belongs to a job that had a row or a task before. -/
theorem TaskStep.issued (wf : WellFormed w) {ticket : Nat} {task' : Task}
    (origin : TaskStep w w' a ticket task') : task'.job.id ∈ w.issued := by
  cases origin with
  | opened _ _ _ _ member =>
      have issued := wf.issuedRows _ member
      exact issued
  | kept taken =>
      have issued := wf.issuedTasks _ _ taken
      exact issued
  | dispatched _ taken =>
      have issued := wf.issuedTasks _ _ taken
      exact issued
  | advanced _ taken =>
      have issued := wf.issuedTasks _ _ taken
      exact issued

/-- A new row has no task yet. -/
theorem NewRow.ne_task (wf : WellFormed w) {row : Job} (new : NewRow w a row) {ticket : Nat}
    {task' : Task} (origin : TaskStep w w' a ticket task') : row.id ≠ task'.job.id := by
  obtain ⟨_, _, _, fresh, _⟩ := new
  intro same
  rw [same] at fresh
  exact fresh (origin.issued wf)

theorem ticket_lt {ticket : Nat} {task : Task} (wf : WellFormed w)
    (taken : w.tasks ticket = some task) : ticket < w.nextTicket := by
  by_contra beyond
  rw [wf.tickets ticket (by omega)] at taken
  cases taken

/-- A new row waits, unowned, with attempts left. -/
structure Waiting (row : Job) : Prop where
  status : row.status = .queued ∨ row.status = .scheduled
  unowned : row.workerId = none
  unleased : row.leaseExpiresAt = none
  untried : row.attempts = 0
  allowed : 1 ≤ row.maxAttempts

theorem Waiting.status_ne {row : Job} (waiting : Waiting row) {status : JobStatus}
    (other : status ≠ .queued ∧ status ≠ .scheduled) : row.status ≠ status := by
  rcases waiting.status with queued | scheduled
  · rw [queued]
    exact other.1.symm
  · rw [scheduled]
    exact other.2.symm

theorem NewRow.waiting {row : Job} (new : NewRow w a row) : Waiting row := by
  obtain ⟨_, _, _, _, ⟨⟨input, api, made⟩, _⟩⟩ := new
  rw [made]
  exact ⟨api.waiting, rfl, rfl, rfl, api.attempts⟩

/-! ## Tasks and their rows -/

theorem step_copies (moves : Moves cron w a w') (wf : WellFormed w) {ticket : Nat} {task' : Task}
    (taken' : w'.tasks ticket = some task') {row' : Job} (member : row' ∈ w'.db.jobs)
    (own : row'.id = task'.job.id) : row'.fixed = task'.job.fixed := by
  have origin := step_tasks moves wf.ids taken'
  rcases step_rows moves wf.ids member with ⟨row, rowMember, change⟩ | new
  · have own' : row.id = task'.job.id := by rw [← change.id, own]
    rw [change.fixed]
    cases origin with
    | opened claims fresh found running oldMember claimable written =>
        rw [eq_of_key_eq wf.ids rowMember oldMember own']
        rfl
    | kept taken => exact wf.copies _ _ taken row rowMember own'
    | dispatched _ taken => exact wf.copies _ _ taken row rowMember own'
    | advanced _ taken => exact wf.copies _ _ taken row rowMember own'
  · exact absurd own (new.ne_task wf origin)

theorem step_tickets (moves : Moves cron w a w') (wf : WellFormed w) {ticket : Nat}
    (beyond : w'.nextTicket ≤ ticket) : w'.tasks ticket = none := by
  cases moves with
  | sweep =>
      change (w.tasks ticket).map _ = none
      rw [wf.tickets ticket beyond]
      rfl
  | claim worker tie emit engine queueId queues db jobs =>
      change w.nextTicket + jobs.length ≤ ticket at beyond
      change w.tasksAfterClaim worker jobs ticket = none
      unfold tasksAfterClaim
      rw [if_pos (by omega), List.getElem?_eq_none (by omega)]
      rfl
  | dispatch worker engine ticket' tickets queues task found alive phase taken =>
      change Function.update w.tasks ticket' _ ticket = none
      have other : ticket ≠ ticket' := by
        rintro rfl
        rw [wf.tickets ticket beyond] at taken
        cases taken
      rw [Function.update_of_ne other]
      exact wf.tickets ticket beyond
  | exec ticket' response task engine db pc event taken =>
      change Function.update w.tasks ticket' _ ticket = none
      have other : ticket ≠ ticket' := by
        rintro rfl
        rw [wf.tickets ticket beyond] at taken
        cases taken
      rw [Function.update_of_ne other]
      exact wf.tickets ticket beyond
  | finish ticket' =>
      change Function.update w.tasks ticket' none ticket = none
      by_cases same : ticket = ticket'
      · subst same
        rw [Function.update_self]
      · rw [Function.update_of_ne same]
        exact wf.tickets ticket beyond
  | tick | api | markDead | register | heartbeat | cancel | crash | poll | claimFailed
  | proceed | release | deregister => exact wf.tickets ticket beyond

/-! ## Engines -/

theorem step_employed (moves : Moves cron w a w') (wf : WellFormed w) {ticket : Nat}
    {task' : Task} (taken' : w'.tasks ticket = some task') :
    ∃ engine, w'.engines task'.worker = some engine := by
  cases step_tasks moves wf.ids taken' with
  | opened _ _ found => exact step_employs moves found
  | kept taken =>
      obtain ⟨engine, found⟩ := wf.employed _ _ taken
      exact step_employs moves found
  | dispatched _ taken =>
      obtain ⟨engine, found⟩ := wf.employed _ _ taken
      exact step_employs moves found
  | advanced _ taken =>
      obtain ⟨engine, found⟩ := wf.employed _ _ taken
      exact step_employs moves found

theorem step_enrolled (moves : Moves cron w a w') (wf : WellFormed w) {worker : UUID}
    {engine' : Engine} (found' : w'.engines worker = some engine') : worker ∈ w'.issued := by
  cases step_engines moves found' with
  | registered registers fresh =>
      subst registers
      cases moves with
      | register => exact List.mem_cons_self
  | kept found => exact issued_mono moves (wf.enrolled _ _ found)

/-! ## Lease columns -/

/-- The owner a row names after a step was named before or has just claimed. -/
theorem RowStep.owned (wf : WellFormed w) {row row' : Job} (member : row ∈ w.db.jobs)
    (change : RowStep w a row row') {worker : UUID} (owner : row'.workerId = some worker) :
    ∃ engine, w.engines worker = some engine := by
  cases change with
  | kept => exact wf.owned row member worker owner
  | claimed found =>
      cases owner
      exact ⟨_, found⟩
  | @written _ _ task rewrite _ _ _ writes =>
      cases pc : task.pc <;> rw [pc] at writes <;> cases writes <;>
        first | exact wf.owned row member worker owner | cases owner
  | renewed => exact wf.owned row member worker owner
  | released => cases owner
  | reclaimed => cases owner
  | retried => cases owner

/-- Every treatment sets or clears worker and lease together. -/
theorem RowStep.leased (wf : WellFormed w) {row row' : Job} (member : row ∈ w.db.jobs)
    (change : RowStep w a row row') : row'.workerId.isSome = row'.leaseExpiresAt.isSome := by
  cases change with
  | kept => exact wf.leased row member
  | claimed => rfl
  | @written _ _ task rewrite _ _ _ writes =>
      cases pc : task.pc <;> rw [pc] at writes <;> cases writes <;>
        first | exact wf.leased row member | rfl
  | renewed _ _ renews =>
      change row.workerId.isSome = true
      rw [renews.1]
      rfl
  | released => rfl
  | reclaimed => rfl
  | retried => rfl

/-- A row only becomes claimed by a claim, which names the worker. -/
theorem RowStep.claimed_owned (wf : WellFormed w) {row row' : Job} (member : row ∈ w.db.jobs)
    (change : RowStep w a row row') (status : row'.status = .claimed) :
    row'.workerId.isSome := by
  cases change with
  | kept => exact wf.claimed row member status
  | claimed => rfl
  | @written _ _ task rewrite _ _ _ writes =>
      obtain ⟨_, rfl⟩ := Pc.setRunning_of_rewrite writes (.inl status)
      cases status
  | renewed => exact wf.claimed row member status
  | released => cases status
  | reclaimed => cases status
  | retried => cases status

/-- **The structural invariant is preserved by every step.** -/
theorem wellFormed_step (moves : Moves cron w a w') (wf : WellFormed w) : WellFormed w' where
  ids := step_ids moves wf
  issuedRows row' member := by
    rcases step_rows moves wf.ids member with ⟨row, rowMember, change⟩ | new
    · rw [change.id]
      exact issued_mono moves (wf.issuedRows row rowMember)
    · exact new.issued moves
  issuedTasks ticket task' taken' :=
    issued_mono moves ((step_tasks moves wf.ids taken').issued wf)
  tickets ticket beyond := step_tickets moves wf beyond
  copies ticket task' taken' row' member own := step_copies moves wf taken' member own
  employed ticket task' taken' := step_employed moves wf taken'
  enrolled worker engine' found' := step_enrolled moves wf found'
  owned row' member worker owner := by
    rcases step_rows moves wf.ids member with ⟨row, rowMember, change⟩ | new
    · obtain ⟨engine, found⟩ := change.owned wf rowMember owner
      exact step_employs moves found
    · rw [new.waiting.unowned] at owner
      cases owner
  leased row' member := by
    rcases step_rows moves wf.ids member with ⟨row, rowMember, change⟩ | new
    · exact change.leased wf rowMember
    · rw [new.waiting.unowned, new.waiting.unleased]
      rfl
  claimed row' member status := by
    rcases step_rows moves wf.ids member with ⟨row, rowMember, change⟩ | new
    · exact change.claimed_owned wf rowMember status
    · exact absurd status (new.waiting.status_ne (by decide))
  allowed row' member := by
    rcases step_rows moves wf.ids member with ⟨row, rowMember, change⟩ | new
    · rw [Job.maxAttempts_eq_of_fixed change.fixed]
      exact wf.allowed row rowMember
    · exact new.waiting.allowed
  planned ticket task' taken' := by
    cases step_tasks moves wf.ids taken' with
    | opened => trivial
    | kept taken =>
        have plan := wf.planned _ _ taken
        exact plan
    | dispatched _ taken => exact Pc.plan_entry _
    | advanced _ taken _ _ advances => exact (advance_next advances).plan (wf.planned _ _ taken)
  lost ticket task' taken' superseded := by
    cases step_tasks moves wf.ids taken' with
    | opened => cases superseded
    | kept taken _ keeps _ _ supersedes =>
        rcases supersedes superseded with before | reclaimed
        · exact keeps (wf.lost _ _ taken before)
        · exact keeps reclaimed
    | dispatched _ taken =>
        have reclaimed := wf.lost _ _ taken superseded
        exact reclaimed
    | advanced _ taken =>
        have reclaimed := wf.lost _ _ taken superseded
        exact reclaimed

end World

open Transition in
/-- The structural invariant holds in every state of every run. -/
theorem wellFormed_throughout {cron : CronParser} {trace : List (World × Action)} {w : World}
    (run : Run (scheduler cron) trace w) : Throughout WellFormed trace w := by
  have anyway : Meets (fun _ _ => True) trace := fun _ _ => trivial
  refine run.throughout anyway ?_ ?_
  · rintro s ⟨now, policies, rfl⟩
    exact World.wellFormed_start now policies
  · intro s a s' taken _ wf
    exact World.wellFormed_step (World.step_moves taken) wf

end JobScheduler
