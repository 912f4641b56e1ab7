import JobScheduler.Dashboard.Custody

/-!
# The concurrency limit and the ticks

A tick reads the budget of a queue in one statement and claims in the next. Nothing keeps
another tick from claiming in between, and then the two together exceed the limit. Only
`scheduleWorkerTick` looks whether a tick is in flight, and it looks in its own process.

The limit is kept in every run in which a claim that finds jobs is made while no other tick is
between the two statements for the same queue. Leases of held jobs do not expire meanwhile.
-/

set_option autoImplicit false

namespace JobScheduler

open Relational Transition

namespace Dashboard

/-- The jobs of the queue that are claimed or running are within the limit. -/
def ActiveWithin (queueId : UUID) (limit : Int) (s : Deployment) : Prop :=
  (s.site.core.activeCount queueId : Int) ≤ limit

/-- A claim that finds due jobs of the queue is made while no other tick is between reading the
budget of the queue and claiming. -/
def Unraced (queueId : UUID) (s : Deployment) (a : Action) : Prop :=
  ∀ i choice tick workerId left rest, a = .tick i choice → s.ticks[i]? = some tick →
    tick.pc = .claim workerId queueId left rest →
    (∃ row ∈ s.site.jobs, row.Due queueId s.now) →
    ∀ (k : Nat) other workerId' left' rest', s.ticks[k]? = some other →
      other.pc = .claim workerId' queueId left' rest' → k = i

/-- Nothing but the ticks resets a job that a tick holds. -/
def Undisturbed (s : Deployment) (a : Action) : Prop := NotRobbed s a ∧ RetriesFree s a

/-! ## Counting -/

section Count

variable {queueId : UUID} {site site' : Site}

/-- The count does not grow when every active row was active before. -/
theorem activeCount_le_of_rows (unique : (site'.jobs.map (·.id)).Nodup)
    (before : ∀ row' ∈ site'.jobs, row'.queueId = queueId → row'.status.Active →
      ∃ row ∈ site.jobs, row.queueId = queueId ∧ row.status.Active ∧ row.id = row'.id) :
    site'.core.activeCount queueId ≤ site.core.activeCount queueId := by
  have keys : (site'.jobs.map Job.id).Nodup := unique
  refine countP_le_of_key keys _ ?_
  intro row' member holds
  rw [decide_eq_true_eq] at holds
  obtain ⟨row, member', queue, active, same⟩ := before row' member holds.1 holds.2
  exact ⟨row, member', decide_eq_true ⟨queue, active⟩, same⟩

/-- An update of rows that leaves them inactive, or that were active. -/
theorem activeCount_update_le {selects : Job → Prop} [DecidablePred selects] {rewrite : Job → Job}
    (unique : (site.jobs.map (·.id)).Nodup)
    (rows : site'.jobs = update selects rewrite site.jobs) (ids : ∀ row, (rewrite row).id = row.id)
    (queues : ∀ row, (rewrite row).queueId = row.queueId)
    (before : ∀ row ∈ site.jobs, selects row → row.queueId = queueId →
      (rewrite row).status.Active → row.status.Active) :
    site'.core.activeCount queueId ≤ site.core.activeCount queueId := by
  refine activeCount_le_of_rows (by rw [rows]; exact nodup_map_update ids unique) ?_
  intro row' member queue active
  rw [rows] at member
  rcases cases_mem_update member with ⟨old, _⟩ | ⟨row, old, selected, rfl⟩
  · exact ⟨row', old, queue, active, rfl⟩
  · rw [queues] at queue
    exact ⟨row, old, queue, before row old selected queue active, (ids row).symm⟩

/-- A claim adds at most the jobs it selects. -/
theorem activeCount_claimDue_le {now : Timestamptz} {choice : Choice} {workerId : UUID}
    {left : Int} {jobs : List Job} (unique : (site.jobs.map (·.id)).Nodup)
    (claims : claimDue now site choice workerId queueId left = .ok (site', jobs)) :
    site'.core.activeCount queueId ≤ site.core.activeCount queueId + left.toNat := by
  obtain ⟨targets, first, rows, _⟩ := claimDue_spec claims
  have few : targets.length ≤ left.toNat := by
    rw [first, length_dueTargets]
    exact Nat.min_le_left _ _
  calc site'.core.activeCount queueId
      ≤ site.core.activeCount queueId + site.jobs.countP fun job => job.id ∈ targets := by
        unfold Database.activeCount
        change site'.jobs.countP _ ≤ _
        rw [rows]
        exact countP_update_le _
    _ ≤ site.core.activeCount queueId + left.toNat :=
        Nat.add_le_add_left ((countP_key_mem_le unique targets).trans few) _

theorem activeCount_congr (jobs : site'.jobs = site.jobs) :
    site'.core.activeCount queueId = site.core.activeCount queueId := by
  simp only [Database.activeCount, Site.core, jobs]

/-- A step of a tick other than the claim of this queue adds nothing. -/
theorem Effect.activeCount_le {tickEnv : TickEnv} {choice : Choice} {now : Timestamptz}
    {pc pc' : TickPc} {event : Option Event}
    (effect : Effect tickEnv choice now site pc site' pc' event)
    (unique : (site.jobs.map (·.id)).Nodup)
    (active : ∀ job ∈ pc.held, ActiveJob site job.id)
    (elsewhere : ∀ workerId left rest, pc ≠ .claim workerId queueId left rest) :
    site'.core.activeCount queueId ≤ site.core.activeCount queueId := by
  cases effect.writes with
  | nothing jobs => rw [activeCount_congr jobs]
  | reap =>
      refine activeCount_update_le unique rfl (fun _ => rfl) (fun _ => rfl) ?_
      intro row _ orphaned _ _
      exact orphaned.1
  | claim claims =>
      obtain ⟨targets, rfl, rows, _⟩ := claimDue_spec claims
      refine activeCount_update_le unique rows (fun _ => rfl) (fun _ => rfl) ?_
      -- the claimed rows are of another queue
      intro row member selected queue _
      obtain ⟨due, dueMember, isDue, same⟩ := mem_dueTargets selected
      rw [eq_of_key_eq unique dueMember member same] at isDue
      rw [← isDue.1, queue] at elsewhere
      exact absurd rfl (elsewhere _ _ _)
  | @setRunning _ job _ _ _ =>
      refine activeCount_update_le unique rfl (fun _ => rfl) (fun _ => rfl) ?_
      intro row member selected _ _
      obtain ⟨row', member', same, holds⟩ := active job List.mem_cons_self
      rw [eq_of_key_eq unique member' member (same.trans selected.symm)] at holds
      exact holds
  | settle settles _ =>
      refine activeCount_update_le unique rfl settles.id (fun row => by cases settles <;> rfl) ?_
      intro row _ _ _ still
      cases settles <;>
        exact absurd still (by simp [Job.finish, Job.bury, Job.postpone, JobStatus.Active])

end Count

/-! ## The invariant -/

/-- The counts are within the limit, also with the budgets that ticks are about to use. -/
structure Budgeted (queue : Queue) (limit : Int) (s : Deployment) : Prop where
  custody : Custody s
  queueKeys : (s.site.queues.map (·.id)).Nodup
  member : queue ∈ s.site.queues
  within : ActiveWithin queue.id limit s
  reserved : ∀ (i : Nat) tick workerId left rest, s.ticks[i]? = some tick →
    tick.pc = .claim workerId queue.id left rest →
    (s.site.core.activeCount queue.id : Int) + left ≤ limit

section Step

variable {env : Env} {message : Json → String} {queue : Queue} {limit : Int} {s s' : Deployment}
  {a : Action}

theorem resume_ne_claim {workerId workerId' queueId : UUID} {jobs : List Job}
    {queues rest : List UUID} {left : Int} :
    TickPc.resume workerId jobs queues ≠ .claim workerId' queueId left rest := by
  cases jobs with
  | nil => cases queues <;> simp [TickPc.resume]
  | cons job jobs => simp [TickPc.resume]

/-- A tick comes to the claim by reading the budget. -/
theorem Effect.reads {tickEnv : TickEnv} {choice : Choice} {now : Timestamptz} {site site' : Site}
    {pc pc' : TickPc} {event : Option Event} {workerId queueId : UUID} {left : Int}
    {rest : List UUID} (effect : Effect tickEnv choice now site pc site' pc' event)
    (ready : pc' = .claim workerId queueId left rest) :
    site' = site ∧ readBudget site queueId = .ok left ∧ 0 < left := by
  cases effect with
  | reap => cases ready
  | pass _ idle' _ _ _ =>
      rw [ready] at idle'
      cases idle'
  | budget reads positive =>
      cases ready
      exact ⟨rfl, reads, positive⟩
  | claim _ => exact absurd ready resume_ne_claim
  | setRunning _ => cases ready
  | prepare _ _ _ _ => cases ready
  | start => cases ready
  | handle => cases ready
  | settle _ _ => cases ready
  | record _ _ _ _ => cases ready
  | next _ _ _ => exact absurd ready resume_ne_claim

/-- The budget is what the limit leaves. -/
theorem readBudget_reserves (keys : (s.site.queues.map (·.id)).Nodup)
    (member : queue ∈ s.site.queues) (limited : queue.concurrencyLimit = some limit) {left : Int}
    (reads : readBudget s.site queue.id = .ok left) (positive : 0 < left) :
    (s.site.core.activeCount queue.id : Int) + left ≤ limit := by
  have found : s.site.queues.find? (·.id = queue.id) = some queue := find?_key_eq keys member
  simp only [readBudget, found, limited, Option.getD_some] at reads
  cases (passed_check reads).2
  omega

/-- The action is the claim of a tick on the queue. -/
def ClaimsQueue (queueId : UUID) (s s' : Deployment) (a : Action) : Prop :=
  ∃ i choice tick workerId left rest jobs, a = .tick i choice ∧ s.ticks[i]? = some tick ∧
    tick.pc = .claim workerId queueId left rest ∧
    claimDue s.now s.site choice workerId queueId left = .ok (s'.site, jobs) ∧
    ∃ tick', tick'.pc = .resume workerId jobs rest ∧ s'.ticks = s.ticks.set i tick'

/-- Only a claim on the queue adds to the count. -/
theorem Moves.activeCount_le (moves : Moves env message s s' a) (custody : Custody s)
    (queueId : UUID) :
    s'.site.core.activeCount queueId ≤ s.site.core.activeCount queueId ∨
      ClaimsQueue queueId s s' a := by
  rcases moves.jobs_cases with same | ⟨i, choice, tick, tick', event, steps⟩ | ⟨new, _, jobs⟩ |
    ⟨_, _, _, _, site⟩
  · exact .inl (by rw [activeCount_congr same])
  · by_cases ready : ∃ workerId left rest, tick.pc = .claim workerId queueId left rest
    · obtain ⟨workerId, left, rest, here⟩ := ready
      have effect := steps.effect
      rw [here] at effect
      generalize there : tick'.pc = pc' at effect
      cases effect with
      | pass idle _ _ _ _ => cases idle
      | claim claims =>
          exact .inr ⟨i, choice, tick, workerId, left, rest, _, steps.action, steps.found, here,
            claims, tick', there, steps.ticks⟩
    · refine .inl (steps.effect.activeCount_le custody.keys ?_ ?_)
      · intro job holds
        refine custody.active i job.id ?_
        rw [held_eq steps.found]
        exact List.mem_map_of_mem holds
      · intro workerId left rest here
        exact ready ⟨workerId, left, rest, here⟩
  · refine .inl ?_
    simp only [Database.activeCount, Site.core, jobs, List.countP_append]
    simp [Deployment.newRow, insertedJob, JobStatus.Active]
  · rw [site]
    refine .inl (activeCount_update_le custody.keys rfl (fun _ => rfl) (fun _ => rfl) ?_)
    intro row _ _ _ active
    exact absurd active (by simp [Job.retryDLQ, JobStatus.Active])

/-- A tick that is about to claim was so before, or it has just read the budget. -/
theorem Budgeted.reserved_of_le (limited : queue.concurrencyLimit = some limit)
    (inv : Budgeted queue limit s) (moves : Moves env message s s' a)
    (fewer : s'.site.core.activeCount queue.id ≤ s.site.core.activeCount queue.id) {i : Nat}
    {tick : Tick} {workerId : UUID} {left : Int} {rest : List UUID}
    (found : s'.ticks[i]? = some tick) (ready : tick.pc = .claim workerId queue.id left rest) :
    (s'.site.core.activeCount queue.id : Int) + left ≤ limit := by
  rcases moves.tick found with old | reap | ended | ⟨_, _, _, steps⟩
  · have reserved := inv.reserved i tick workerId left rest old ready
    omega
  · rw [ready] at reap
    cases reap
  · rw [ready] at ended
    cases ended
  · obtain ⟨same, reads, positive⟩ := steps.effect.reads ready
    rw [same]
    exact readBudget_reserves inv.queueKeys inv.member limited reads positive

/-- The claim stays within its budget, and no other budget is open. -/
theorem Budgeted.claim (inv : Budgeted queue limit s) (unraced : Unraced queue.id s a)
    (claims : ClaimsQueue queue.id s s' a) :
    ActiveWithin queue.id limit s' ∧
      (s'.site.core.activeCount queue.id ≤ s.site.core.activeCount queue.id ∨
        ∀ (i : Nat) tick workerId left rest, s'.ticks[i]? = some tick →
          tick.pc ≠ .claim workerId queue.id left rest) := by
  obtain ⟨i, choice, tick, workerId, left, rest, jobs, taken, found, here, claim, tick', there,
    ticks⟩ := claims
  have added := activeCount_claimDue_le inv.custody.keys claim
  have reserved := inv.reserved i tick workerId left rest found here
  have within := inv.within
  unfold ActiveWithin at within ⊢
  refine ⟨by omega, ?_⟩
  by_cases finds : ∃ row ∈ s.site.jobs, row.Due queue.id s.now
  · right
    intro k other workerId' left' rest' found' ready
    rw [ticks] at found'
    by_cases same : i = k
    · subst same
      rw [List.getElem?_set_self (List.getElem?_eq_some_iff.mp found).1] at found'
      cases found'
      rw [there] at ready
      exact resume_ne_claim ready
    · rw [List.getElem?_set_ne same] at found'
      exact same (unraced i choice tick workerId left rest taken found here finds k other
        workerId' left' rest' found' ready).symm
  · left
    obtain ⟨targets, first, rows, _⟩ := claimDue_spec claim
    have nothing : targets = [] := by
      refine List.eq_nil_iff_forall_not_mem.mpr fun id member => ?_
      rw [first] at member
      obtain ⟨row, present, due, _⟩ := mem_dueTargets member
      exact finds ⟨row, present, due⟩
    refine activeCount_update_le inv.custody.keys rows (fun _ => rfl) (fun _ => rfl) ?_
    intro row _ selected
    rw [nothing] at selected
    cases selected

/-- **Step.** -/
theorem Budgeted.step (limited : queue.concurrencyLimit = some limit) (inv : Budgeted queue limit s)
    (moves : Moves env message s s' a) (undisturbed : Undisturbed s a)
    (unraced : Unraced queue.id s a) : Budgeted queue limit s' := by
  have queues := moves.queues
  refine ⟨inv.custody.step moves undisturbed.1 undisturbed.2, by rw [queues]; exact inv.queueKeys,
    by rw [queues]; exact inv.member, ?_, ?_⟩
  · rcases moves.activeCount_le inv.custody queue.id with fewer | claims
    · have within := inv.within
      unfold ActiveWithin at within ⊢
      omega
    · exact (inv.claim unraced claims).1
  · intro i tick workerId left rest found ready
    rcases moves.activeCount_le inv.custody queue.id with fewer | claims
    · exact inv.reserved_of_le limited moves fewer found ready
    · rcases (inv.claim unraced claims).2 with fewer | none
      · exact inv.reserved_of_le limited moves fewer found ready
      · exact absurd ready (none i tick workerId left rest found)

end Step

/-! ## Runs -/

/-- **The limit is kept** in every run of ticks in which claims are not raced. -/
theorem active_within_limit {env : Env} {message : Json → String} {queue : Queue} {limit : Int}
    (limited : queue.concurrencyLimit = some limit) {start last : Deployment}
    {trace : List (Deployment × Action)} (initial : start.Initial)
    (member : queue ∈ start.site.queues) (within : ActiveWithin queue.id limit start)
    (path : Path (deployments env message) start trace last)
    (undisturbed : Meets Undisturbed trace) (unraced : Meets (Unraced queue.id) trace) :
    Throughout (ActiveWithin queue.id limit) trace last := by
  have base : Budgeted queue limit start := by
    refine ⟨initial.custody, initial.queueKeys, member, within, ?_⟩
    intro i tick _ _ _ found
    rw [initial.ticks] at found
    cases found
  have all := path.throughout (undisturbed.and unraced) base fun s a s' taken both inv =>
    inv.step limited (Deployment.moves taken) both.1 both.2
  exact ⟨fun entry listed => (all.1 entry listed).within, all.2.within⟩

/-! ## Two ticks -/

instance (queueId : UUID) (limit : Int) : DecidablePred (ActiveWithin queueId limit) :=
  fun s => inferInstanceAs (Decidable ((s.site.core.activeCount queueId : Int) ≤ limit))

/-- No retry has come in, and no lease has expired. -/
def Calm (s : Deployment) : Prop :=
  s.retries.isEmpty = true ∧ ∀ row ∈ s.site.jobs, ¬ row.Orphaned s.now

instance : DecidablePred Calm :=
  fun s => inferInstanceAs (Decidable (_ ∧ ∀ row ∈ s.site.jobs, ¬ row.Orphaned s.now))

theorem Calm.undisturbed {s : Deployment} (calm : Calm s) (a : Action) : Undisturbed s a := by
  refine ⟨?_, retriesFree_of_none calm.1 a⟩
  intro _ _ _ _ _ _ _ _ _ row member _
  exact calm.2 row member

/-- The tick has a budget. -/
def TickPc.ready : TickPc → Bool
  | .claim _ _ _ _ => true
  | _ => false

theorem unraced_of_one {s : Deployment} (one : AtMostOne TickPc.ready s) (queueId : UUID)
    (a : Action) : Unraced queueId s a := by
  intro i choice tick workerId left rest _ found here _ k other workerId' left' rest' found' here'
  refine one.eq found' found ?_ ?_
  · rw [here']
    rfl
  · rw [here]
    rfl

/-- Two due jobs in a queue with a limit of one. -/
def oneSlotSite : Site := oneQueue (some 1) [dueJob 2 3 .null, dueJob 3 3 .null]

theorem oneSlotSite_initial : (atRest oneSlotSite).Initial :=
  ⟨by decide, by decide, rfl, rfl, rfl, rfl⟩

theorem oneSlotSite_queue :
    ∃ queue ∈ (atRest oneSlotSite).site.queues, queue.id = 100 ∧ queue.concurrencyLimit = some 1 :=
  ⟨_, List.mem_cons_self, rfl, rfl⟩

/-- The second tick finds the slot taken. -/
def ticksInTurn : List Action :=
  [.wait 3000000, .scheduleWorkerTick 0, .cron 0] ++ statements 0 7 ++ statements 1 6

theorem active_within_limit_inTurn :
    ∃ trace last, Path (deployments stubEnv fun _ => "") (atRest oneSlotSite) trace last ∧
      last.site.core.activeCount 100 = 1 ∧ last.ticks.length = 2 ∧
      Throughout (ActiveWithin 100 1) trace last := by
  obtain ⟨trace, last, path, calm, claimed, both⟩ :=
    exists_path_of_execute (deployments stubEnv fun _ => "") ticksInTurn (atRest oneSlotSite)
      (fun trace last => (∀ entry ∈ trace, Calm entry.1 ∧ AtMostOne TickPc.ready entry.1) ∧
        last.site.core.activeCount 100 = 1 ∧ last.ticks.length = 2) (by decide)
  refine ⟨trace, last, path, claimed, both, ?_⟩
  obtain ⟨queue, member, named, limited⟩ := oneSlotSite_queue
  rw [← named]
  exact active_within_limit limited oneSlotSite_initial member (by rw [named]; decide) path
    (fun entry listed => (calm entry listed).1.undisturbed entry.2)
    fun entry listed => unraced_of_one (calm entry listed).2 queue.id entry.2

/-- Two ticks read the budget before either of them claims. -/
def racingTicks : List Action :=
  [.runWorkerTickNow 0, .cron 0] ++ statements 0 6 ++ statements 1 6 ++ statements 0 1 ++
    statements 1 1

/-- Two jobs of a queue with a limit of one are claimed, and no lease has expired. -/
theorem limit_exceeded :
    ¬ ∀ (queue : Queue) (limit : Int) (start last : Deployment)
      (trace : List (Deployment × Action)), queue.concurrencyLimit = some limit →
      start.Initial → queue ∈ start.site.queues → ActiveWithin queue.id limit start →
      Path (deployments stubEnv fun _ => "") start trace last → (∀ entry ∈ trace, Calm entry.1) →
      ActiveWithin queue.id limit last := by
  intro always
  obtain ⟨trace, last, path, calm, exceeded⟩ :=
    exists_path_of_execute (deployments stubEnv fun _ => "") racingTicks (atRest oneSlotSite)
      (fun trace last => (∀ entry ∈ trace, Calm entry.1) ∧ ¬ ActiveWithin 100 1 last) (by decide)
  obtain ⟨queue, member, named, limited⟩ := oneSlotSite_queue
  rw [← named] at exceeded
  exact exceeded (always queue 1 _ last trace limited oneSlotSite_initial member
    (by rw [named]; decide) path calm)

end Dashboard

end JobScheduler
