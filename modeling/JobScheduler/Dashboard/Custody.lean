import JobScheduler.Dashboard.Deployment
import JobScheduler.Transition.Custody

/-!
# Jobs in the custody of a tick

A tick holds the jobs that it claimed and has not written for the last time. Ticks take queued
jobs only, and the jobs they hold are claimed or running, so no job is held twice as long as
nothing else resets a held job: no sweep finds its lease expired and no retry is of it.
-/

set_option autoImplicit false

namespace JobScheduler

open Relational Transition

namespace Dashboard

/-! ## The claim of a tick -/

section Claim

variable {now : Timestamptz} {site site' : Site} {choice : Choice} {workerId queueId : UUID}
  {budget : Int} {jobs : List Job}

theorem mem_dueTargets {tie : UUID → Nat} {id : UUID}
    (member : id ∈ dueTargets now site tie queueId budget) :
    ∃ row ∈ site.jobs, row.Due queueId now ∧ row.id = id := by
  obtain ⟨row, taken, rfl⟩ := List.mem_map.mp member
  have due := (List.mem_insertionSort _).mp (List.mem_of_mem_take taken)
  rw [List.mem_filter, decide_eq_true_eq] at due
  exact ⟨row, due.1, due.2, rfl⟩

theorem length_dueTargets (tie : UUID → Nat) : (dueTargets now site tie queueId budget).length =
    min budget.toNat (site.jobs.countP (Job.Due queueId now)) := by
  rw [dueTargets, List.length_map, List.length_take, List.length_insertionSort,
    List.countP_eq_length_filter]

/-- The claim rewrites the rows it selected and returns them. -/
theorem claimDue_spec
    (claims : claimDue now site choice workerId queueId budget = .ok (site', jobs)) :
    ∃ targets, targets = dueTargets now site choice.tie queueId budget ∧
      site'.jobs = update (·.id ∈ targets) (Job.claim now workerId leaseSeconds) site.jobs ∧
      jobs.Perm
        ((site.jobs.filter (·.id ∈ targets)).map (Job.claim now workerId leaseSeconds)) := by
  unfold claimDue at claims
  cases (passed_check claims).2
  exact ⟨_, rfl, rfl, arrange_perm _ _⟩

/-- A returned row is a due row, claimed. -/
theorem mem_claimed (unique : (site.jobs.map (·.id)).Nodup)
    (claims : claimDue now site choice workerId queueId budget = .ok (site', jobs)) {job : Job}
    (returned : job ∈ jobs) :
    ∃ row ∈ site.jobs, row.Due queueId now ∧ job = Job.claim now workerId leaseSeconds row ∧
      job ∈ site'.jobs := by
  obtain ⟨targets, rfl, rows, perm⟩ := claimDue_spec claims
  obtain ⟨row, selected, rfl⟩ := List.mem_map.mp (perm.mem_iff.mp returned)
  rw [List.mem_filter, decide_eq_true_eq] at selected
  obtain ⟨due, member, isDue, same⟩ := mem_dueTargets selected.2
  rw [eq_of_key_eq unique member selected.1 same] at isDue
  refine ⟨row, selected.1, isDue, rfl, ?_⟩
  rw [rows]
  exact mem_update_of_selects selected.1 selected.2

theorem nodup_claimed (unique : (site.jobs.map (·.id)).Nodup)
    (claims : claimDue now site choice workerId queueId budget = .ok (site', jobs)) :
    (jobs.map (·.id)).Nodup := by
  obtain ⟨targets, _, _, perm⟩ := claimDue_spec claims
  rw [(perm.map _).nodup_iff, List.map_map]
  exact nodup_map_filter unique _

/-- A row of the claimed table is an old row, or a due row that is claimed. -/
theorem cases_claimDue (unique : (site.jobs.map (·.id)).Nodup)
    (claims : claimDue now site choice workerId queueId budget = .ok (site', jobs)) {row' : Job}
    (member : row' ∈ site'.jobs) :
    row' ∈ site.jobs ∨ ∃ row ∈ site.jobs, row.Due queueId now ∧
      row' = Job.claim now workerId leaseSeconds row := by
  obtain ⟨targets, rfl, rows, _⟩ := claimDue_spec claims
  rw [rows] at member
  rcases cases_mem_update member with ⟨old, _⟩ | ⟨row, old, selected, rfl⟩
  · exact .inl old
  · obtain ⟨due, dueMember, isDue, same⟩ := mem_dueTargets selected
    rw [eq_of_key_eq unique dueMember old same] at isDue
    exact .inr ⟨row, old, isDue, rfl⟩

end Claim

/-! ## Held jobs -/

/-- The jobs that a tick claimed and has not written for the last time. -/
def TickPc.held : TickPc → List Job
  | .execute _ job pc jobs _ =>
      match pc.phase with
      | .finished => jobs
      | _ => job :: jobs
  | _ => []

/-- The jobs that the tick with this index holds. -/
def Deployment.held (s : Deployment) (i : Nat) : List UUID :=
  match s.ticks[i]? with
  | none => []
  | some tick => tick.pc.held.map (·.id)

/-- A sweep of the tick finds no held job expired. -/
def NotRobbed (s : Deployment) (a : Action) : Prop :=
  ∀ i choice tick, a = .tick i choice → s.ticks[i]? = some tick → tick.pc = .reap →
    ∀ k, ∀ id ∈ s.held k, ∀ row ∈ s.site.jobs, row.id = id → ¬ row.Orphaned s.now

/-- A retry is not of a held job. -/
def RetriesFree (s : Deployment) (a : Action) : Prop :=
  ∀ i retry, a = .requeue i → s.retries[i]? = some retry → ∀ k, retry.jobId ∉ s.held k

section Held

variable {env : Env} {message : Json → String} {s s' : Deployment} {a : Action}
  {tickEnv : TickEnv} {choice : Choice} {now : Timestamptz} {site site' : Site} {pc pc' : TickPc}
  {event : Option Event}

theorem retriesFree_of_none (none : s.retries.isEmpty = true) (a : Action) : RetriesFree s a := by
  intro i retry _ found
  rw [List.isEmpty_iff.mp none] at found
  cases found

theorem held_eq {i : Nat} {tick : Tick} (found : s.ticks[i]? = some tick) :
    s.held i = tick.pc.held.map (·.id) := by
  rw [Deployment.held, found]

theorem held_congr {i : Nat} (same : s'.ticks[i]? = s.ticks[i]?) : s'.held i = s.held i := by
  rw [Deployment.held, Deployment.held, same]

theorem held_sublist {i : Nat} (same : s'.ticks[i]? = s.ticks[i]?) :
    (s'.held i).Sublist (s.held i) := by
  rw [held_congr same]

theorem exists_of_mem_held {i : Nat} {id : UUID} (member : id ∈ s.held i) :
    ∃ tick, s.ticks[i]? = some tick ∧ ∃ job ∈ tick.pc.held, job.id = id := by
  unfold Deployment.held at member
  cases found : s.ticks[i]? with
  | none =>
      rw [found] at member
      cases member
  | some tick =>
      rw [found] at member
      exact ⟨tick, rfl, List.mem_map.mp member⟩

theorem held_set_self {i : Nat} {tick tick' : Tick} (found : s.ticks[i]? = some tick)
    (ticks : s'.ticks = s.ticks.set i tick') : s'.held i = tick'.pc.held.map (·.id) := by
  refine held_eq ?_
  rw [ticks, List.getElem?_set_self (List.getElem?_eq_some_iff.mp found).1]

theorem held_set_ne {i k : Nat} {tick' : Tick} (ticks : s'.ticks = s.ticks.set i tick')
    (other : k ≠ i) : s'.held k = s.held k := by
  refine held_congr ?_
  rw [ticks, List.getElem?_set_ne (Ne.symm other)]

@[simp]
theorem TickPc.held_resume (workerId : UUID) (jobs : List Job) (queues : List UUID) :
    (TickPc.resume workerId jobs queues).held = jobs := by
  cases jobs with
  | nil => cases queues <;> rfl
  | cons job jobs => rfl

theorem TickPc.held_of_idle (idle : pc.idle = true) : pc.held = [] := by
  cases pc <;> first | rfl | cases idle

theorem TickPc.held_of_ended (ended : pc.running = false) : pc.held = [] := by
  cases pc <;> first | rfl | cases ended

theorem TickPc.held_of_finished {workerId : UUID} {job : Job} {pc : ExecPc} {jobs : List Job}
    {queues : List UUID} (finished : pc.phase = .finished) :
    (TickPc.execute workerId job pc jobs queues).held = jobs := by
  simp only [TickPc.held, finished]

theorem TickPc.held_of_phase {workerId : UUID} {job : Job} {pc : ExecPc} {jobs : List Job}
    {queues : List UUID} {phase : Phase} (here : pc.phase = phase) (open' : phase ≠ .finished) :
    (TickPc.execute workerId job pc jobs queues).held = job :: jobs := by
  rw [← here] at open'
  simp only [TickPc.held]

theorem Settles.phase {now : Timestamptz} {pc : ExecPc} {rewrite : Job → Job}
    (settles : Settles now pc rewrite) : pc.phase = .finishing := by
  cases settles <;> rfl

theorem afterHandler_phase (job : Job) (payload : Json) (executionId : UUID) (duration : Int)
    (error : Option String) :
    (afterHandler job payload executionId duration error).phase = .finishing := by
  cases error with
  | none => rfl
  | some errMsg =>
      simp only [afterHandler]
      split <;> rfl

/-- The first of the jobs of a tick is not among the others. -/
theorem id_ne_of_nodup {job other : Job} {jobs : List Job}
    (once : ((job :: jobs).map (·.id)).Nodup) (listed : other ∈ jobs) : other.id ≠ job.id := by
  rw [List.map_cons, List.nodup_cons] at once
  intro same
  refine once.1 ?_
  rw [← same]
  exact List.mem_map_of_mem listed

theorem Settles.inactive {now : Timestamptz} {pc : ExecPc} {rewrite : Job → Job}
    (settles : Settles now pc rewrite) (row : Job) : ¬ (rewrite row).status.Active := by
  cases settles <;> rintro (active | active) <;> cases active

/-- What a step of a tick does to the jobs that it holds: nothing, or it settles the first, or it
claims them. -/
theorem Effect.held_cases (effect : Effect tickEnv choice now site pc site' pc' event) :
    pc'.held = pc.held ∨
      (∃ job rewrite, pc.held = job :: pc'.held ∧ site' = rewriteJob site job.id rewrite ∧
        ∀ row, ¬ (rewrite row).status.Active) ∨
      ∃ workerId queueId left rest jobs, pc = .claim workerId queueId left rest ∧
        claimDue now site choice workerId queueId left = .ok (site', jobs) ∧ pc'.held = jobs := by
  cases effect with
  | reap => exact .inl rfl
  | pass idle idle' _ _ _ =>
      rw [TickPc.held_of_idle idle, TickPc.held_of_idle idle']
      exact .inl rfl
  | budget _ _ => exact .inl rfl
  | claim claims =>
      exact .inr (.inr ⟨_, _, _, _, _, rfl, claims, TickPc.held_resume _ _ _⟩)
  | setRunning _ => exact .inl rfl
  | prepare here there _ _ =>
      rw [TickPc.held_of_phase here (by simp), TickPc.held_of_phase there (by simp)]
      exact .inl rfl
  | start => exact .inl rfl
  | handle =>
      rw [TickPc.held_of_phase (afterHandler_phase _ _ _ _ _) (by simp)]
      exact .inl rfl
  | @settle _ job _ _ _ _ rewrite settles there =>
      rw [TickPc.held_of_phase settles.phase (by simp), TickPc.held_of_finished there]
      exact .inr (.inl ⟨job, rewrite, rfl, rfl, settles.inactive⟩)
  | record here there _ _ =>
      rw [TickPc.held_of_finished here, TickPc.held_of_finished there]
      exact .inl rfl
  | next here _ _ =>
      rw [TickPc.held_of_finished here, TickPc.held_resume]
      exact .inl rfl

/-- Only the claim adds to what a tick holds. -/
theorem Effect.held (effect : Effect tickEnv choice now site pc site' pc' event)
    (ready : ∀ workerId queueId left rest, pc ≠ .claim workerId queueId left rest) :
    pc'.held.Sublist pc.held := by
  rcases effect.held_cases with same | ⟨job, _, settled, _⟩ |
    ⟨workerId, queueId, left, rest, _, here, _⟩
  · rw [same]
  · rw [settled]
    exact List.sublist_cons_self _ _
  · exact absurd here (ready workerId queueId left rest)

/-- The tick at this index is about to claim, and the action is that claim. -/
structure ClaimsAt (s s' : Deployment) (a : Action) (i : Nat) (jobs : List Job) : Prop where
  claim : ∃ choice tick workerId queueId left rest, a = .tick i choice ∧
    s.ticks[i]? = some tick ∧ tick.pc = .claim workerId queueId left rest ∧
    claimDue s.now s.site choice workerId queueId left = .ok (s'.site, jobs)
  held : s'.held i = jobs.map (·.id)
  others : ∀ k, k ≠ i → s'.held k = s.held k

/-- An action either takes nothing, or it is the claim of a tick. -/
theorem Moves.held (moves : Moves env message s s' a) :
    (∀ i, (s'.held i).Sublist (s.held i)) ∨ ∃ i jobs, ClaimsAt s s' a i jobs := by
  cases moves with
  | waited _ same =>
      rw [same]
      exact .inl fun _ => List.Sublist.refl _
  | quiet _ _ _ ticks _ _ => exact .inl fun i => held_sublist (by rw [ticks])
  | started p _ _ _ ticks _ _ =>
      refine .inl fun i => ?_
      by_cases old : i < s.ticks.length
      · exact held_sublist (by rw [ticks, List.getElem?_append_left old])
      · -- the new tick holds nothing
        have nothing : s'.held i = [] := by
          unfold Deployment.held
          rw [ticks, List.getElem?_append_right (Nat.le_of_not_lt old)]
          cases i - s.ticks.length <;> rfl
        rw [nothing]
        exact List.nil_sublist _
  | stopped _ _ ticks _ _ =>
      refine .inl fun i => ?_
      rcases ticks i with same | ⟨_, tick', _, _, found, ended⟩
      · exact held_sublist same
      · rw [held_eq found, TickPc.held_of_ended ended]
        exact List.nil_sublist _
  | @ticked i choice tick tick' event found effect _ ticks _ _ =>
      by_cases ready : ∃ workerId queueId left rest, tick.pc = .claim workerId queueId left rest
      · obtain ⟨workerId, queueId, left, rest, here⟩ := ready
        rw [here] at effect
        generalize pc : tick'.pc = pc' at effect
        cases effect with
        | pass idle _ _ _ _ => cases idle
        | @claim _ _ _ _ _ jobs claims =>
            refine .inr ⟨i, jobs, ⟨choice, tick, workerId, queueId, left, rest, rfl, found, here,
              claims⟩, ?_, fun k other => held_set_ne ticks other⟩
            rw [held_set_self found ticks, pc, TickPc.held_resume]
      · refine .inl fun k => ?_
        by_cases same : k = i
        · rw [same, held_set_self found ticks, held_eq found]
          refine (effect.held fun workerId queueId left rest here => ?_).map _
          exact ready ⟨workerId, queueId, left, rest, here⟩
        · rw [held_set_ne ticks same]
  | inserted _ _ _ _ ticks _ _ => exact .inl fun i => held_sublist (by rw [ticks])
  | requeued _ _ _ ticks _ _ _ => exact .inl fun i => held_sublist (by rw [ticks])

end Held

/-! ## Custody -/

/-- A row with this identifier is claimed or running. -/
def ActiveJob (site : Site) (id : UUID) : Prop :=
  ∃ row ∈ site.jobs, row.id = id ∧ row.status.Active

/-- Held jobs are active, and no job is held twice. -/
structure Custody (s : Deployment) : Prop where
  keys : (s.site.jobs.map (·.id)).Nodup
  exclusive : Exclusive s.held
  active : ∀ i, ∀ id ∈ s.held i, ActiveJob s.site id

section Custody

variable {env : Env} {message : Json → String} {s s' : Deployment} {a : Action}

/-- An update that keeps the row active, if it selects it. -/
theorem activeJob_update {site site' : Site} {selects : Job → Prop} [DecidablePred selects]
    {rewrite : Job → Job} {id : UUID} (rows : site'.jobs = update selects rewrite site.jobs)
    (ids : ∀ row, (rewrite row).id = row.id)
    (keeps : ∀ row ∈ site.jobs, row.id = id → row.status.Active → selects row →
      (rewrite row).status.Active)
    (active : ActiveJob site id) : ActiveJob site' id := by
  obtain ⟨row, member, same, holds⟩ := active
  refine ⟨if selects row then rewrite row else row, ?_, ?_⟩
  · rw [rows]
    exact mem_update.mpr ⟨row, member, rfl⟩
  · split
    next selected => exact ⟨(ids row).trans same, keeps row member same holds selected⟩
    · exact ⟨same, holds⟩

theorem activeJob_congr {site site' : Site} {id : UUID} (jobs : site'.jobs = site.jobs)
    (active : ActiveJob site id) : ActiveJob site' id := by
  rwa [ActiveJob, jobs]

/-- A step of a tick leaves an active job active, unless it sweeps it or settles it. -/
theorem Effect.active {tickEnv : TickEnv} {choice : Choice} {now : Timestamptz} {site site' : Site}
    {pc pc' : TickPc} {event : Option Event} {id : UUID}
    (effect : Effect tickEnv choice now site pc site' pc' event)
    (spared : pc = .reap → ∀ row ∈ site.jobs, row.id = id → ¬ row.Orphaned now)
    (kept : id ∈ pc.held.map (·.id) → id ∈ pc'.held.map (·.id))
    (once : (pc.held.map (·.id)).Nodup) (active : ActiveJob site id) :
    ActiveJob site' id := by
  cases effect.writes with
  | nothing jobs => exact activeJob_congr jobs active
  | reap =>
      refine activeJob_update rfl (fun _ => rfl) ?_ active
      intro row member same _ orphaned
      exact absurd orphaned (spared rfl row member same)
  | claim claims =>
      obtain ⟨targets, _, rows, _⟩ := claimDue_spec claims
      exact activeJob_update rows (fun _ => rfl) (fun _ _ _ _ _ => .inl rfl) active
  | setRunning => exact activeJob_update rfl (fun _ => rfl) (fun _ _ _ _ _ => .inr rfl) active
  | @settle _ job _ _ jobs _ _ settles there =>
      rw [TickPc.held_of_phase settles.phase (by simp)] at kept once
      rw [TickPc.held_of_finished there] at kept
      refine activeJob_update rfl settles.id ?_ active
      -- the settled job is not held any more
      intro row _ same _ settled
      have listed := kept (List.mem_cons.mpr (.inl (same.symm.trans settled)))
      obtain ⟨other, behind, sameId⟩ := List.mem_map.mp listed
      exact absurd (sameId.trans (same.symm.trans settled)) (id_ne_of_nodup once behind)

/-- A claim takes queued jobs, and held ones are not queued. -/
theorem Custody.exclusive_step (custody : Custody s) (moves : Moves env message s s' a) :
    Exclusive s'.held := by
  rcases moves.held with fewer | ⟨i, jobs, claims⟩
  · exact custody.exclusive.giveBack fewer
  · obtain ⟨choice, tick, workerId, queueId, left, rest, _, _, _, claim⟩ := claims.claim
    refine custody.exclusive.take i claims.others ?_ ?_
    · rw [claims.held]
      exact nodup_claimed custody.keys claim
    · rw [claims.held]
      intro id listed k other holds
      obtain ⟨job, returned, rfl⟩ := List.mem_map.mp listed
      obtain ⟨row, member, due, rfl, _⟩ := mem_claimed custody.keys claim returned
      obtain ⟨row', member', same, active⟩ := custody.active k _ holds
      rw [eq_of_key_eq custody.keys member' member same] at active
      exact active.ne (by decide) due.2.1

/-- A job that is held before and after the action stays active. -/
theorem Custody.active_step (custody : Custody s) (moves : Moves env message s s' a)
    (notRobbed : NotRobbed s a) (retriesFree : RetriesFree s a) {i : Nat} {id : UUID}
    (held : id ∈ s.held i) (holds : id ∈ s'.held i) : ActiveJob s'.site id := by
  have active := custody.active i id held
  rcases moves.jobs_cases with same | ⟨k, choice, tick, tick', event, steps⟩ | ⟨new, _, jobs⟩ |
    ⟨k, retry, requeues, found, site⟩
  · exact activeJob_congr same active
  · refine steps.effect.active (fun sweeps => ?_) (fun listed => ?_) ?_ active
    · exact notRobbed k choice tick steps.action steps.found sweeps i id held
    · -- the job is held by the tick that acts, so that tick still holds it
      rw [← held_eq steps.found] at listed
      have same := custody.exclusive.apart k i id listed held
      rw [← same, held_eq steps.there] at holds
      exact holds
    · rw [← held_eq steps.found]
      exact custody.exclusive.once k
  · obtain ⟨row, member, rest⟩ := active
    refine ⟨row, ?_, rest⟩
    rw [jobs]
    exact List.mem_append_left _ member
  · rw [site]
    refine activeJob_update rfl (fun _ => rfl) ?_ active
    intro row _ same _ selected
    rw [← same, selected.1] at held
    exact absurd held (retriesFree k retry requeues found i)

/-- **Custody is kept** by every action that resets no held job. -/
theorem Custody.step (custody : Custody s) (moves : Moves env message s s' a)
    (notRobbed : NotRobbed s a) (retriesFree : RetriesFree s a) : Custody s' := by
  refine ⟨moves.jobKeys custody.keys, custody.exclusive_step moves, ?_⟩
  intro i id holds
  rcases moves.held with fewer | ⟨k, jobs, claims⟩
  · exact custody.active_step moves notRobbed retriesFree ((fewer i).subset holds) holds
  · by_cases same : i = k
    · obtain ⟨choice, tick, workerId, queueId, left, rest, _, _, _, claim⟩ := claims.claim
      rw [same, claims.held] at holds
      obtain ⟨job, returned, rfl⟩ := List.mem_map.mp holds
      obtain ⟨row, _, _, rfl, member⟩ := mem_claimed custody.keys claim returned
      exact ⟨_, member, rfl, .inl rfl⟩
    · refine custody.active_step moves notRobbed retriesFree ?_ holds
      rw [← claims.others i same]
      exact holds

theorem Deployment.Initial.held (initial : s.Initial) (i : Nat) : s.held i = [] := by
  rw [Deployment.held, initial.ticks]
  rfl

theorem Deployment.Initial.custody (initial : s.Initial) : Custody s where
  keys := initial.jobKeys
  exclusive := by
    refine ⟨fun i => ?_, fun i k id member => ?_⟩
    · rw [initial.held]
      exact List.nodup_nil
    · rw [initial.held] at member
      cases member
  active i id member := by
    rw [initial.held] at member
    cases member

end Custody

end Dashboard

end JobScheduler
