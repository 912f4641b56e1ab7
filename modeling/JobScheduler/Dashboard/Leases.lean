import JobScheduler.Dashboard.Custody

/-!
# The lease of a batch

A tick claims a batch under one lease of `LEASE_SECONDS`, executes the jobs one after another
and renews nothing. When a handler takes up to five seconds, the seventh job of a batch may
still wait for its turn when its lease expires, and the sweep of another tick gives it away. It
is then executed twice.

When no claim takes more than six jobs, every job of a batch is done before its lease expires:
the deadlines of the jobs that a tick holds (`TickPc.deadlines`) are never later than their
leases. Statements take no time, so the clock moves only while all ticks are in handlers.
-/

set_option autoImplicit false

namespace JobScheduler

open Relational Transition

namespace Dashboard

/-! ## Deadlines -/

/-- When jobs that are executed one after another, from now on, are done at the latest. -/
def schedule (from' : Timestamptz) : List Job → List (UUID × Timestamptz)
  | [] => []
  | job :: jobs =>
      (job.id, from' + intervalSeconds 5) :: schedule (from' + intervalSeconds 5) jobs

/-- When the jobs that a tick holds are done at the latest. -/
def TickPc.deadlines (now : Timestamptz) : TickPc → List (UUID × Timestamptz)
  | .execute _ job pc jobs _ =>
      match pc.phase with
      | .waiting | .preparing => schedule now (job :: jobs)
      | .handling since => schedule since (job :: jobs)
      | .finishing => (job.id, now) :: schedule now jobs
      | .finished => schedule now jobs
  | _ => []

def Deployment.deadlines (s : Deployment) (i : Nat) : List (UUID × Timestamptz) :=
  match s.ticks[i]? with
  | none => []
  | some tick => tick.pc.deadlines s.now

/-- When the handler of a tick was entered. -/
def TickPc.handlingSince : TickPc → Option Timestamptz
  | .execute _ _ pc _ _ =>
      match pc.phase with
      | .handling since => some since
      | _ => none
  | _ => none

/-- Time passes in handlers only, and a handler takes five seconds at most. -/
def Prompt (s : Deployment) : Action → Prop
  | .wait later => ∀ tick ∈ s.ticks, tick.pc.running = true →
      ∃ since ∈ tick.pc.handlingSince, later ≤ since + intervalSeconds 5
  | _ => True

/-- A claim takes at most six jobs. -/
def SmallBatch (s : Deployment) (a : Action) : Prop :=
  ∀ i choice tick workerId queueId left rest, a = .tick i choice → s.ticks[i]? = some tick →
    tick.pc = .claim workerId queueId left rest →
    min left.toNat (s.site.jobs.countP (Job.Due queueId s.now)) ≤ 6

section Deadlines

variable {from' from'' now : Timestamptz} {jobs : List Job}

theorem schedule_fst : (schedule from' jobs).map (·.1) = jobs.map (·.id) := by
  induction jobs generalizing from' with
  | nil => rfl
  | cons job jobs ih => simp only [schedule, List.map_cons, ih]

/-- The deadlines of a later start are later. -/
theorem schedule_mono (earlier : from' ≤ from'') {entry : UUID × Timestamptz}
    (member : entry ∈ schedule from' jobs) :
    ∃ entry' ∈ schedule from'' jobs, entry'.1 = entry.1 ∧ entry.2 ≤ entry'.2 := by
  induction jobs generalizing from' from'' with
  | nil => cases member
  | cons job jobs ih =>
      simp only [schedule, List.mem_cons] at member
      rcases member with rfl | later
      · exact ⟨_, List.mem_cons_self, rfl, Int.add_le_add_right earlier _⟩
      · obtain ⟨entry', member', same, before⟩ := ih (Int.add_le_add_right earlier _) later
        exact ⟨entry', List.mem_cons_of_mem _ member', same, before⟩

/-- The deadlines lie between the start and five seconds for each job after it. -/
theorem schedule_bounds {entry : UUID × Timestamptz} (member : entry ∈ schedule from' jobs) :
    from' ≤ entry.2 ∧ entry.2 ≤ from' + intervalSeconds (5 * jobs.length) := by
  induction jobs generalizing from' with
  | nil => cases member
  | cons job jobs ih =>
      simp only [schedule, List.mem_cons] at member
      rcases member with rfl | later
      · simp only [intervalSeconds, List.length_cons]
        grind
      · have bounds := ih later
        simp only [intervalSeconds, List.length_cons] at bounds ⊢
        grind

theorem TickPc.deadlines_fst (pc : TickPc) :
    (pc.deadlines now).map (·.1) = pc.held.map (·.id) := by
  cases pc with
  | execute workerId job pc jobs queues =>
      simp only [TickPc.deadlines, TickPc.held]
      cases pc.phase <;> simp only [List.map_cons, schedule_fst]
  | _ => rfl

theorem TickPc.deadlines_of_phase {workerId : UUID} {job : Job} {pc pc' : ExecPc}
    {queues : List UUID} (same : pc'.phase = pc.phase) :
    (TickPc.execute workerId job pc' jobs queues).deadlines now =
      (TickPc.execute workerId job pc jobs queues).deadlines now := by
  simp only [TickPc.deadlines, same]

theorem TickPc.deadlines_of_finished {workerId : UUID} {job : Job} {pc : ExecPc}
    {queues : List UUID} (finished : pc.phase = .finished) :
    (TickPc.execute workerId job pc jobs queues).deadlines now = schedule now jobs := by
  simp only [TickPc.deadlines, finished]

theorem TickPc.deadlines_of_finishing {workerId : UUID} {job : Job} {pc : ExecPc}
    {queues : List UUID} (finishing : pc.phase = .finishing) :
    (TickPc.execute workerId job pc jobs queues).deadlines now =
      (job.id, now) :: schedule now jobs := by
  simp only [TickPc.deadlines, finishing]

theorem TickPc.deadlines_resume (workerId : UUID) (queues : List UUID) :
    (TickPc.resume workerId jobs queues).deadlines now = schedule now jobs := by
  cases jobs with
  | nil => cases queues <;> rfl
  | cons job jobs => rfl

theorem TickPc.deadlines_of_idle {pc : TickPc} (idle : pc.idle = true) : pc.deadlines now = [] := by
  cases pc <;> first | rfl | cases idle

theorem TickPc.deadlines_of_ended {pc : TickPc} (ended : pc.running = false) :
    pc.deadlines now = [] := by
  cases pc <;> first | rfl | cases ended

/-- In a handler the deadlines do not depend on the clock. -/
theorem TickPc.deadlines_handling {pc : TickPc} {since : Timestamptz}
    (handling : since ∈ pc.handlingSince) (now later : Timestamptz) :
    pc.deadlines later = pc.deadlines now := by
  cases pc with
  | execute workerId job pc jobs queues =>
      simp only [TickPc.handlingSince] at handling
      simp only [TickPc.deadlines]
      cases phase : pc.phase <;> simp only [phase] at handling ⊢ <;> cases handling
  | _ => rfl

end Deadlines

/-! ## The invariant -/

/-- Every held job is done before its lease expires, whoever set it. -/
structure Leased (s : Deployment) : Prop where
  keys : (s.site.jobs.map (·.id)).Nodup
  covered : ∀ i, ∀ entry ∈ s.deadlines i, ∀ row ∈ s.site.jobs, row.id = entry.1 →
    ∀ lease ∈ row.leaseExpiresAt, entry.2 ≤ lease
  /-- A lease that is set now covers the held jobs. -/
  short : ∀ i, ∀ entry ∈ s.deadlines i, entry.2 ≤ s.now + intervalSeconds leaseSeconds
  inTime : ∀ tick ∈ s.ticks, ∀ since ∈ tick.pc.handlingSince, s.now ≤ since + intervalSeconds 5

section Step

variable {env : Env} {message : Json → String} {s s' : Deployment} {a : Action}
  {tickEnv : TickEnv} {choice : Choice} {now : Timestamptz} {site site' : Site} {pc pc' : TickPc}
  {event : Option Event}

/-- A deadline that is not later than one there was. -/
def NoLater (old : List (UUID × Timestamptz)) (entry : UUID × Timestamptz) : Prop :=
  ∃ entry' ∈ old, entry'.1 = entry.1 ∧ entry.2 ≤ entry'.2

theorem noLater_of_mem {old : List (UUID × Timestamptz)} {entry : UUID × Timestamptz}
    (member : entry ∈ old) : NoLater old entry :=
  ⟨entry, member, rfl, le_refl _⟩

/-- Steps other than the claim move no deadline back. -/
theorem Effect.noLater {entry : UUID × Timestamptz}
    (effect : Effect tickEnv choice now site pc site' pc' event)
    (inTime : ∀ since ∈ pc.handlingSince, now ≤ since + intervalSeconds 5)
    (member : entry ∈ pc'.deadlines now) :
    NoLater (pc.deadlines now) entry ∨ ∃ workerId queueId left rest jobs,
      pc = .claim workerId queueId left rest ∧ entry ∈ schedule now jobs ∧
        claimDue now site choice workerId queueId left = .ok (site', jobs) := by
  cases effect with
  | reap => cases member
  | pass _ idle' _ _ _ =>
      rw [TickPc.deadlines_of_idle idle'] at member
      cases member
  | budget _ _ => cases member
  | claim claims =>
      rw [TickPc.deadlines_resume] at member
      exact .inr ⟨_, _, _, _, _, rfl, member, claims⟩
  | setRunning _ => exact .inl (noLater_of_mem member)
  | prepare here there _ _ =>
      rw [TickPc.deadlines_of_phase (there.trans here.symm)] at member
      exact .inl (noLater_of_mem member)
  | start => exact .inl (noLater_of_mem member)
  | @handle workerId job jobs rest payload executionId since duration error =>
      -- the handler is left in time
      have done : now ≤ since + intervalSeconds 5 := inTime since rfl
      rw [TickPc.deadlines_of_finishing (afterHandler_phase _ _ _ _ _)] at member
      left
      rcases List.mem_cons.mp member with rfl | later
      · exact ⟨_, List.mem_cons_self, rfl, done⟩
      · obtain ⟨entry', member', same, before⟩ := schedule_mono done later
        exact ⟨entry', List.mem_cons_of_mem _ member', same, before⟩
  | settle settles there =>
      rw [TickPc.deadlines_of_finished there] at member
      rw [TickPc.deadlines_of_finishing settles.phase]
      exact .inl (noLater_of_mem (List.mem_cons_of_mem _ member))
  | record here there _ _ =>
      rw [TickPc.deadlines_of_phase (there.trans here.symm)] at member
      exact .inl (noLater_of_mem member)
  | next here _ _ =>
      rw [TickPc.deadlines_resume] at member
      rw [TickPc.deadlines_of_finished here]
      exact .inl (noLater_of_mem member)

/-- A lease was there before, or it is set by a claim. -/
def LeaseFrom (site : Site) (now : Timestamptz) (row' : Job) : Prop :=
  ∀ lease ∈ row'.leaseExpiresAt,
    (∃ row ∈ site.jobs, row.id = row'.id ∧ lease ∈ row.leaseExpiresAt) ∨
      lease = now + intervalSeconds leaseSeconds

theorem leaseFrom_update {selects : Job → Prop}
    [DecidablePred selects] {rewrite : Job → Job} {row' : Job}
    (member : row' ∈ update selects rewrite site.jobs) (ids : ∀ row, (rewrite row).id = row.id)
    (leases : ∀ row, (rewrite row).leaseExpiresAt = row.leaseExpiresAt ∨
      (rewrite row).leaseExpiresAt = none ∨
      (rewrite row).leaseExpiresAt = some (now + intervalSeconds leaseSeconds)) :
    LeaseFrom site now row' := by
  intro lease set
  rcases cases_mem_update member with ⟨old, _⟩ | ⟨row, old, _, rfl⟩
  · exact .inl ⟨row', old, rfl, set⟩
  · rcases leases row with same | none | new
    · rw [same] at set
      exact .inl ⟨row, old, (ids row).symm, set⟩
    · rw [none] at set
      cases set
    · rw [new] at set
      cases set
      exact .inr rfl

theorem leaseFrom_of_mem {row : Job} (member : row ∈ site.jobs) : LeaseFrom site now row :=
  fun _ set => .inl ⟨row, member, rfl, set⟩

theorem Effect.leaseFrom {row' : Job} (effect : Effect tickEnv choice now site pc site' pc' event)
    (member : row' ∈ site'.jobs) : LeaseFrom site now row' := by
  cases effect.writes with
  | nothing jobs =>
      rw [jobs] at member
      exact leaseFrom_of_mem member
  | reap => exact leaseFrom_update member (fun _ => rfl) fun _ => .inr (.inl rfl)
  | claim claims =>
      obtain ⟨targets, _, rows, _⟩ := claimDue_spec claims
      rw [rows] at member
      exact leaseFrom_update member (fun _ => rfl) fun _ => .inr (.inr rfl)
  | setRunning => exact leaseFrom_update member (fun _ => rfl) fun _ => .inl rfl
  | settle settles _ =>
      refine leaseFrom_update member settles.id fun row => .inr (.inl ?_)
      cases settles <;> rfl

theorem Moves.leaseFrom (moves : Moves env message s s' a) {row' : Job}
    (member : row' ∈ s'.site.jobs) : LeaseFrom s.site s.now row' := by
  rcases moves.jobs_cases with same | ⟨_, _, _, _, _, steps⟩ | ⟨new, _, jobs⟩ | ⟨_, _, _, _, site⟩
  · rw [same] at member
    exact leaseFrom_of_mem member
  · exact steps.effect.leaseFrom member
  · rw [jobs, List.mem_append, List.mem_singleton] at member
    rcases member with old | rfl
    · exact leaseFrom_of_mem old
    · -- a new row has no lease
      intro lease set
      cases set
  · rw [site] at member
    exact leaseFrom_update member (fun _ => rfl) fun _ => .inr (.inl rfl)

theorem mem_deadlines {i : Nat} {entry : UUID × Timestamptz} (member : entry ∈ s.deadlines i) :
    ∃ tick, s.ticks[i]? = some tick ∧ entry ∈ tick.pc.deadlines s.now := by
  unfold Deployment.deadlines at member
  cases found : s.ticks[i]? with
  | none =>
      rw [found] at member
      cases member
  | some tick =>
      rw [found] at member
      exact ⟨tick, rfl, member⟩

theorem deadlines_eq {i : Nat} {tick : Tick} (found : s.ticks[i]? = some tick) :
    s.deadlines i = tick.pc.deadlines s.now := by
  rw [Deployment.deadlines, found]

/-- The jobs of a small claim are done before the lease that it sets expires. -/
theorem schedule_claimed {workerId queueId : UUID} {left : Int} {jobs : List Job}
    (claims : claimDue now site choice workerId queueId left = .ok (site', jobs))
    (unique : (site.jobs.map (·.id)).Nodup)
    (small : min left.toNat (site.jobs.countP (Job.Due queueId now)) ≤ 6)
    {entry : UUID × Timestamptz} (member : entry ∈ schedule now jobs) :
    entry.2 ≤ now + intervalSeconds leaseSeconds ∧ ∀ row' ∈ site'.jobs, row'.id = entry.1 →
      row'.leaseExpiresAt = some (now + intervalSeconds leaseSeconds) := by
  obtain ⟨targets, first, rows, perm⟩ := claimDue_spec claims
  constructor
  · have few : jobs.length ≤ 6 := by
      calc jobs.length = (site.jobs.filter (·.id ∈ targets)).length := by
            rw [perm.length_eq, List.length_map]
        _ = site.jobs.countP (fun job => job.id ∈ targets) := List.countP_eq_length_filter.symm
        _ ≤ targets.length := countP_key_mem_le unique targets
        _ ≤ 6 := by
            rw [first, length_dueTargets]
            exact small
    have bounds := (schedule_bounds member).2
    simp only [intervalSeconds, leaseSeconds] at bounds ⊢
    grind
  · intro row' member' same
    have listed : row'.id ∈ jobs.map (·.id) := by
      rw [same, ← schedule_fst]
      exact List.mem_map_of_mem member
    obtain ⟨job, returned, sameId⟩ := List.mem_map.mp listed
    obtain ⟨row, selected, rfl⟩ := List.mem_map.mp (perm.mem_iff.mp returned)
    rw [List.mem_filter, decide_eq_true_eq] at selected
    rw [rows] at member'
    rcases cases_mem_update member' with ⟨_, missed⟩ | ⟨_, _, _, rfl⟩
    · rw [← sameId] at missed
      exact absurd selected.2 missed
    · rfl

/-- Where a deadline comes from. -/
theorem Leased.deadline (leased : Leased s) (moves : Moves env message s s' a) (prompt : Prompt s a)
    {i : Nat} {entry : UUID × Timestamptz} (member : entry ∈ s'.deadlines i) :
    NoLater (s.deadlines i) entry ∨ s'.now = s.now ∧
      ∃ choice tick workerId queueId left rest jobs, a = .tick i choice ∧
        s.ticks[i]? = some tick ∧ tick.pc = .claim workerId queueId left rest ∧
        entry ∈ schedule s.now jobs ∧
        claimDue s.now s.site choice workerId queueId left = .ok (s'.site, jobs) := by
  obtain ⟨tick, found, due⟩ := mem_deadlines member
  rcases moves.tick found with old | reap | ended | ⟨choice, old, event, steps⟩
  · left
    rw [deadlines_eq old]
    rcases moves.clock with same | ⟨later, waits, _, _⟩
    · rw [same] at due
      exact noLater_of_mem due
    · -- a tick with deadlines is running, so it is in its handler
      have running : tick.pc.running = true := by
        cases ended : tick.pc.running with
        | true => rfl
        | false =>
            rw [TickPc.deadlines_of_ended ended] at due
            cases due
      rw [waits] at prompt
      obtain ⟨since, handling, _⟩ := prompt tick (List.mem_of_getElem? old) running
      rw [TickPc.deadlines_handling handling s.now] at due
      exact noLater_of_mem due
  · rw [reap] at due
    cases due
  · rw [TickPc.deadlines_of_ended ended] at due
    cases due
  · have same : s'.now = s.now := by
      rcases moves.clock with same | ⟨later, waits, _, _⟩
      · exact same
      · rw [steps.action] at waits
        cases waits
    rw [same] at due
    rw [deadlines_eq steps.found]
    have inTime := leased.inTime old (List.mem_of_getElem? steps.found)
    rcases steps.effect.noLater inTime due with
      noLater | ⟨workerId, queueId, left, rest, jobs, here, new, claims⟩
    · exact .inl noLater
    · exact .inr ⟨same, choice, old, workerId, queueId, left, rest, jobs, steps.action, steps.found,
        here, new, claims⟩

/-- A handler is entered now. -/
theorem Effect.entered {since : Timestamptz}
    (effect : Effect tickEnv choice now site pc site' pc' event)
    (handling : since ∈ pc'.handlingSince) : since = now := by
  cases effect with
  | reap => cases handling
  | pass _ idle' _ _ _ => cases pc' <;> first | cases handling | cases idle'
  | budget _ _ => cases handling
  | @claim _ _ _ rest _ jobs _ => cases jobs <;> cases rest <;> cases handling
  | setRunning _ => cases handling
  | prepare _ there _ _ =>
      simp only [TickPc.handlingSince, there] at handling
      cases handling
  | start =>
      cases handling
      rfl
  | handle =>
      simp only [TickPc.handlingSince, afterHandler_phase] at handling
      cases handling
  | settle _ there =>
      simp only [TickPc.handlingSince, there] at handling
      cases handling
  | record _ there _ _ =>
      simp only [TickPc.handlingSince, there] at handling
      cases handling
  | @next _ _ _ jobs rest _ _ _ _ => cases jobs <;> cases rest <;> cases handling

theorem Leased.step (leased : Leased s) (moves : Moves env message s s' a) (prompt : Prompt s a)
    (small : SmallBatch s a) : Leased s' where
  keys := moves.jobKeys leased.keys
  covered i entry member row' member' same lease set := by
    rcases leased.deadline moves prompt member with ⟨entry', old, sameId, noLater⟩ |
      ⟨_, choice, tick, workerId, queueId, left, rest, jobs, taken, found, here, new, claims⟩
    · rcases moves.leaseFrom member' lease set with ⟨row, oldRow, sameRow, set'⟩ | rfl
      · have before := leased.covered i entry' old row oldRow
          (sameRow.trans (same.trans sameId.symm)) lease set'
        exact le_trans noLater before
      · exact le_trans noLater (leased.short i entry' old)
    · have done := schedule_claimed claims leased.keys
        (small i choice tick workerId queueId left rest taken found here) new
      rw [done.2 row' member' same] at set
      cases set
      exact done.1
  short i entry member := by
    have forward : s.now ≤ s'.now := by
      rcases moves.clock with same | ⟨later, _, forward, rfl⟩
      · rw [same]
      · exact forward
    rcases leased.deadline moves prompt member with ⟨entry', old, _, noLater⟩ |
      ⟨_, choice, tick, workerId, queueId, left, rest, jobs, taken, found, here, new, claims⟩
    · have before := le_trans noLater (leased.short i entry' old)
      exact le_trans before (Int.add_le_add_right forward _)
    · have done := schedule_claimed claims leased.keys
        (small i choice tick workerId queueId left rest taken found here) new
      exact le_trans done.1 (Int.add_le_add_right forward _)
  inTime tick member since handling := by
    obtain ⟨i, found⟩ := List.mem_iff_getElem?.mp member
    have running : tick.pc.running = true := by
      cases pc : tick.pc with
      | execute workerId job pc jobs queues => rfl
      | _ =>
          rw [pc] at handling
          cases handling
    rcases moves.clock with same | ⟨later, waits, _, rfl⟩
    · rw [same]
      rcases moves.tick found with old | reap | ended | ⟨_, _, _, steps⟩
      · exact leased.inTime tick (List.mem_of_getElem? old) since handling
      · rw [reap] at handling
        cases handling
      · rw [running] at ended
        cases ended
      · rw [steps.effect.entered handling]
        simp only [intervalSeconds]
        grind
    · rw [waits] at prompt
      obtain ⟨since', handling', inTime⟩ := prompt tick member running
      cases Option.mem_unique handling handling'
      exact inTime

/-- The deadlines of a tick have not passed. -/
theorem TickPc.now_le_deadline {entry : UUID × Timestamptz}
    (inTime : ∀ since ∈ pc.handlingSince, now ≤ since + intervalSeconds 5)
    (member : entry ∈ pc.deadlines now) : now ≤ entry.2 := by
  cases pc with
  | execute workerId job pc jobs queues =>
      simp only [TickPc.deadlines] at member
      simp only [TickPc.handlingSince] at inTime
      cases phase : pc.phase with
      | waiting =>
          simp only [phase] at member
          exact (schedule_bounds member).1
      | preparing =>
          simp only [phase] at member
          exact (schedule_bounds member).1
      | handling since =>
          simp only [phase] at member inTime
          rcases List.mem_cons.mp member with rfl | later
          · exact inTime since rfl
          · exact le_trans (inTime since rfl) (schedule_bounds later).1
      | finishing =>
          simp only [phase] at member
          rcases List.mem_cons.mp member with rfl | later
          · exact le_refl _
          · exact (schedule_bounds later).1
      | finished =>
          simp only [phase] at member
          exact (schedule_bounds member).1
  | _ => cases member

/-- The lease of a held job has not expired. -/
theorem Leased.notRobbed (leased : Leased s) : NotRobbed s a := by
  rintro i choice tick taken found sweeps k id holds row member rfl ⟨_, lease, set, expired⟩
  obtain ⟨holder, holderAt, _⟩ := exists_of_mem_held holds
  have listed : row.id ∈ (holder.pc.deadlines s.now).map (·.1) := by
    rw [TickPc.deadlines_fst, ← held_eq holderAt]
    exact holds
  obtain ⟨entry, due, same⟩ := List.mem_map.mp listed
  have covered := leased.covered k entry (by rw [deadlines_eq holderAt]; exact due) row member
    same.symm lease set
  have ahead := TickPc.now_le_deadline
    (leased.inTime holder (List.mem_of_getElem? holderAt)) due
  exact absurd expired (not_lt.mpr (le_trans ahead covered))

end Step

/-! ## Executions of a claimed job -/

/-- The event is a claim of the job. -/
def Event.claims (id : UUID) : Event → Bool
  | .claimed jobIds => id ∈ jobIds
  | _ => false

/-- No claim of a job has led to more than one execution. -/
def ExecutedOnce (s : Deployment) : Prop :=
  ∀ id, executionsSince (Event.claims id) id s.history ≤ 1

/-- The held jobs on which the handler has not started. -/
def TickPc.pending : TickPc → List Job
  | .execute _ job pc jobs _ =>
      match pc.phase with
      | .waiting | .preparing => job :: jobs
      | _ => jobs
  | _ => []

section Executions

variable {env : Env} {message : Json → String} {s s' : Deployment} {a : Action}
  {tickEnv : TickEnv} {choice : Choice} {now : Timestamptz} {site site' : Site} {pc pc' : TickPc}
  {event : Option Event}

theorem TickPc.pending_sublist (pc : TickPc) : pc.pending.Sublist pc.held := by
  cases pc with
  | execute workerId job pc jobs queues =>
      simp only [TickPc.pending, TickPc.held]
      cases pc.phase <;> simp
  | _ => exact List.Sublist.refl _

theorem TickPc.pending_resume (workerId : UUID) (jobs : List Job) (queues : List UUID) :
    (TickPc.resume workerId jobs queues).pending = jobs := by
  cases jobs with
  | nil => cases queues <;> rfl
  | cons job jobs => rfl

theorem TickPc.pending_of_idle (idle : pc.idle = true) : pc.pending = [] := by
  have nothing := pc.pending_sublist
  rwa [TickPc.held_of_idle idle, List.sublist_nil] at nothing

/-- What a step of a tick does to its pending jobs, with the event. -/
theorem Effect.pending (effect : Effect tickEnv choice now site pc site' pc' event) :
    (event = none ∧ pc'.pending = pc.pending) ∨
      (∃ job, event = some (.executed job.id) ∧ pc.held = job :: pc'.pending ∧
        pc.pending = job :: pc'.pending) ∨
      ∃ jobs, event = some (.claimed (jobs.map (·.id))) ∧ pc.pending = [] ∧ pc'.pending = jobs := by
  cases effect with
  | reap => exact .inl ⟨rfl, rfl⟩
  | pass idle idle' _ _ _ =>
      rw [TickPc.pending_of_idle idle, TickPc.pending_of_idle idle']
      exact .inl ⟨rfl, rfl⟩
  | budget _ _ => exact .inl ⟨rfl, rfl⟩
  | @claim _ _ _ _ _ jobs _ =>
      exact .inr (.inr ⟨jobs, rfl, rfl, TickPc.pending_resume _ _ _⟩)
  | setRunning _ => exact .inl ⟨rfl, rfl⟩
  | prepare here there _ _ =>
      refine .inl ⟨rfl, ?_⟩
      simp only [TickPc.pending, here, there]
  | @start _ job _ _ _ _ => exact .inr (.inl ⟨job, rfl, rfl, rfl⟩)
  | handle =>
      refine .inl ⟨rfl, ?_⟩
      simp only [TickPc.pending, afterHandler_phase]
      rfl
  | settle settles there =>
      refine .inl ⟨rfl, ?_⟩
      simp only [TickPc.pending, settles.phase, there]
  | record here there _ _ =>
      refine .inl ⟨rfl, ?_⟩
      simp only [TickPc.pending, here, there]
  | next here _ _ =>
      refine .inl ⟨rfl, ?_⟩
      rw [TickPc.pending_resume]
      simp only [TickPc.pending, here]

/-- Pending jobs have not been executed since their claim, the others at most once. -/
structure Counted (s : Deployment) : Prop where
  once : ExecutedOnce s
  pending : ∀ (i : Nat) tick, s.ticks[i]? = some tick → ∀ job ∈ tick.pc.pending,
    executionsSince (Event.claims job.id) job.id s.history = 0

theorem mem_held_of_pending {i : Nat} {tick : Tick} {job : Job} (found : s.ticks[i]? = some tick)
    (member : job ∈ tick.pc.pending) : job.id ∈ s.held i := by
  rw [held_eq found]
  exact List.mem_map_of_mem (tick.pc.pending_sublist.subset member)

theorem Counted.of_rests (counted : Counted s) (rests : Rests s s') : Counted s' := by
  have same : ∀ id, executionsSince (Event.claims id) id s'.history =
      executionsSince (Event.claims id) id s.history := by
    intro id
    rcases rests.history with history | ⟨reset, history⟩
    · rw [history]
    · rw [history, executionsSince_of_ne rfl (by simp)]
  refine ⟨fun id => ?_, fun i tick found job member => ?_⟩
  · rw [same]
    exact counted.once id
  · rw [same]
    rcases rests.ticks i tick found with old | reap | ended
    · exact counted.pending i tick old job member
    · rw [reap] at member
      cases member
    · have nothing := tick.pc.pending_sublist
      rw [TickPc.held_of_ended ended, List.sublist_nil] at nothing
      rw [nothing] at member
      cases member

section Steps

variable {i : Nat} {tick tick' : Tick}

/-- The tick claims nothing and starts no handler. -/
theorem Counted.of_silent (counted : Counted s)
    (steps : Steps env message s s' a i choice tick tick' none)
    (same : tick'.pc.pending = tick.pc.pending) : Counted s' := by
  have history : s'.history = s.history := steps.history
  refine ⟨fun id => by rw [history]; exact counted.once id, fun k there found job member => ?_⟩
  rw [history]
  by_cases here : k = i
  · subst here
    rw [steps.there] at found
    cases found
    rw [same] at member
    exact counted.pending k tick steps.found job member
  · rw [steps.others here] at found
    exact counted.pending k there found job member

/-- The execution is the first since the claim, and nobody else has the job. -/
theorem Counted.of_executed (counted : Counted s) (custody : Custody s) {job : Job}
    (steps : Steps env message s s' a i choice tick tick' (some (.executed job.id)))
    (holds : tick.pc.held = job :: tick'.pc.pending)
    (pending : tick.pc.pending = job :: tick'.pc.pending) : Counted s' := by
  have history : s'.history = .executed job.id :: s.history := steps.history
  have others {id : UUID} (ne : id ≠ job.id) : executionsSince (Event.claims id) id s'.history =
      executionsSince (Event.claims id) id s.history := by
    rw [history, executionsSince_of_ne rfl (by simpa using Ne.symm ne)]
  have once := custody.exclusive.once i
  rw [held_eq steps.found, holds] at once
  refine ⟨fun id => ?_, fun k there found job' member => ?_⟩
  · by_cases same : id = job.id
    · subst same
      rw [history, executionsSince_executed rfl,
        counted.pending i tick steps.found job (by rw [pending]; exact List.mem_cons_self)]
    · rw [others same]
      exact counted.once id
  · by_cases same : k = i
    · subst same
      rw [steps.there] at found
      cases found
      rw [others (id_ne_of_nodup once member)]
      refine counted.pending k tick steps.found job' ?_
      rw [pending]
      exact List.mem_cons_of_mem _ member
    · rw [steps.others same] at found
      have distinct : job'.id ≠ job.id := by
        intro sameId
        have holder : job.id ∈ s.held i := by
          rw [held_eq steps.found, holds]
          exact List.mem_cons_self
        have holds' := mem_held_of_pending found member
        rw [sameId] at holds'
        exact same (custody.exclusive.apart k i job.id holds' holder)
      rw [others distinct]
      exact counted.pending k there found job' member

/-- A claim begins the count of its jobs. -/
theorem Counted.of_claimed (counted : Counted s) {jobs : List Job}
    (steps : Steps env message s s' a i choice tick tick' (some (.claimed (jobs.map (·.id)))))
    (pending : tick'.pc.pending = jobs) : Counted s' := by
  have history : s'.history = .claimed (jobs.map (·.id)) :: s.history := steps.history
  have count (id : UUID) : executionsSince (Event.claims id) id s'.history = 0 ∨
      executionsSince (Event.claims id) id s'.history =
        executionsSince (Event.claims id) id s.history := by
    rw [history]
    by_cases claimed : id ∈ jobs.map (·.id)
    · exact .inl (executionsSince_of_kind (decide_eq_true claimed))
    · exact .inr (executionsSince_of_ne (decide_eq_false claimed) (by simp))
  refine ⟨fun id => ?_, fun k there found job member => ?_⟩
  · rcases count id with none | same
    · omega
    · rw [same]
      exact counted.once id
  · by_cases same : k = i
    · subst same
      rw [steps.there] at found
      cases found
      rw [history]
      refine executionsSince_of_kind (decide_eq_true ?_)
      rw [pending] at member
      exact List.mem_map_of_mem member
    · rw [steps.others same] at found
      rcases count job.id with none | unchanged
      · exact none
      · rw [unchanged]
        exact counted.pending k there found job member

end Steps

theorem Counted.step (counted : Counted s) (custody : Custody s)
    (moves : Moves env message s s' a) : Counted s' := by
  rcases moves.rests_or_steps with rests | ⟨i, choice, tick, tick', event, steps⟩
  · exact counted.of_rests rests
  · rcases steps.effect.pending with ⟨rfl, same⟩ | ⟨job, rfl, holds, pending⟩ |
      ⟨jobs, rfl, _, pending⟩
    · exact counted.of_silent steps same
    · exact counted.of_executed custody steps holds pending
    · exact counted.of_claimed steps pending

end Executions

/-! ## Runs -/

/-- **Ticks are not robbed.** In every run whose claims take at most six jobs, no sweep returns a
job that a tick holds; and as long as retries leave held jobs alone, no claim leads to two
executions. -/
theorem ticks_not_robbed {env : Env} {message : Json → String} {start last : Deployment}
    {trace : List (Deployment × Action)} (initial : start.Initial)
    (path : Path (deployments env message) start trace last) (prompt : Meets Prompt trace)
    (small : Meets SmallBatch trace) :
    Meets NotRobbed trace ∧ (Meets RetriesFree trace → Throughout ExecutedOnce trace last) := by
  have nothing (i : Nat) : start.ticks[i]? = none := by
    rw [initial.ticks]
    rfl
  have base : Leased start := by
    refine ⟨initial.jobKeys, ?_, ?_, ?_⟩
    · intro i entry member
      rw [Deployment.deadlines, nothing] at member
      cases member
    · intro i entry member
      rw [Deployment.deadlines, nothing] at member
      cases member
    · intro tick member
      rw [initial.ticks] at member
      cases member
  have leased := path.throughout (prompt.and small) base fun s a s' taken both inv =>
    inv.step (Deployment.moves taken) both.1 both.2
  have notRobbed : Meets NotRobbed trace := fun entry listed => (leased.1 entry listed).notRobbed
  refine ⟨notRobbed, fun retriesFree => ?_⟩
  have counted : Counted start := by
    refine ⟨fun id => ?_, fun i tick found => ?_⟩
    · rw [initial.history]
      exact Nat.zero_le 1
    · rw [nothing] at found
      cases found
  have all : Throughout (fun s => Custody s ∧ Counted s) trace last :=
    path.throughout (notRobbed.and retriesFree) ⟨initial.custody, counted⟩
      fun s a s' taken both inv => ⟨inv.1.step (Deployment.moves taken) both.1 both.2,
        inv.2.step inv.1 (Deployment.moves taken)⟩
  exact ⟨fun entry listed => (all.1 entry listed).2.once, all.2.2.once⟩

/-! ## Two ticks -/

instance (s : Deployment) (a : Action) : Decidable (Prompt s a) :=
  match a with
  | .wait later => inferInstanceAs (Decidable (∀ tick ∈ s.ticks, tick.pc.running = true →
      ∃ since ∈ tick.pc.handlingSince, later ≤ since + intervalSeconds 5))
  | .scheduleWorkerTick _ | .runWorkerTickNow _ | .cron _ | .tick _ _ | .lose _ | .kill _
  | .insert _ | .retry _ _ _ | .deleteLetters _ | .requeue _ => isTrue trivial

theorem smallBatch_of_length {s : Deployment} (few : s.site.jobs.length ≤ 6) (a : Action) :
    SmallBatch s a := by
  intro i choice tick workerId queueId left rest _ _ _
  exact (Nat.min_le_right _ _).trans (List.countP_le_length.trans few)

/-- Jobs whose handlers succeed. -/
def batchSite (ids : List UUID) : Site :=
  oneQueue (some 9) (ids.map fun id => dueJob id 3 (.object []))

/-- One execution, with a handler that takes five seconds. -/
def execution (later : Timestamptz) : List Action :=
  statements 0 4 ++ [.wait later] ++ statements 0 4

/-- Another tick sweeps while the second job of a batch is executed. -/
def sweepDuringBatch : List Action :=
  .cron 0 :: statements 0 7 ++ execution 5000000 ++ statements 0 4 ++ [.wait 10000000, .cron 0] ++
    statements 1 6 ++ statements 0 4

theorem ticks_not_robbed_twoJobs :
    ∃ trace last, Path (deployments stubEnv fun _ => "") (atRest (batchSite [2, 3])) trace last ∧
      last.ticks.length = 2 ∧ (∀ job ∈ last.site.jobs, job.status = .completed) ∧
      Meets NotRobbed trace ∧ Throughout ExecutedOnce trace last := by
  obtain ⟨trace, last, path, both, done, calm⟩ :=
    exists_path_of_execute (deployments stubEnv fun _ => "") sweepDuringBatch
      (atRest (batchSite [2, 3]))
      (fun trace last => last.ticks.length = 2 ∧ (∀ job ∈ last.site.jobs, job.status = .completed) ∧
        ∀ entry ∈ trace, Prompt entry.1 entry.2 ∧ entry.1.site.jobs.length ≤ 6 ∧
          entry.1.retries.isEmpty = true) (by decide)
  have initial : (atRest (batchSite [2, 3])).Initial := ⟨by decide, by decide, rfl, rfl, rfl, rfl⟩
  have safe := ticks_not_robbed initial path (fun entry listed => (calm entry listed).1)
    fun entry listed => smallBatch_of_length (calm entry listed).2.1 entry.2
  exact ⟨trace, last, path, both, done, safe.1,
    safe.2 fun entry listed => retriesFree_of_none (calm entry listed).2.2 entry.2⟩

/-- Seven jobs of five seconds each; a tick sweeps while the last one is executed. -/
def sweepDuringSeventh : List Action :=
  .cron 0 :: statements 0 7 ++ execution 5000000 ++ execution 10000000 ++ execution 15000000 ++
    execution 20000000 ++ execution 25000000 ++ execution 30000000 ++ statements 0 4 ++
    [.wait 30000001, .cron 0]

/-- A tick is about to sweep a job that another one holds. -/
def aboutToRob (s : Deployment) : Bool :=
  match s.ticks with
  | [_, ⟨_, .reap, _⟩] => decide (∃ row ∈ s.site.jobs, row.id ∈ s.held 0 ∧ row.Orphaned s.now)
  | _ => false

/-- The seventh job of a batch is given away while its handler runs. -/
theorem seventh_job_robbed :
    ¬ ∀ (start last : Deployment) (trace : List (Deployment × Action)), start.Initial →
      Path (deployments stubEnv fun _ => "") start trace last → Meets Prompt trace →
      Meets NotRobbed trace := by
  intro always
  obtain ⟨trace, last, path, prompt, robs⟩ :=
    exists_path_of_execute (deployments stubEnv fun _ => "") sweepDuringSeventh
      (atRest (batchSite [2, 3, 4, 5, 6, 7, 8]))
      (fun trace last => (∀ entry ∈ trace, Prompt entry.1 entry.2) ∧ aboutToRob last = true)
      (by decide)
  have initial : (atRest (batchSite [2, 3, 4, 5, 6, 7, 8])).Initial :=
    ⟨by decide, by decide, rfl, rfl, rfl, rfl⟩
  unfold aboutToRob at robs
  split at robs
  next first p n only =>
    obtain ⟨row, member, holds, orphaned⟩ := of_decide_eq_true robs
    have found : last.ticks[1]? = some ⟨p, .reap, n⟩ := by
      rw [only]
      rfl
    let choice : Choice := ⟨id, id, id, 9⟩
    cases taken : last.step stubEnv (fun _ => "") (.tick 1 choice) with
    | none =>
        simp only [Deployment.step, found] at taken
        cases taken
    | some next =>
        have longer : Path (deployments stubEnv fun _ => "") _ ((last, .tick 1 choice) :: trace)
            next :=
          .next _ path taken
        have spared := always _ next _ initial longer (meets_cons.mpr ⟨trivial, prompt⟩) _
          List.mem_cons_self
        exact spared 1 choice _ rfl found rfl 0 row.id holds row member rfl orphaned
  · cases robs

end Dashboard

end JobScheduler
