import JobScheduler.Dashboard.Attempts
import JobScheduler.Dashboard.Leases
import JobScheduler.Dashboard.Payloads
import JobScheduler.Transition.Driven
import Mathlib.Data.Prod.Lex

/-!
# A tick on its own

A call of `runWorkerTick` while nothing else touches the tables and the server accepts every
statement. The time and the choices of the server come with each step. The loops over queues and
jobs have no error boundary, and `JSON.parse` of a payload that is a string stands outside the
`try` block of `executeJob`: where it throws, the job and those claimed with it stay claimed, and
the tick never comes to the queues behind. Every other payload is dealt with inside the block. So
the tick finishes what it claims exactly when no due job within a budget has a string as its payload
that `JSON.parse` rejects (`tick_finishes_iff`).
-/

set_option autoImplicit false

namespace JobScheduler

open Relational Transition

namespace Dashboard

/-! ## The run of a tick -/

/-- The time of a step, and what the server decides in it. -/
structure Moment where
  now : Timestamptz
  choice : Choice

/-- The tables and the tick, with the events so far, latest first. -/
structure Solo where
  site : Site
  pc : TickPc
  history : List Event

/-- A call of `runWorkerTick`. -/
def Solo.call (site : Site) : Solo := ⟨site, .reap, []⟩

/-- The next step of the tick; a tick that is over takes none. -/
def Solo.step (env : TickEnv) (moment : Moment) (s : Solo) : Solo :=
  match s.pc.step env moment.choice moment.now s.site with
  | none => s
  | some (.error text) => { s with pc := .threw text }
  | some (.ok (site', pc, _, event)) => ⟨site', pc, event.toList ++ s.history⟩

/-- The statement of a tick in a deployment is a step of the tick on its own. -/
theorem Solo.step_of_tick {env : Env} {message : Json → String} {s s' : Deployment} {i : Nat}
    {choice : Choice} {tick : Tick} (found : s.ticks[i]? = some tick)
    (taken : s.step env message (.tick i choice) = some s') :
    ∃ tick', s'.ticks[i]? = some tick' ∧
      Solo.step (Deployment.tickEnv env message) ⟨s.now, choice⟩ ⟨s.site, tick.pc, s.history⟩ =
        ⟨s'.site, tick'.pc, s'.history⟩ := by
  have bound := (List.getElem?_eq_some_iff.mp found).1
  simp only [Deployment.step, found] at taken
  unfold Solo.step
  split at taken
  · cases taken
  next text throws =>
    cases taken
    refine ⟨{ tick with pc := .threw text }, List.getElem?_set_self bound, ?_⟩
    simp only [throws]
    rfl
  next site' pc done event steps =>
    cases taken
    refine ⟨_, List.getElem?_set_self bound, ?_⟩
    simp only [steps]

/-- The call after so many steps. -/
def tickAfter (env : TickEnv) (moments : Nat → Moment) (site : Site) : Nat → Solo :=
  driven (Solo.step env) moments (.call site)

/-- The server accepts the statement of an execution. Statements that it has no reason to reject
are left out. -/
def ExecPc.accepted (moment : Moment) (workerId : UUID) (job : Job) (site : Site) : ExecPc → Bool
  | .insertExecution _ => (Dashboard.insertExecution moment.now site moment.choice.fresh job.id
      workerId (attemptOf job)).isOk
  | .logStarted _ _ =>
      (insertLog moment.now site moment.choice.fresh job.id "info" "Job started").isOk
  | .logCompleted =>
      (insertLog moment.now site moment.choice.fresh job.id "info" "Job completed").isOk
  | .insertLetter errMsg payload _ _ => (Dashboard.insertLetter moment.now site
      moment.choice.fresh job payload errMsg (attemptOf job)).isOk
  | .logFailed errMsg => (insertLog moment.now site moment.choice.fresh job.id "error" errMsg).isOk
  | _ => true

/-- The server accepts the statement of the tick. -/
def Solo.accepted (moment : Moment) (s : Solo) : Bool :=
  match s.pc with
  | .insertBeat workerId => (Dashboard.insertBeat moment.now s.site workerId).isOk
  | .budget _ queueId _ => (readBudget s.site queueId).isOk
  | .claim workerId queueId left _ =>
      (claimDue moment.now s.site moment.choice workerId queueId left).isOk
  | .execute workerId job pc _ _ => pc.accepted moment workerId job s.site
  | _ => true

/-- The due jobs that the tick is about to claim have payloads that do not throw. -/
def Solo.Parseable (env : TickEnv) (moment : Moment) (s : Solo) : Prop :=
  match s.pc with
  | .claim _ queueId left _ => ∀ job ∈ s.site.jobs,
      job.id ∈ dueTargets moment.now s.site moment.choice.tie queueId left →
        (parsePayload env.parseJson job.payload).isOk = true
  | _ => True

/-- After so many steps the call has returned, no job that it claimed is claimed or running, and
for every queue that is not paused it has read the budget and executed the due jobs within it. -/
structure Finishes (env : TickEnv) (moments : Nat → Moment) (site : Site) (n : Nat) : Prop where
  returned : (tickAfter env moments site n).pc = .returned
  settled : ∀ jobIds, .claimed jobIds ∈ (tickAfter env moments site n).history → ∀ id ∈ jobIds,
    ¬ ActiveJob (tickAfter env moments site n).site id
  served : ∀ queue ∈ site.queues, queue.paused = false → ∃ m < n, ∃ workerId queues left,
    (tickAfter env moments site m).pc = .budget workerId queue.id queues ∧
    readBudget (tickAfter env moments site m).site queue.id = .ok left ∧
    (0 < left →
      (tickAfter env moments site (m + 1)).pc = .claim workerId queue.id left queues ∧
      ∀ id ∈ dueTargets (moments (m + 1)).now (tickAfter env moments site (m + 1)).site
          (moments (m + 1)).choice.tie queue.id left,
        .executed id ∈ (tickAfter env moments site n).history)

/-! ## Steps that throw -/

section Throws

variable {env : TickEnv} {moment : Moment} {s : Solo}

theorem proceed_error {α β : Type} {result : Except StoreError α} {next : α → β} {text : String}
    (throws : proceed env result next = .error text) : result.isOk = false := by
  cases result with
  | error e => rfl
  | ok value => cases throws

/-- Apart from rejected statements, only `JSON.parse` throws. -/
theorem ExecPc.step_error {workerId : UUID} {job : Job} {site : Site} {pc : ExecPc} {text : String}
    (throws : pc.step env moment.choice moment.now workerId job site = .error text)
    (accepted : pc.accepted moment workerId job site = true) :
    pc = .setRunning ∧ parsePayload env.parseJson job.payload = .error text := by
  cases pc with
  | setRunning =>
      simp only [ExecPc.step] at throws
      split at throws
      next message fails =>
        cases throws
        exact ⟨rfl, fails⟩
      · cases throws
  | insertExecution _ | logStarted _ _ | logCompleted | insertLetter _ _ _ _ | logFailed _ =>
      have rejected := proceed_error throws
      simp only [ExecPc.accepted, rejected] at accepted
      cases accepted
  | _ => cases throws

theorem TickPc.step_error {text : String}
    (throws : s.pc.step env moment.choice moment.now s.site = some (.error text))
    (accepted : s.accepted moment = true) :
    ∃ workerId job jobs queues, s.pc = .execute workerId job .setRunning jobs queues ∧
      parsePayload env.parseJson job.payload = .error text := by
  unfold Solo.accepted at accepted
  cases here : s.pc with
  | insertBeat _ | budget _ _ _ | claim _ _ _ _ =>
      rw [here] at throws accepted
      have rejected := proceed_error (Option.some.inj throws)
      simp only [rejected] at accepted
      cases accepted
  | execute workerId job pc jobs queues =>
      rw [here] at throws accepted
      simp only [TickPc.step, Option.some.injEq] at throws
      cases executes : pc.step env moment.choice moment.now workerId job s.site with
      | ok value =>
          rw [executes] at throws
          cases throws
      | error text' =>
          rw [executes] at throws
          cases throws
          obtain ⟨rfl, fails⟩ := ExecPc.step_error executes accepted
          exact ⟨workerId, job, jobs, queues, rfl, fails⟩
  | _ =>
      rw [here] at throws
      cases throws

end Throws

/-! ## A tick ends -/

/-- How many statements of an execution are left at most. -/
def ExecPc.left : ExecPc → Nat
  | .setRunning => 9
  | .insertExecution _ => 8
  | .logStarted _ _ => 7
  | .start _ _ => 6
  | .handling _ _ _ => 5
  | .complete _ _ | .deadLetter _ _ _ _ | .requeue _ _ _ => 4
  | .recordCompleted _ _ | .insertLetter _ _ _ _ => 3
  | .recordFailed _ _ _ => 2
  | .logCompleted | .logFailed _ => 1

/-- How far a tick is from its end: the statements before the loops, the queues, the jobs and the
statements of an execution that are left. -/
def TickPc.rank : TickPc → Nat ×ₗ Nat ×ₗ Nat ×ₗ Nat
  | .reap => toLex (6, toLex (0, toLex (0, 0)))
  | .findWorker => toLex (5, toLex (0, toLex (0, 0)))
  | .beat _ | .insertWorker => toLex (4, toLex (0, toLex (0, 0)))
  | .activate _ | .insertBeat _ => toLex (3, toLex (0, toLex (0, 0)))
  | .listQueues _ => toLex (2, toLex (0, toLex (0, 0)))
  | .budget _ _ queues => toLex (1, toLex (queues.length + 1, toLex (1, 0)))
  | .claim _ _ _ queues => toLex (1, toLex (queues.length + 1, toLex (0, 0)))
  | .execute _ _ pc jobs queues =>
      toLex (1, toLex (queues.length, toLex (jobs.length + 2, pc.left)))
  | .returned | .threw _ | .killed => toLex (0, toLex (0, toLex (0, 0)))

/-- The tick has listed the queues. -/
def TickPc.listed : TickPc → Bool
  | .budget _ _ _ | .claim _ _ _ _ | .execute _ _ _ _ _ | .returned | .threw _ | .killed => true
  | _ => false

/-- Where a step takes the tick: through the statements before the loops, to the first queue, and
from there through the loops. -/
inductive TickPc.Follows (active : List UUID) : TickPc → TickPc → Prop
  | prepare {pc pc' : TickPc} (here : pc.listed = false) (there : pc'.listed = false)
      (fewer : pc'.rank < pc.rank) : Follows active pc pc'
  | listQueues {workerId : UUID} :
      Follows active (.listQueues workerId) (.resume workerId [] active)
  | skip {workerId queueId : UUID} {queues : List UUID} :
      Follows active (.budget workerId queueId queues) (.resume workerId [] queues)
  | budget {workerId queueId : UUID} {queues : List UUID} {left : Int} :
      Follows active (.budget workerId queueId queues) (.claim workerId queueId left queues)
  | claim {workerId queueId : UUID} {left : Int} {queues : List UUID} {jobs : List Job} :
      Follows active (.claim workerId queueId left queues) (.resume workerId jobs queues)
  | execute {workerId : UUID} {job : Job} {pc pc' : ExecPc} {jobs : List Job} {queues : List UUID}
      (fewer : pc'.left < pc.left) :
      Follows active (.execute workerId job pc jobs queues) (.execute workerId job pc' jobs queues)
  | next {workerId : UUID} {job : Job} {pc : ExecPc} {jobs : List Job} {queues : List UUID} :
      Follows active (.execute workerId job pc jobs queues) (.resume workerId jobs queues)

section Ends

variable {env : TickEnv} {choice : Choice} {now : Timestamptz} {site site' : Site}

theorem rank_lt_of_before {before before' : Nat} {rest rest' : Nat ×ₗ Nat ×ₗ Nat}
    (fewer : before < before') :
    (toLex (before, rest) : Nat ×ₗ Nat ×ₗ Nat ×ₗ Nat) < toLex (before', rest') :=
  Prod.Lex.toLex_lt_toLex.mpr (.inl fewer)

theorem rank_lt_of_loops {queues queues' jobs jobs' left left' : Nat}
    (fewer : queues < queues' ∨ queues = queues' ∧ (jobs < jobs' ∨ jobs = jobs' ∧ left < left')) :
    (toLex (1, toLex (queues, toLex (jobs, left))) : Nat ×ₗ Nat ×ₗ Nat ×ₗ Nat) <
      toLex (1, toLex (queues', toLex (jobs', left'))) := by
  refine Prod.Lex.toLex_lt_toLex.mpr (.inr ⟨rfl, ?_⟩)
  simpa only [Prod.Lex.toLex_lt_toLex] using fewer

/-- The loops go on with fewer queues, or with the same queues and fewer jobs. -/
theorem rank_resume_lt {workerId : UUID} {jobs : List Job} {queues : List UUID}
    {queues' jobs' left' : Nat}
    (fewer : queues.length < queues' ∨ queues.length = queues' ∧ jobs.length + 1 < jobs') :
    (TickPc.resume workerId jobs queues).rank <
      toLex (1, toLex (queues', toLex (jobs', left'))) := by
  cases jobs with
  | cons job jobs =>
      apply rank_lt_of_loops
      rw [List.length_cons] at fewer
      omega
  | nil =>
      cases queues with
      | nil => exact rank_lt_of_before Nat.zero_lt_one
      | cons queueId queues =>
          apply rank_lt_of_loops
          rw [List.length_cons, List.length_nil] at fewer
          omega

/-- A step of an execution lowers the number of statements that are left. -/
theorem ExecPc.left_lt {workerId : UUID} {job : Job} {pc pc' : ExecPc} {event : Option Event}
    (steps : pc.step env choice now workerId job site = .ok (site', some pc', event)) :
    pc'.left < pc.left := by
  cases pc with
  | setRunning =>
      simp only [ExecPc.step] at steps
      split at steps
      · cases steps
      · cases steps
        exact Nat.le_of_ble_eq_true rfl
  | insertExecution _ | logStarted _ _ | insertLetter _ _ _ _ =>
      obtain ⟨_, _, same⟩ := proceed_ok steps
      cases same
      exact Nat.le_of_ble_eq_true rfl
  | logCompleted | logFailed _ =>
      obtain ⟨_, _, same⟩ := proceed_ok steps
      cases same
  | handling payload executionId since =>
      cases steps
      unfold afterHandler
      split
      · exact Nat.le_of_ble_eq_true rfl
      · split <;> exact Nat.le_of_ble_eq_true rfl
  | _ =>
      cases steps
      exact Nat.le_of_ble_eq_true rfl

/-- A step goes where the code of the tick says. -/
theorem TickPc.step_follows {pc pc' : TickPc} {done : Bool} {event : Option Event}
    (steps : pc.step env choice now site = some (.ok (site', pc', done, event))) :
    Follows (activeQueues site choice.rank) pc pc' := by
  cases pc with
  | findWorker =>
      simp only [TickPc.step] at steps
      cases found : Dashboard.findWorker site choice.rank with
      | none | some _ =>
          rw [found] at steps
          cases steps
          exact .prepare rfl rfl (rank_lt_of_before (by decide))
  | insertBeat workerId =>
      obtain ⟨_, _, same⟩ := proceed_ok (Option.some.inj steps)
      cases same
      exact .prepare rfl rfl (rank_lt_of_before (by decide))
  | listQueues workerId =>
      cases steps
      exact .listQueues
  | budget workerId queueId queues =>
      obtain ⟨left, _, same⟩ := proceed_ok (Option.some.inj steps)
      split at same
      · cases same
        exact .skip
      · cases same
        exact .budget
  | claim workerId queueId left queues =>
      obtain ⟨_, _, same⟩ := proceed_ok (Option.some.inj steps)
      cases same
      exact .claim
  | execute workerId job pc jobs queues =>
      obtain ⟨⟨site', next, event'⟩, executes, same⟩ := succeeded_of_map (Option.some.inj steps)
      cases next with
      | none =>
          cases same
          exact .next
      | some pc' =>
          cases same
          exact .execute (ExecPc.left_lt executes)
  | returned | threw _ | killed => cases steps
  | reap | beat _ | activate _ | insertWorker =>
      cases steps
      exact .prepare rfl rfl (rank_lt_of_before (by decide))

/-- A step of a tick lowers its rank. -/
theorem TickPc.Follows.rank_lt {active : List UUID} {pc pc' : TickPc}
    (follows : Follows active pc pc') : pc'.rank < pc.rank := by
  cases follows with
  | prepare _ _ fewer => exact fewer
  | listQueues => cases active <;> exact rank_lt_of_before (by decide)
  | skip => exact rank_resume_lt (.inl (Nat.lt_succ_self _))
  | budget => exact rank_lt_of_loops (.inr ⟨rfl, .inl Nat.zero_lt_one⟩)
  | claim => exact rank_resume_lt (.inl (Nat.lt_succ_self _))
  | execute fewer => exact rank_lt_of_loops (.inr ⟨rfl, .inr ⟨rfl, fewer⟩⟩)
  | next => exact rank_resume_lt (.inr ⟨rfl, Nat.lt_succ_self _⟩)

end Ends

/-! ## The steps of a run -/

section Steps

variable {env : TickEnv} {moment : Moment} {s : Solo}

/-- A tick that is over takes no step. -/
theorem Solo.step_of_ended (ended : ¬ s.pc.running = true) : s.step env moment = s := by
  cases here : s.pc with
  | returned | threw _ | killed => simp only [Solo.step, here, TickPc.step]
  | _ =>
      rw [here] at ended
      exact absurd rfl ended

/-- A tick goes on, or it throws. -/
theorem Solo.step_cases (runs : s.pc.running = true) :
    (∃ site' pc done event, s.pc.step env moment.choice moment.now s.site =
        some (.ok (site', pc, done, event)) ∧
      s.step env moment = ⟨site', pc, event.toList ++ s.history⟩) ∨
    ∃ text, s.pc.step env moment.choice moment.now s.site = some (.error text) ∧
      s.step env moment = { s with pc := .threw text } := by
  unfold Solo.step
  cases steps : s.pc.step env moment.choice moment.now s.site with
  | none =>
      cases here : s.pc with
      | returned | threw _ | killed =>
          rw [here] at runs
          cases runs
      | _ =>
          rw [here] at steps
          cases steps
  | some result =>
      cases result with
      | error text => exact .inr ⟨text, rfl, rfl⟩
      | ok next =>
          obtain ⟨site', pc, done, event⟩ := next
          exact .inl ⟨site', pc, done, event, rfl, rfl⟩

theorem Solo.rank_lt (moment : Moment) (s : Solo) (runs : s.pc.running = true) :
    (s.step env moment).pc.rank < s.pc.rank := by
  rcases Solo.step_cases runs with ⟨site', pc, done, event, steps, next⟩ | ⟨text, steps, next⟩
  · rw [next]
    exact (TickPc.step_follows steps).rank_lt
  · rw [next]
    cases here : s.pc with
    | returned | threw _ | killed =>
        rw [here] at runs
        cases runs
    | _ => exact rank_lt_of_before (by decide)

/-- Every tick ends. -/
theorem exists_tick_ended (env : TickEnv) (moments : Nat → Moment) (site : Site) :
    ∃ n, ¬ (tickAfter env moments site n).pc.running = true :=
  exists_ended (fun s : Solo => s.pc.rank) (fun moment s runs => Solo.rank_lt moment s runs)
    moments (.call site)

end Steps

/-! ## What a step does to the claimed jobs -/

section Claimed

variable {env : TickEnv} {choice : Choice} {now : Timestamptz} {site site' : Site} {pc pc' : TickPc}
  {event : Option Event} {id : UUID}

/-- What a step does to the jobs that wait for the parser: nothing, or it parses the first, or it
claims them. -/
theorem Effect.waiting_cases (effect : Effect env choice now site pc site' pc' event) :
    pc'.waiting = pc.waiting ∨
      (∃ job, pc.waiting = job :: pc'.waiting ∧
        (parsePayload env.parseJson job.payload).isOk = true) ∨
      ∃ workerId queueId left rest jobs, pc = .claim workerId queueId left rest ∧
        claimDue now site choice workerId queueId left = .ok (site', jobs) ∧
        pc'.waiting = jobs := by
  cases effect with
  | reap => exact .inl rfl
  | pass idle idle' _ _ _ =>
      rw [TickPc.waiting_of_idle idle, TickPc.waiting_of_idle idle']
      exact .inl rfl
  | budget _ _ => exact .inl rfl
  | claim claims =>
      exact .inr (.inr ⟨_, _, _, _, _, rfl, claims, TickPc.waiting_resume _ _ _⟩)
  | @setRunning _ job _ _ _ parses =>
      refine .inr (.inl ⟨job, rfl, ?_⟩)
      rw [parses]
      rfl
  | prepare here there _ _ =>
      rw [TickPc.waiting_of_ne here (by simp), TickPc.waiting_of_ne there (by simp)]
      exact .inl rfl
  | start => exact .inl rfl
  | handle =>
      rw [TickPc.waiting_of_ne (afterHandler_phase _ _ _ _ _) (by simp)]
      exact .inl rfl
  | settle settles there =>
      rw [TickPc.waiting_of_ne settles.phase (by simp), TickPc.waiting_of_ne there (by simp)]
      exact .inl rfl
  | record here there _ _ =>
      rw [TickPc.waiting_of_ne here (by simp), TickPc.waiting_of_ne there (by simp)]
      exact .inl rfl
  | next here _ _ =>
      rw [TickPc.waiting_of_ne here (by simp), TickPc.waiting_resume]
      exact .inl rfl

/-- The rows that a claim returns have the payloads they had. -/
theorem payload_of_claimed {workerId queueId : UUID} {left : Int} {jobs : List Job} {job : Job}
    (claims : claimDue now site choice workerId queueId left = .ok (site', jobs))
    (returned : job ∈ jobs) :
    ∃ row ∈ site.jobs, row.id ∈ dueTargets now site choice.tie queueId left ∧
      job.payload = row.payload := by
  obtain ⟨targets, rfl, _, perm⟩ := claimDue_spec claims
  obtain ⟨row, selected, rfl⟩ := List.mem_map.mp (perm.mem_iff.mp returned)
  rw [List.mem_filter, decide_eq_true_eq] at selected
  exact ⟨row, selected.1, selected.2, rfl⟩

/-- Every row that the claim selects is returned. -/
theorem claimed_of_target {workerId queueId : UUID} {left : Int} {jobs : List Job} {row : Job}
    (claims : claimDue now site choice workerId queueId left = .ok (site', jobs))
    (member : row ∈ site.jobs) (selected : row.id ∈ dueTargets now site choice.tie queueId left) :
    Job.claim now workerId leaseSeconds row ∈ jobs := by
  obtain ⟨targets, rfl, _, perm⟩ := claimDue_spec claims
  refine perm.mem_iff.mpr (List.mem_map_of_mem (List.mem_filter.mpr ⟨member, ?_⟩))
  exact decide_eq_true selected

/-- A job becomes active only in the hands of the tick. -/
theorem Effect.activates (effect : Effect env choice now site pc site' pc' event)
    (active : ActiveJob site' id) : ActiveJob site id ∨ id ∈ pc'.held.map (·.id) := by
  obtain ⟨row', member, rfl, holds⟩ := active
  cases effect.writes with
  | nothing jobs => exact .inl ⟨row', jobs ▸ member, rfl, holds⟩
  | reap =>
      rcases cases_mem_update member with ⟨old, _⟩ | ⟨row, _, _, rfl⟩
      · exact .inl ⟨row', old, rfl, holds⟩
      · rcases holds with claimed | running
        · cases claimed
        · cases running
  | @claim workerId _ _ _ _ jobs claims =>
      obtain ⟨targets, rfl, rows, _⟩ := claimDue_spec claims
      rw [rows] at member
      rcases cases_mem_update member with ⟨old, _⟩ | ⟨row, old, selected, rfl⟩
      · exact .inl ⟨row', old, rfl, holds⟩
      · rw [TickPc.held_resume]
        exact .inr (List.mem_map_of_mem (claimed_of_target claims old selected))
  | @setRunning _ job _ _ _ =>
      rcases cases_mem_update member with ⟨old, _⟩ | ⟨row, _, same, rfl⟩
      · exact .inl ⟨row', old, rfl, holds⟩
      · exact .inr (List.mem_cons.mpr (.inl same))
  | settle settles _ =>
      rcases cases_mem_update member with ⟨old, _⟩ | ⟨row, _, _, rfl⟩
      · exact .inl ⟨row', old, rfl, holds⟩
      · exact absurd holds (settles.inactive row)

/-- The handler starts on every pending job in turn. -/
theorem Effect.executes (effect : Effect env choice now site pc site' pc' event)
    (waits : id ∈ pc.pending.map (·.id)) :
    id ∈ pc'.pending.map (·.id) ∨ event = some (.executed id) := by
  rcases effect.pending with ⟨_, same⟩ | ⟨job, started, _, pending⟩ | ⟨_, _, none, _⟩
  · rw [same]
    exact .inl waits
  · rw [pending, List.map_cons, List.mem_cons] at waits
    rcases waits with rfl | waits
    · exact .inr started
    · exact .inl waits
  · rw [none] at waits
    cases waits

/-- The jobs of a claim are pending. -/
theorem Effect.claims {jobIds : List UUID}
    (effect : Effect env choice now site pc site' pc' (some (.claimed jobIds)))
    (listed : id ∈ jobIds) : id ∈ pc'.pending.map (·.id) := by
  rcases effect.pending with ⟨none, _⟩ | ⟨_, started, _⟩ | ⟨jobs, claimed, _, pending⟩
  · cases none
  · cases started
  · cases claimed
    rw [pending]
    exact listed

/-- A job that the tick lets go of is not active any more. -/
theorem Effect.releases (effect : Effect env choice now site pc site' pc' event)
    (held : id ∈ pc.held.map (·.id)) : id ∈ pc'.held.map (·.id) ∨ ¬ ActiveJob site' id := by
  rcases effect.held_cases with same | ⟨job, rewrite, settled, rfl, inactive⟩ |
    ⟨_, _, _, _, _, rfl, _⟩
  · rw [same]
    exact .inl held
  · rw [settled, List.map_cons, List.mem_cons] at held
    rcases held with rfl | behind
    · right
      rintro ⟨row', member, same, active⟩
      rcases cases_mem_update member with ⟨_, other⟩ | ⟨row, _, _, rfl⟩
      · exact other same
      · exact inactive row active
    · exact .inl behind
  · cases held

end Claimed

/-! ## Ticks that do not throw -/

/-- The tick has thrown, or it was killed. -/
def TickPc.failed : TickPc → Bool
  | .threw _ | .killed => true
  | _ => false

/-- The tick is not stopped by the jobs that wait for the parser, and every job that it claimed has
been executed and settled or is still to be. -/
structure OnTrack (env : TickEnv) (s : Solo) : Prop where
  unfailed : s.pc.failed = false
  parses : ∀ job ∈ s.pc.waiting, (parsePayload env.parseJson job.payload).isOk = true
  executed : ∀ jobIds, .claimed jobIds ∈ s.history → ∀ id ∈ jobIds,
    id ∈ s.pc.pending.map (·.id) ∨ .executed id ∈ s.history
  settled : ∀ jobIds, .claimed jobIds ∈ s.history → ∀ id ∈ jobIds,
    id ∈ s.pc.held.map (·.id) ∨ ¬ ActiveJob s.site id

section OnTrack

variable {env : TickEnv} {moment : Moment} {s : Solo}

theorem onTrack_call (site : Site) : OnTrack env (.call site) := by
  constructor <;> simp [Solo.call, TickPc.failed, TickPc.waiting]

theorem resume_unfailed (workerId : UUID) (jobs : List Job) (queues : List UUID) :
    (TickPc.resume workerId jobs queues).failed = false := by
  cases jobs <;> cases queues <;> rfl

/-- A step that does not throw does not leave the track. -/
theorem TickPc.Follows.unfailed {active : List UUID} {pc pc' : TickPc}
    (follows : Follows active pc pc') : pc'.failed = false := by
  cases follows with
  | prepare _ there _ =>
      cases pc' with
      | threw _ | killed => cases there
      | _ => rfl
  | budget | execute _ => rfl
  | listQueues | skip | claim | next => exact resume_unfailed _ _ _

/-- A tick on its track goes on when its statement is accepted. -/
theorem OnTrack.goes_on (track : OnTrack env s) (accepted : s.accepted moment = true)
    (runs : s.pc.running = true) :
    ∃ site' pc done event, s.pc.step env moment.choice moment.now s.site =
        some (.ok (site', pc, done, event)) ∧
      s.step env moment = ⟨site', pc, event.toList ++ s.history⟩ := by
  rcases Solo.step_cases runs with goes | ⟨text, throws, _⟩
  · exact goes
  · obtain ⟨workerId, job, jobs, queues, here, fails⟩ := TickPc.step_error throws accepted
    have parses := track.parses job (by rw [here]; exact List.mem_cons_self)
    rw [fails] at parses
    cases parses

theorem OnTrack.step (track : OnTrack env s) (accepted : s.accepted moment = true)
    (parseable : s.Parseable env moment) : OnTrack env (s.step env moment) := by
  by_cases runs : s.pc.running = true
  swap
  · rw [Solo.step_of_ended runs]
    exact track
  obtain ⟨site', pc', done, event, steps, next⟩ := track.goes_on accepted runs
  have effect := TickPc.step_effect steps
  rw [next]
  constructor
  case unfailed => exact (TickPc.step_follows steps).unfailed
  case parses =>
    intro job member
    rcases effect.waiting_cases with same | ⟨first, parsed, _⟩ |
      ⟨workerId, queueId, left, rest, jobs, here, claims, waiting⟩
    · exact track.parses job (same ▸ member)
    · exact track.parses job (parsed ▸ List.mem_cons_of_mem _ member)
    · have returned : job ∈ jobs := waiting ▸ member
      obtain ⟨row, old, selected, payload⟩ := payload_of_claimed claims returned
      rw [Solo.Parseable, here] at parseable
      rw [payload]
      exact parseable row old selected
  case executed =>
    intro jobIds claimed id listed
    rcases List.mem_append.mp claimed with new | old
    · rw [Option.mem_toList] at new
      subst new
      exact .inl (effect.claims listed)
    · rcases track.executed jobIds old id listed with waits | before
      · rcases effect.executes waits with still | started
        · exact .inl still
        · right
          rw [started]
          exact List.mem_cons_self
      · exact .inr (List.mem_append_right _ before)
  case settled =>
    intro jobIds claimed id listed
    rcases List.mem_append.mp claimed with new | old
    · rw [Option.mem_toList] at new
      subst new
      exact .inl ((pc'.pending_sublist.map _).subset (effect.claims listed))
    · rcases track.settled jobIds old id listed with held | inactive
      · exact effect.releases held
      · by_cases active : ActiveJob site' id
        · exact .inl ((effect.activates active).resolve_left inactive)
        · exact .inr active

end OnTrack

/-! ## The queues of a tick -/

/-- The queues that the tick has yet to come to. -/
def TickPc.ahead : TickPc → List UUID
  | .budget _ queueId queues => queueId :: queues
  | .claim _ _ _ queues | .execute _ _ _ _ queues => queues
  | _ => []

section Queues

variable {site : Site} {active : List UUID} {pc pc' : TickPc}

@[simp]
theorem TickPc.ahead_resume (workerId : UUID) (jobs : List Job) (queues : List UUID) :
    (TickPc.resume workerId jobs queues).ahead = queues := by
  cases jobs <;> cases queues <;> rfl

theorem mem_activeQueues {queue : Queue} (member : queue ∈ site.queues)
    (active : queue.paused = false) (rank : UUID → Nat) : queue.id ∈ activeQueues site rank := by
  refine List.mem_map_of_mem ((arrange_perm _ _).mem_iff.mpr (List.mem_filter.mpr ⟨member, ?_⟩))
  exact decide_eq_true active

theorem TickPc.ahead_of_unlisted {pc : TickPc} (unlisted : pc.listed = false) : pc.ahead = [] := by
  cases pc with
  | budget _ _ _ | claim _ _ _ _ | execute _ _ _ _ _ => cases unlisted
  | _ => rfl

/-- The tick comes to its queues one after the other. -/
theorem TickPc.Follows.ahead (follows : Follows active pc pc') {queueId : UUID}
    (member : queueId ∈ pc.ahead) :
    queueId ∈ pc'.ahead ∨ ∃ workerId queues, pc = .budget workerId queueId queues := by
  cases follows with
  | prepare here _ _ =>
      rw [TickPc.ahead_of_unlisted here] at member
      cases member
  | listQueues => cases member
  | @skip workerId _ queues =>
      rcases List.mem_cons.mp member with rfl | later
      · exact .inr ⟨workerId, queues, rfl⟩
      · left
        rwa [TickPc.ahead_resume]
  | @budget workerId _ queues _ =>
      rcases List.mem_cons.mp member with rfl | later
      · exact .inr ⟨workerId, queues, rfl⟩
      · exact .inl later
  | claim | next =>
      left
      rwa [TickPc.ahead_resume]
  | execute _ => exact .inl member

/-- The tick lists the queues that are not paused. -/
theorem TickPc.Follows.lists (follows : Follows active pc pc') (before : pc.listed = false)
    (after : pc'.listed = true) : pc'.ahead = active := by
  cases follows with
  | prepare _ there _ =>
      rw [there] at after
      cases after
  | listQueues => exact TickPc.ahead_resume _ _ _
  | skip | budget | claim | execute _ | next => cases before

end Queues

/-! ## Whole runs -/

section Runs

variable {env : TickEnv} {moments : Nat → Moment} {site : Site}

/-- The tick stays on its track. -/
theorem onTrack_tickAfter
    (accepted : ∀ n, (tickAfter env moments site n).accepted (moments n) = true)
    (parseable : ∀ n, (tickAfter env moments site n).Parseable env (moments n)) (n : Nat) :
    OnTrack env (tickAfter env moments site n) := by
  induction n with
  | zero => exact onTrack_call site
  | succ n ih => exact ih.step (accepted n) (parseable n)

/-- No step takes an event back. -/
theorem mem_history_step {s : Solo} {moment : Moment} {event : Event} (member : event ∈ s.history) :
    event ∈ (s.step env moment).history := by
  unfold Solo.step
  split
  · exact member
  · exact member
  · exact List.mem_append_right _ member

theorem mem_history_tickAfter {event : Event} {m n : Nat} (later : m ≤ n)
    (member : event ∈ (tickAfter env moments site m).history) :
    event ∈ (tickAfter env moments site n).history := by
  induction later with
  | refl => exact member
  | step _ ih => exact mem_history_step ih

/-- The tick leaves the queues alone. -/
theorem queues_tickAfter (n : Nat) : (tickAfter env moments site n).site.queues = site.queues := by
  induction n with
  | zero => rfl
  | succ n ih =>
      have next : tickAfter env moments site (n + 1) =
        (tickAfter env moments site n).step env (moments n) := rfl
      rw [next]
      by_cases runs : (tickAfter env moments site n).pc.running = true
      · rcases Solo.step_cases runs with ⟨_, _, _, _, steps, goes⟩ | ⟨_, _, throws⟩
        · rw [goes]
          exact (TickPc.step_effect steps).queues.trans ih
        · rw [throws]
          exact ih
      · rw [Solo.step_of_ended runs]
        exact ih

/-- A tick that has listed the queues has read the budget of each, or is yet to come to it. -/
theorem ahead_or_read
    (accepted : ∀ n, (tickAfter env moments site n).accepted (moments n) = true)
    (parseable : ∀ n, (tickAfter env moments site n).Parseable env (moments n)) {queue : Queue}
    (member : queue ∈ site.queues) (active : queue.paused = false) (n : Nat)
    (listed : (tickAfter env moments site n).pc.listed = true) :
    queue.id ∈ (tickAfter env moments site n).pc.ahead ∨ ∃ m < n, ∃ workerId queues,
      (tickAfter env moments site m).pc = .budget workerId queue.id queues := by
  induction n with
  | zero => cases listed
  | succ n ih =>
      have next : tickAfter env moments site (n + 1) =
        (tickAfter env moments site n).step env (moments n) := rfl
      rw [next] at listed ⊢
      by_cases runs : (tickAfter env moments site n).pc.running = true
      · have track := onTrack_tickAfter accepted parseable n
        obtain ⟨site', pc', done, event, steps, goes⟩ := track.goes_on (accepted n) runs
        rw [goes] at listed ⊢
        by_cases before : (tickAfter env moments site n).pc.listed = true
        · rcases ih before with ahead | ⟨m, early, read⟩
          · rcases (TickPc.step_follows steps).ahead ahead with still | ⟨workerId, queues, here⟩
            · exact .inl still
            · exact .inr ⟨n, Nat.lt_succ_self n, workerId, queues, here⟩
          · exact .inr ⟨m, Nat.lt_succ_of_lt early, read⟩
        · rw [Bool.not_eq_true] at before
          left
          dsimp only
          rw [(TickPc.step_follows steps).lists before listed]
          exact mem_activeQueues ((queues_tickAfter n).symm ▸ member) active _
      · rw [Solo.step_of_ended runs] at listed ⊢
        rcases ih listed with ahead | ⟨m, early, read⟩
        · exact .inl ahead
        · exact .inr ⟨m, Nat.lt_succ_of_lt early, read⟩

/-- The step that reads a budget. -/
theorem Solo.step_budget (env : TickEnv) {s : Solo} {moment : Moment} {workerId queueId : UUID}
    {queues : List UUID} (here : s.pc = .budget workerId queueId queues)
    (accepted : s.accepted moment = true) :
    ∃ left, readBudget s.site queueId = .ok left ∧
      (0 < left → (s.step env moment).pc = .claim workerId queueId left queues) := by
  rw [Solo.accepted, here] at accepted
  dsimp only at accepted
  cases reads : readBudget s.site queueId with
  | error e =>
      rw [reads] at accepted
      cases accepted
  | ok left =>
      refine ⟨left, rfl, fun positive => ?_⟩
      simp [Solo.step, here, TickPc.step, reads, proceed, Int.not_le.mpr positive]

/-- The step that claims. -/
theorem Solo.step_claim (env : TickEnv) {s : Solo} {moment : Moment} {workerId queueId : UUID}
    {left : Int} {queues : List UUID} (here : s.pc = .claim workerId queueId left queues)
    (accepted : s.accepted moment = true) :
    ∃ site' jobs, claimDue moment.now s.site moment.choice workerId queueId left =
        .ok (site', jobs) ∧
      s.step env moment =
        ⟨site', .resume workerId jobs queues, .claimed (jobs.map (·.id)) :: s.history⟩ := by
  rw [Solo.accepted, here] at accepted
  dsimp only at accepted
  cases claims : claimDue moment.now s.site moment.choice workerId queueId left with
  | error e =>
      rw [claims] at accepted
      cases accepted
  | ok claimed =>
      refine ⟨claimed.1, claimed.2, rfl, ?_⟩
      simp only [Solo.step, here, TickPc.step, claims, proceed]
      rfl

/-- A tick that ends on its track has finished what it claimed. -/
theorem finishes_of_ended
    (accepted : ∀ n, (tickAfter env moments site n).accepted (moments n) = true)
    (parseable : ∀ n, (tickAfter env moments site n).Parseable env (moments n)) {n : Nat}
    (ended : ¬ (tickAfter env moments site n).pc.running = true) :
    Finishes env moments site n := by
  have track := onTrack_tickAfter accepted parseable n
  have returned : (tickAfter env moments site n).pc = .returned := by
    have unfailed := track.unfailed
    cases here : (tickAfter env moments site n).pc with
    | returned => rfl
    | threw _ | killed =>
        rw [here] at unfailed
        cases unfailed
    | _ =>
        rw [here] at ended
        exact absurd rfl ended
  have executed : ∀ jobIds, .claimed jobIds ∈ (tickAfter env moments site n).history →
      ∀ id ∈ jobIds, .executed id ∈ (tickAfter env moments site n).history := by
    intro jobIds claimed id listed
    refine (track.executed jobIds claimed id listed).resolve_left ?_
    rw [returned]
    exact List.not_mem_nil
  constructor
  case returned => exact returned
  case settled =>
    intro jobIds claimed id listed
    refine (track.settled jobIds claimed id listed).resolve_left ?_
    rw [returned]
    exact List.not_mem_nil
  case served =>
    intro queue member active
    have all := ahead_or_read accepted parseable member active n (by rw [returned]; rfl)
    rw [returned] at all
    obtain ⟨m, early, workerId, queues, here⟩ := all.resolve_left List.not_mem_nil
    obtain ⟨left, reads, claims⟩ := Solo.step_budget env here (accepted m)
    refine ⟨m, early, workerId, queues, left, here, reads, fun positive => ?_⟩
    have there : (tickAfter env moments site (m + 1)).pc = .claim workerId queue.id left queues :=
      claims positive
    refine ⟨there, fun id target => ?_⟩
    obtain ⟨site', jobs, takes, next⟩ := Solo.step_claim env there (accepted (m + 1))
    obtain ⟨row, old, _, rfl⟩ := mem_dueTargets target
    have taken : row.id ∈ jobs.map (·.id) :=
      List.mem_map.mpr ⟨_, claimed_of_target takes old target, rfl⟩
    have claimed : .claimed (jobs.map (·.id)) ∈ (tickAfter env moments site (m + 2)).history := by
      have same : tickAfter env moments site (m + 2) = _ := next
      rw [same]
      exact List.mem_cons_self
    have later : m + 2 ≤ n := by
      have other : n ≠ m + 1 := by
        rintro rfl
        rw [returned] at there
        cases there
      omega
    exact executed _ (mem_history_tickAfter later claimed) row.id taken

/-- A tick that has thrown or is to parse a payload that throws never returns. -/
def Stuck (env : TickEnv) (s : Solo) : Prop :=
  (∃ text, s.pc = .threw text) ∨
    ∃ job ∈ s.pc.waiting, (parsePayload env.parseJson job.payload).isOk = false

theorem Stuck.step {s : Solo} {moment : Moment} (stuck : Stuck env s) :
    Stuck env (s.step env moment) := by
  by_cases runs : s.pc.running = true
  swap
  · rwa [Solo.step_of_ended runs]
  rcases Solo.step_cases runs with ⟨site', pc', done, event, steps, next⟩ | ⟨text, _, next⟩
  swap
  · rw [next]
    exact .inl ⟨text, rfl⟩
  rcases stuck with ⟨text, threw⟩ | ⟨job, waits, fails⟩
  · rw [threw] at runs
    cases runs
  · rw [next]
    refine .inr ⟨job, ?_, fails⟩
    rcases (TickPc.step_effect steps).waiting_cases with same | ⟨first, parsed, parses⟩ |
      ⟨_, _, _, _, _, here, _⟩
    · exact same ▸ waits
    · rw [parsed] at waits
      rcases List.mem_cons.mp waits with rfl | behind
      · rw [parses] at fails
        cases fails
      · exact behind
    · rw [here] at waits
      cases waits

theorem Stuck.tickAfter {m n : Nat} (later : m ≤ n)
    (stuck : Stuck env (tickAfter env moments site m)) :
    Stuck env (Dashboard.tickAfter env moments site n) := by
  induction later with
  | refl => exact stuck
  | step _ ih => exact ih.step

/-- A claim of a job whose payload throws stops the tick. -/
theorem stuck_of_claim {s : Solo} {moment : Moment} (accepted : s.accepted moment = true)
    (unparseable : ¬ s.Parseable env moment) : Stuck env (s.step env moment) := by
  unfold Solo.Parseable at unparseable
  split at unparseable
  next workerId queueId left queues here =>
    simp only [not_forall] at unparseable
    obtain ⟨row, member, target, fails⟩ := unparseable
    obtain ⟨site', jobs, takes, next⟩ := Solo.step_claim env here accepted
    rw [next]
    refine .inr ⟨Job.claim moment.now workerId leaseSeconds row, ?_, ?_⟩
    · dsimp only
      rw [TickPc.waiting_resume]
      exact claimed_of_target takes member target
    · exact Bool.eq_false_iff.mpr fails
  · exact absurd trivial unparseable

/-- A tick that returns has met no payload that throws. -/
theorem parseable_of_returned
    (accepted : ∀ n, (tickAfter env moments site n).accepted (moments n) = true) {n : Nat}
    (returned : (tickAfter env moments site n).pc = .returned) (m : Nat) :
    (tickAfter env moments site m).Parseable env (moments m) := by
  by_contra unparseable
  have stuck : Stuck env (tickAfter env moments site (m + 1)) :=
    stuck_of_claim (accepted m) unparseable
  have early : m < n := by
    by_contra late
    have final : tickAfter env moments site m = tickAfter env moments site n := by
      refine driven_of_ended (fun s => s.pc.running = true) (fun _ _ => Solo.step_of_ended) ?_
        (Nat.le_of_not_lt late)
      have there : (driven (Solo.step env) moments (.call site) n).pc = .returned := returned
      rw [there]
      exact Bool.false_ne_true
    rw [final, Solo.Parseable, returned] at unparseable
    exact unparseable trivial
  have still := Stuck.tickAfter early stuck
  unfold Stuck at still
  rw [returned] at still
  rcases still with ⟨_, threw⟩ | ⟨_, waits, _⟩
  · cases threw
  · cases waits

end Runs

/-- **A tick finishes what it claims unless a payload stops it.** When the server accepts every
statement and no other process is active, the call returns with all its jobs executed and settled
exactly when each due job that it comes to claim has a payload that does not throw. -/
theorem tick_finishes_iff (env : TickEnv) (moments : Nat → Moment) (site : Site)
    (accepted : ∀ n, (tickAfter env moments site n).accepted (moments n) = true) :
    (∃ n, Finishes env moments site n) ↔
      ∀ n, (tickAfter env moments site n).Parseable env (moments n) := by
  constructor
  · rintro ⟨n, finishes⟩
    exact parseable_of_returned accepted finishes.returned
  · intro parseable
    obtain ⟨n, ended⟩ := exists_tick_ended env moments site
    exact ⟨n, finishes_of_ended accepted parseable ended⟩

instance (env : TickEnv) (moment : Moment) : DecidablePred (Solo.Parseable env moment)
  | ⟨site, .claim _ queueId left _, _⟩ => inferInstanceAs (Decidable (∀ job ∈ site.jobs,
      job.id ∈ dueTargets moment.now site moment.choice.tie queueId left →
        (parsePayload env.parseJson job.payload).isOk = true))
  | ⟨_, .reap, _⟩ | ⟨_, .findWorker, _⟩ | ⟨_, .beat _, _⟩ | ⟨_, .activate _, _⟩
  | ⟨_, .insertWorker, _⟩ | ⟨_, .insertBeat _, _⟩ | ⟨_, .listQueues _, _⟩ | ⟨_, .budget _ _ _, _⟩
  | ⟨_, .execute _ _ _ _ _, _⟩ | ⟨_, .returned, _⟩ | ⟨_, .threw _, _⟩ | ⟨_, .killed, _⟩ =>
      isTrue trivial

/-- A parser of one text, and the message of a handler that always fails. -/
def parsingTickEnv : TickEnv := ⟨parseNull, fun _ => "constraint violated", fun _ => "failure"⟩

/-- A statement each microsecond, with identifiers that no row has. -/
def steadyMoments (n : Nat) : Moment := ⟨n, ⟨id, id, id, 1000 + n⟩⟩

theorem Solo.accepted_of_ended (moment : Moment) (s : Solo) (ended : ¬ s.pc.running = true) :
    s.accepted moment = true := by
  unfold Solo.accepted
  cases here : s.pc with
  | returned | threw _ | killed => rfl
  | _ => exact absurd (by rw [here]; rfl) ended

theorem Solo.parseable_of_ended (env : TickEnv) (moment : Moment) (s : Solo)
    (ended : ¬ s.pc.running = true) : s.Parseable env moment := by
  unfold Solo.Parseable
  cases here : s.pc with
  | returned | threw _ | killed => trivial
  | _ => exact absurd (by rw [here]; rfl) ended

/-- What a check of the steps up to the end of a tick finds holds of all. -/
theorem forall_tickAfter {env : TickEnv} {moments : Nat → Moment} {site : Site} {n : Nat}
    (holds : Moment → Solo → Prop)
    (ended : ¬ (tickAfter env moments site n).pc.running = true)
    (before : ∀ m < n, holds (moments m) (tickAfter env moments site m))
    (after : ∀ moment s, ¬ s.pc.running = true → holds moment s) (m : Nat) :
    holds (moments m) (tickAfter env moments site m) :=
  forall_of_ended (fun s : Solo => s.pc.running = true) holds (fun _ _ => Solo.step_of_ended)
    ended before after m

/-- The last attempt of a job with payload `null`, which the handler cannot read. -/
def lastAttempt : Site := oneQueue (some 1) [dueJob 2 1 .null]

theorem tick_finishes_lastAttempt : ∃ n, Finishes parsingTickEnv steadyMoments lastAttempt n := by
  have ended : ¬ (tickAfter parsingTickEnv steadyMoments lastAttempt 16).pc.running = true := by
    decide
  refine (tick_finishes_iff parsingTickEnv steadyMoments lastAttempt ?_).mpr ?_
  · exact forall_tickAfter (fun moment s => s.accepted moment = true) ended (by decide)
      Solo.accepted_of_ended
  · exact forall_tickAfter (Solo.Parseable parsingTickEnv) ended (by decide)
      (Solo.parseable_of_ended parsingTickEnv)

/-- Two due jobs, the first of which has a string as its payload that is no JSON. -/
def textFirst : Site :=
  oneQueue (some 2) [dueJob 2 3 (.string "abc"), dueJob 3 3 (.object [("type", .string "sleep")])]

/-- The tick throws when it comes to the first job, and neither job is executed. -/
theorem text_payload_stops_tick :
    ¬ ∀ (env : TickEnv) (moments : Nat → Moment) (site : Site),
      (∀ n, (tickAfter env moments site n).accepted (moments n) = true) →
        ∃ n, Finishes env moments site n := by
  intro claim
  have ended : ¬ (tickAfter parsingTickEnv steadyMoments textFirst 8).pc.running = true := by decide
  have accepted : ∀ n, (tickAfter parsingTickEnv steadyMoments textFirst n).accepted
      (steadyMoments n) = true :=
    forall_tickAfter (fun moment s => s.accepted moment = true) ended (by decide)
      Solo.accepted_of_ended
  obtain ⟨n, finishes⟩ := claim _ _ _ accepted
  have parseable := parseable_of_returned accepted finishes.returned 6
  revert parseable
  decide

end Dashboard

end JobScheduler
