import JobScheduler.Dashboard.Worker
import JobScheduler.Engine.Handlers

/-!
# The two engines

`executeJob` of the Go worker and `executeJob` of the dashboard decide about a job by its
payload, and each decodes the payload in its own way. Go matches member names up to case, wants
an integer for a duration, and fails on every type it has no handler for. The dashboard reads
the members as JavaScript does, parses a payload that is a string once more, and succeeds on
every type that it does not know.

The decision about another attempt is the same. So the outcomes are the same exactly when both
handlers fail on the payload, or both do not.
-/

set_option autoImplicit false

namespace JobScheduler

open Relational

namespace Dashboard

/-! ## An execution of the dashboard without interruption -/

/-- `executeJob` from a counter on, until it returns or throws. Each statement has a time and
choices of its own. -/
inductive TickExecutes (env : TickEnv) (workerId : UUID) (job : Job) : Site → ExecPc → Site → Prop
    where
  | returned {site site' : Site} {pc : ExecPc} {event : Option Event} (choice : Choice)
      (now : Timestamptz)
      (steps : pc.step env choice now workerId job site = .ok (site', none, event)) :
      TickExecutes env workerId job site pc site'
  | threw {site : Site} {pc : ExecPc} {message : String} (choice : Choice) (now : Timestamptz)
      (steps : pc.step env choice now workerId job site = .error message) :
      TickExecutes env workerId job site pc site
  | next {site site' last : Site} {pc pc' : ExecPc} {event : Option Event} (choice : Choice)
      (now : Timestamptz)
      (steps : pc.step env choice now workerId job site = .ok (site', some pc', event))
      (rest : TickExecutes env workerId job site' pc' last) :
      TickExecutes env workerId job site pc last

/-- The tables as the Go worker sees them. -/
def database (site : Site) : Database :=
  { site.core with deadLetterQueue := site.letters.map (·.entry) }

/-- The job has a dead letter. -/
def HasLetter (site : Site) (jobId : UUID) : Prop :=
  ∃ l ∈ site.letters, l.entry.jobId = jobId

theorem hasLetter_database (site : Site) (jobId : UUID) :
    (database site).HasLetter jobId ↔ HasLetter site jobId := by
  simp [Database.HasLetter, HasLetter, database]

/-- The handler of the dashboard fails on the parsed payload. -/
def Fails : Json → Prop
  | .null => True
  | .object fields =>
      property "type" fields = some (.string "always_fail") ∨
        property "type" fields = some (.string "sleep") ∧
          ∃ duration ∈ property "duration_ms" fields, unconvertible duration = true
  | _ => False

theorem handlerError_eq_none_iff (message : Json → String) (payload : Json) :
    handlerError message payload = none ↔ ¬ Fails payload := by
  cases payload with
  | null => simp [handlerError, Fails]
  | object fields =>
      simp only [handlerError, Fails]
      split
      next type =>
        simp only [type, Option.any_eq_true]
        simp
      next type => simp [type]
      next notSleep notFail =>
        simp only [true_iff, not_or, not_and]
        exact ⟨notFail, fun type => absurd type notSleep⟩
  | bool | number | string | array => simp [handlerError, Fails]

/-! ## What the dashboard leaves behind -/

section Outcome

variable {env : TickEnv} {workerId : UUID} {job : Job} {letter : Prop} {site site' : Site}

/-- The row of the job and its queue are there, and a dead letter exactly when there was one at
the start. -/
structure Kept (job : Job) (letter : Prop) (site : Site) : Prop where
  row : ∃ row ∈ site.jobs, row.id = job.id
  queue : ∃ q ∈ site.queues, q.id = job.queueId
  letters : HasLetter site job.id ↔ letter

/-- The handler has this verdict on the payload. -/
def Verdict (env : TickEnv) (job : Job) (succeeds : Bool) : Prop :=
  ∃ payload, parsePayload env.parseJson job.payload = .ok payload ∧
    (handlerError env.message payload).isNone = succeeds

/-- The job is where the verdict leaves it. -/
structure Settled (job : Job) (letter : Prop) (succeeds : Bool) (site : Site) : Prop where
  row : site.core.RowIs job.id (outcome job succeeds)
  letters : HasLetter site job.id ↔ letter ∨ outcome job succeeds = .deadLetter

/-- What is known of an uninterrupted execution at a counter. -/
def ReachesPc (env : TickEnv) (job : Job) (letter : Prop) (site : Site) : ExecPc → Prop
  | .setRunning => Kept job letter site
  | .insertExecution payload | .logStarted payload _ | .start payload _
  | .handling payload _ _ =>
      parsePayload env.parseJson job.payload = .ok payload ∧ Kept job letter site
  | .complete _ _ => Verdict env job true ∧ Kept job letter site
  | .recordCompleted _ _ | .logCompleted => Verdict env job true ∧ Settled job letter true site
  | .deadLetter _ _ _ _ =>
      Verdict env job false ∧ job.maxAttempts ≤ attemptOf job ∧ Kept job letter site
  | .insertLetter _ _ _ _ => Verdict env job false ∧ job.maxAttempts ≤ attemptOf job ∧
      Kept job letter site ∧ site.core.RowIs job.id .deadLetter
  | .requeue _ _ _ => Verdict env job false ∧ attemptOf job < job.maxAttempts ∧
      Kept job letter site
  | .recordFailed _ _ _ | .logFailed _ => Verdict env job false ∧ Settled job letter false site

theorem rowIs_rewriteJob {rewrite : Job → Job} {status : JobStatus} {jobId : UUID}
    (there : ∃ row ∈ site.jobs, row.id = jobId) (keeps : ∀ row, (rewrite row).id = row.id)
    (sets : ∀ row, (rewrite row).status = status) :
    (rewriteJob site jobId rewrite).core.RowIs jobId status := by
  have written : (rewriteJob site jobId rewrite).core.jobs =
      update (·.id = jobId) rewrite site.core.jobs := rfl
  exact Database.rowIs_of_update written there keeps sets

theorem Kept.rewriteJob {rewrite : Job → Job} (kept : Kept job letter site)
    (keeps : ∀ row, (rewrite row).id = row.id) :
    Kept job letter (rewriteJob site job.id rewrite) := by
  refine ⟨?_, kept.queue, kept.letters⟩
  obtain ⟨row, member, same⟩ := kept.row
  exact ⟨rewrite row, mem_update_of_selects member same, (keeps row).trans same⟩

/-- An insertion that refers to the job goes through. -/
theorem withJob_eq (there : ∃ row ∈ site.jobs, row.id = job.id) (inserted : Site) :
    withJob site job.id inserted = .ok inserted := by
  rw [withJob, if_neg (not_not.mpr there)]

/-- What is known after a step: the counter it reaches, the outcome when it ends the execution,
and that nothing but `JSON.parse` throws. -/
def ReachesNext (env : TickEnv) (job : Job) (letter : Prop) (pc : ExecPc) :
    Except String (Site × Option ExecPc × Option Event) → Prop
  | .ok (site, some pc', _) => ReachesPc env job letter site pc'
  | .ok (site, none, _) => ∃ succeeds, Verdict env job succeeds ∧ Settled job letter succeeds site
  | .error message => pc = .setRunning ∧ parsePayload env.parseJson job.payload = .error message

theorem reaches_next (workerId : UUID) {pc : ExecPc} (choice : Choice) (now : Timestamptz)
    (reaches : ReachesPc env job letter site pc) :
    ReachesNext env job letter pc (pc.step env choice now workerId job site) := by
  cases pc with
  | setRunning =>
      simp only [ExecPc.step]
      cases parses : parsePayload env.parseJson job.payload with
      | error message => exact ⟨rfl, parses⟩
      | ok payload => exact ⟨parses, Kept.rewriteJob reaches fun _ => rfl⟩
  | insertExecution payload =>
      obtain ⟨parses, kept⟩ := reaches
      simp only [ExecPc.step, insertExecution, withJob_eq kept.row, proceed]
      exact ⟨parses, ⟨kept.row, kept.queue, kept.letters⟩⟩
  | logStarted payload executionId =>
      obtain ⟨parses, kept⟩ := reaches
      simp only [ExecPc.step, insertLog, withJob_eq kept.row, proceed]
      exact ⟨parses, ⟨kept.row, kept.queue, kept.letters⟩⟩
  | start payload executionId => exact reaches
  | handling payload executionId since =>
      obtain ⟨parses, kept⟩ := reaches
      simp only [ExecPc.step]
      cases verdict : handlerError env.message payload with
      | none => exact ⟨⟨payload, parses, by rw [verdict]; rfl⟩, kept⟩
      | some errMsg =>
          have failed : Verdict env job false := ⟨payload, parses, by rw [verdict]; rfl⟩
          by_cases used : job.maxAttempts ≤ attemptOf job
          · simp only [afterHandler, if_pos used]
            exact ⟨failed, used, kept⟩
          · simp only [afterHandler, if_neg used]
            exact ⟨failed, not_le.mp used, kept⟩
  | complete executionId duration =>
      obtain ⟨verdict, kept⟩ := reaches
      refine ⟨verdict, ⟨rowIs_rewriteJob kept.row (fun _ => rfl) fun _ => rfl, ?_⟩⟩
      exact kept.letters.trans (by simp [outcome])
  | recordCompleted executionId duration =>
      obtain ⟨verdict, settled⟩ := reaches
      exact ⟨verdict, ⟨settled.row, settled.letters⟩⟩
  | logCompleted =>
      obtain ⟨verdict, settled⟩ := reaches
      simp only [ExecPc.step, insertLog, withJob_eq settled.row.1, proceed]
      exact ⟨true, verdict, ⟨settled.row, settled.letters⟩⟩
  | deadLetter errMsg payload executionId duration =>
      obtain ⟨verdict, used, kept⟩ := reaches
      exact ⟨verdict, used, kept.rewriteJob fun _ => rfl,
        rowIs_rewriteJob kept.row (fun _ => rfl) fun _ => rfl⟩
  | insertLetter errMsg payload executionId duration =>
      obtain ⟨verdict, used, kept, row⟩ := reaches
      have dead := outcome_exhausted used
      by_cases old : HasLetter site job.id
      · have kept' : insertLetter now site choice.fresh job payload errMsg (attemptOf job) =
            .ok site := if_pos old
        simp only [ExecPc.step, kept', proceed]
        refine ⟨verdict, ⟨dead ▸ row, ?_⟩⟩
        simp only [dead, or_true, iff_true]
        exact old
      · have added : insertLetter now site choice.fresh job payload errMsg (attemptOf job) = _ :=
          if_neg old
        simp only [ExecPc.step, added, withJob_eq kept.row, kept.queue, not_true_eq_false, if_false,
          proceed]
        refine ⟨verdict, ⟨dead ▸ row, ?_⟩⟩
        simp only [dead, or_true, iff_true]
        exact ⟨_, List.mem_append_right _ List.mem_cons_self, rfl⟩
  | requeue errMsg executionId duration =>
      obtain ⟨verdict, left, kept⟩ := reaches
      have again := outcome_left left
      refine ⟨verdict, ⟨again ▸ rowIs_rewriteJob kept.row (fun _ => rfl) fun _ => rfl, ?_⟩⟩
      exact kept.letters.trans (by simp [again])
  | recordFailed errMsg executionId duration =>
      obtain ⟨verdict, settled⟩ := reaches
      exact ⟨verdict, ⟨settled.row, settled.letters⟩⟩
  | logFailed errMsg =>
      obtain ⟨verdict, settled⟩ := reaches
      simp only [ExecPc.step, insertLog, withJob_eq settled.row.1, proceed]
      exact ⟨false, verdict, ⟨settled.row, settled.letters⟩⟩

/-- How many steps are left at most. -/
def ExecPc.rank : ExecPc → Nat
  | .setRunning => 9
  | .insertExecution _ => 8
  | .logStarted _ _ => 7
  | .start _ _ => 6
  | .handling _ _ _ => 5
  | .deadLetter _ _ _ _ => 4
  | .complete _ _ | .insertLetter _ _ _ _ | .requeue _ _ _ => 3
  | .recordCompleted _ _ | .recordFailed _ _ _ => 2
  | .logCompleted | .logFailed _ => 1

theorem ExecPc.rank_le (pc : ExecPc) : pc.rank ≤ ExecPc.setRunning.rank := by
  cases pc <;> simp [rank]

theorem ExecPc.rank_afterHandler (payload : Json) (executionId : UUID) (duration : Int)
    (error : Option String) : (afterHandler job payload executionId duration error).rank < 5 := by
  cases error with
  | none => simp [afterHandler, rank]
  | some errMsg =>
      simp only [afterHandler]
      split <;> simp [rank]

/-- Every step brings an execution closer to its end. -/
theorem ExecPc.rank_step {pc pc' : ExecPc} {event : Option Event} {choice : Choice}
    {now : Timestamptz}
    (steps : pc.step env choice now workerId job site = .ok (site', some pc', event)) :
    pc'.rank < pc.rank := by
  cases pc with
  | setRunning =>
      simp only [ExecPc.step] at steps
      split at steps
      · cases steps
      · cases steps
        simp [rank]
  | handling payload executionId since =>
      cases steps
      exact rank_afterHandler _ _ _ _
  | insertExecution | logStarted | insertLetter =>
      simp only [ExecPc.step, proceed] at steps
      split at steps
      · cases steps
      · cases steps
        simp [rank]
  | logCompleted | logFailed =>
      simp only [ExecPc.step, proceed] at steps
      split at steps <;> cases steps
  | start | complete | recordCompleted | deadLetter | requeue | recordFailed =>
      cases steps
      simp [rank]

/-- Every execution can be completed. -/
theorem exists_tickExecutes (env : TickEnv) (workerId : UUID) (job : Job) (site : Site)
    (pc : ExecPc) : ∃ last, TickExecutes env workerId job site pc last := by
  induction rank : pc.rank using Nat.strong_induction_on generalizing site pc with
  | _ n ih =>
      let choice : Choice := ⟨fun _ => 0, fun _ => 0, fun _ => 0, 0⟩
      cases steps : pc.step env choice 0 workerId job site with
      | error message => exact ⟨site, .threw choice 0 steps⟩
      | ok done =>
          obtain ⟨site', next, event⟩ := done
          cases next with
          | none => exact ⟨site', .returned choice 0 steps⟩
          | some pc' =>
              have fewer := ExecPc.rank_step steps
              rw [rank] at fewer
              obtain ⟨last, rest⟩ := ih pc'.rank fewer site' pc' rfl
              exact ⟨last, .next choice 0 steps rest⟩

/-- What an uninterrupted execution leaves behind: the outcome, or nothing when `JSON.parse`
throws before its first statement. -/
theorem TickExecutes.leaves {pc : ExecPc} {last : Site}
    (executes : TickExecutes env workerId job site pc last)
    (reaches : ReachesPc env job letter site pc) :
    (∃ succeeds, Verdict env job succeeds ∧ Settled job letter succeeds last) ∨
      pc = .setRunning ∧ last = site ∧
        ∃ message, parsePayload env.parseJson job.payload = .error message := by
  induction executes with
  | returned choice now steps =>
      have next := reaches_next workerId choice now reaches
      rw [steps] at next
      exact .inl next
  | @threw _ _ message choice now steps =>
      have next := reaches_next workerId choice now reaches
      rw [steps] at next
      exact .inr ⟨next.1, rfl, message, next.2⟩
  | @next _ _ _ pc _ _ choice now steps _ ih =>
      have next := reaches_next workerId choice now reaches
      rw [steps] at next
      refine (ih next).imp_right fun restarted => ?_
      have fewer := ExecPc.rank_step steps
      have most := ExecPc.rank_le pc
      rw [restarted.1] at fewer
      exact absurd fewer (not_lt.mpr most)

end Outcome

/-! ## Agreement -/

/-- The payloads on which the engines agree. `null` fails in both, a scalar or an array in Go
only. A string fails in Go. -/
def PayloadsCoincide (parseJson : String → Except String Json) : Json → Prop
  | .null => True
  | .string text => ∃ payload, parseJson text = .ok payload ∧ Fails payload
  | .object fields => sleeps (.object fields) = true ↔ ¬ Fails (.object fields)
  | _ => False

theorem payloadsCoincide_iff (parseJson : String → Except String Json) (payload : Json) :
    PayloadsCoincide parseJson payload ↔
      ∃ parsed, parsePayload parseJson payload = .ok parsed ∧
        (sleeps payload = true ↔ ¬ Fails parsed) := by
  cases payload <;> simp [PayloadsCoincide, parsePayload, sleeps, Fails]

theorem outcome_injective {job : Job} {first second : Bool}
    (same : outcome job first = outcome job second) : first = second := by
  cases first <;> cases second <;> simp [outcome] at same ⊢
  all_goals split at same <;> cases same

theorem outcome_ne_claimed (job : Job) (succeeds : Bool) : outcome job succeeds ≠ .claimed := by
  unfold outcome
  split
  · simp
  · split <;> simp

/-- The job has the same status and the same presence of a dead letter in both. -/
structure SameOutcome (job : Job) (db : Database) (site : Site) : Prop where
  status : ∀ row ∈ db.jobs, ∀ row' ∈ site.jobs, row.id = job.id → row'.id = job.id →
    row.status = row'.status
  letters : db.HasLetter job.id ↔ HasLetter site job.id

/-- Both engines come to an end with the job, and leave it with the same outcome. -/
structure EnginesAgree (env : TickEnv) (goWorker workerId : UUID) (job : Job) (site : Site) :
    Prop where
  goEnds : ∃ db, Executes goWorker job (database site) (Pc.entry job) db
  ends : ∃ last, TickExecutes env workerId job site .setRunning last
  same : ∀ db last, Executes goWorker job (database site) (Pc.entry job) db →
    TickExecutes env workerId job site .setRunning last → SameOutcome job db last

/-- A claimed job without an idempotency key that is no `http_call`. Its queue is there, the
intervals of the policies have the resolution of their columns, and `MoveToDLQ` does not fail
on a dead letter that was left over. -/
structure Claimed (job : Job) (site : Site) : Prop where
  row : site.core.RowIs job.id .claimed
  keyless : job.idempotencyKey = none
  plain : extractType job.payload ≠ "http_call"
  queue : ∃ q ∈ site.queues, q.id = job.queueId
  policies : (database site).WholePolicies
  clean : sleeps job.payload = false → job.maxAttempts ≤ job.attempts + 1 →
    ¬ HasLetter site job.id

section Agreement

variable {env : TickEnv} {goWorker workerId : UUID} {job : Job} {site last : Site} {db : Database}

theorem Claimed.entry (claimed : Claimed job site) : Pc.entry job = .setRunning := by
  rw [Pc.entry, claimed.keyless]

/-- What the Go engine leaves. -/
theorem Claimed.goOutcome (claimed : Claimed job site)
    (executes : Executes goWorker job (database site) (Pc.entry job) db) :
    db.RowIs job.id (outcome job (sleeps job.payload)) ∧ (db.HasLetter job.id ↔
      HasLetter site job.id ∨ outcome job (sleeps job.payload) = .deadLetter) := by
  rw [claimed.entry] at executes
  have start : Reaches job (HasLetter site job.id) (database site) .setRunning :=
    ⟨claimed.row.1, hasLetter_database site job.id⟩
  exact executes.outcome claimed.plain claimed.clean start

/-- What the dashboard leaves. -/
theorem Claimed.tickOutcome (claimed : Claimed job site)
    (executes : TickExecutes env workerId job site .setRunning last) :
    (∃ succeeds, Verdict env job succeeds ∧ Settled job (HasLetter site job.id) succeeds last) ∨
      last = site ∧ ∃ message, parsePayload env.parseJson job.payload = .error message := by
  have start : ReachesPc env job (HasLetter site job.id) site .setRunning :=
    ⟨claimed.row.1, claimed.queue, Iff.rfl⟩
  exact (executes.leaves start).imp_right fun threw => threw.2

/-- Outcomes by the same verdict are the same. -/
theorem sameOutcome_of_settled {letter : Prop} {succeeds : Bool}
    (goRow : db.RowIs job.id (outcome job succeeds))
    (goLetters : db.HasLetter job.id ↔ letter ∨ outcome job succeeds = .deadLetter)
    (settled : Settled job letter succeeds last) : SameOutcome job db last := by
  refine ⟨?_, goLetters.trans settled.letters.symm⟩
  intro row member row' member' same same'
  rw [goRow.2 row member same]
  exact (settled.row.2 row' member' same').symm

/-- **When the two engines agree**: exactly on the payloads that coincide. -/
theorem engines_agree_iff (env : TickEnv) (goWorker workerId : UUID) (claimed : Claimed job site) :
    EnginesAgree env goWorker workerId job site ↔
      PayloadsCoincide env.parseJson job.payload := by
  have goEnds : ∃ db, Executes goWorker job (database site) (Pc.entry job) db := by
    rw [claimed.entry]
    exact completes_setRunning claimed.policies
  have ends := exists_tickExecutes env workerId job site .setRunning
  rw [payloadsCoincide_iff]
  constructor
  · intro agree
    obtain ⟨db, goExecutes⟩ := agree.goEnds
    obtain ⟨last, executes⟩ := agree.ends
    have same := agree.same db last goExecutes executes
    obtain ⟨goRow, _⟩ := claimed.goOutcome goExecutes
    obtain ⟨row, member, rowId⟩ := goRow.1
    rcases claimed.tickOutcome executes with ⟨succeeds, verdict, settled⟩ | ⟨rfl, _⟩
    · obtain ⟨row', member', rowId'⟩ := settled.row.1
      have statuses := same.status row member row' member' rowId rowId'
      rw [goRow.2 row member rowId, settled.row.2 row' member' rowId'] at statuses
      have verdicts := outcome_injective statuses
      obtain ⟨parsed, parses, handled⟩ := verdict
      refine ⟨parsed, parses, ?_⟩
      rw [← handlerError_eq_none_iff env.message, ← Option.isNone_iff_eq_none, handled, verdicts]
    · obtain ⟨row', member', rowId'⟩ := claimed.row.1
      have statuses := same.status row member row' member' rowId rowId'
      rw [goRow.2 row member rowId, claimed.row.2 row' member' rowId'] at statuses
      exact absurd statuses (outcome_ne_claimed _ _)
  · rintro ⟨parsed, parses, coincide⟩
    refine ⟨goEnds, ends, fun db last goExecutes executes => ?_⟩
    obtain ⟨goRow, goLetters⟩ := claimed.goOutcome goExecutes
    rcases claimed.tickOutcome executes with ⟨succeeds, verdict, settled⟩ | ⟨_, message, fails⟩
    · obtain ⟨parsed', parses', handled⟩ := verdict
      rw [parses] at parses'
      cases parses'
      rw [← handlerError_eq_none_iff env.message, ← Option.isNone_iff_eq_none, handled] at coincide
      have verdicts : sleeps job.payload = succeeds := Bool.eq_iff_iff.mpr coincide
      rw [verdicts] at goRow goLetters
      exact sameOutcome_of_settled goRow goLetters settled
    · rw [parses] at fails
      cases fails

end Agreement

/-- A claimed job with this payload, on its first of three attempts. -/
def claimedJob (payload : Json) : Job :=
  ⟨1, 100, .claimed, 0, payload, none, some 0, 0, 3, none, some 7, some 0, some 30000000, none,
    none, none, none, none, 0, 0⟩

/-- The tables with this job. -/
def claimedSite (payload : Json) : Site where
  organizations := []
  users := []
  projects := []
  retryPolicies := []
  queues := [⟨100, 10, "Outbox", "outbox", none, 0, none, false, 0, 0⟩]
  workers := [⟨7, workerName, .active, 0, 0⟩]
  workerHeartbeats := []
  jobs := [claimedJob payload]
  executions := []
  logs := []
  letters := []

theorem claimed_claimedSite {payload : Json} (plain : extractType payload ≠ "http_call") :
    Claimed (claimedJob payload) (claimedSite payload) where
  row := by
    refine ⟨⟨_, List.mem_cons_self, rfl⟩, fun row member _ => ?_⟩
    rw [List.mem_singleton.mp member]
    rfl
  keyless := rfl
  plain := plain
  queue := ⟨_, List.mem_cons_self, rfl⟩
  policies := fun _ member => by cases member
  clean := fun _ _ letter => by
    obtain ⟨_, member, _⟩ := letter
    cases member

/-- No text parses, and every failure has the same message. -/
def plainTickEnv : TickEnv where
  parseJson _ := .error "Unexpected token"
  describe _ := "error"
  message _ := "simulated failure"

def sleepPayload : Json := .object [("type", .string "sleep"), ("duration_ms", .number 5 2)]

theorem engines_agree_iff_sleep :
    EnginesAgree plainTickEnv 8 7 (claimedJob sleepPayload) (claimedSite sleepPayload) := by
  have claimed := claimed_claimedSite (show extractType sleepPayload ≠ "http_call" by decide)
  refine (engines_agree_iff plainTickEnv 8 7 claimed).mpr ⟨fun _ => ?_, fun _ => by decide⟩
  rw [← handlerError_eq_none_iff fun _ => ""]
  rfl

def emailPayload : Json := .object [("type", .string "email")]

/-- A type without a handler fails in Go and succeeds in the dashboard. -/
theorem engines_disagree :
    ¬ ∀ (env : TickEnv) (goWorker workerId : UUID) (job : Job) (site : Site), Claimed job site →
      EnginesAgree env goWorker workerId job site := by
  intro always
  have claimed := claimed_claimedSite (show extractType emailPayload ≠ "http_call" by decide)
  have agree := always plainTickEnv 8 7 _ _ claimed
  obtain ⟨db, goExecutes⟩ := agree.goEnds
  obtain ⟨last, executes⟩ := agree.ends
  obtain ⟨goRow, _⟩ := claimed.goOutcome goExecutes
  obtain ⟨row, member, rowId⟩ := goRow.1
  rcases claimed.tickOutcome executes with ⟨succeeds, ⟨parsed, parses, handled⟩, settled⟩ | threw
  · cases parses
    cases handled
    obtain ⟨row', member', rowId'⟩ := settled.row.1
    have statuses := (agree.same db last goExecutes executes).status row member row' member' rowId
      rowId'
    rw [goRow.2 row member rowId, settled.row.2 row' member' rowId'] at statuses
    have failed : sleeps emailPayload = false := by decide
    have verdicts := outcome_injective statuses
    exact absurd (failed.symm.trans verdicts) (by decide)
  · obtain ⟨_, message, fails⟩ := threw
    cases fails

end Dashboard

end JobScheduler
