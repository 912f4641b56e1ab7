import JobScheduler.System.WellFormed

/-!
# The retry policy of a queue

A queue refers to a retry policy, and `handleFailure` looks up the policy of the job. Between the
two the reference is lost: neither `buildJobInput` nor the `INSERT` of `Create` copies it, so a job
carries no policy in any run, and a failed execution always takes the default backoff. It is the
backoff that the queue's policy asks for exactly when the two delays happen to be the same
(`policy_governs_iff`).
-/

set_option autoImplicit false

namespace JobScheduler

open Relational Transition

/-! ## What a failed execution does -/

namespace World

/-- The next `n` calls of an execution, all of which return without an error. -/
def calls (ticket : Nat) (draw : Int) : Nat → World → Option World
  | 0, w => some w
  | n + 1, w => (w.exec ticket (.call true draw)).bind (calls ticket draw n)

/-- The execution comes to call `RequeueForRetry` with this run time, when its calls return
without errors and the random source comes out as `draw`. -/
def Requeues (w : World) (ticket : Nat) (draw : Int) (runsAt : Time) : Prop :=
  ∃ n w' task, calls ticket draw n w = some w' ∧ w'.tasks ticket = some task ∧
    task.pc = .requeueForRetry runsAt

/-- An execution of a live worker has failed and logged the failure, the job has attempts left, and
its queue refers to the policy. -/
structure FailsUnder (w : World) (ticket : Nat) (task : Task) (errMsg : String)
    (policy : RetryPolicy) : Prop where
  taken : w.tasks ticket = some task
  failed : task.pc = .logFailed errMsg
  live : w.Live task.worker
  retries : task.job.attempts + 1 < task.job.maxAttempts
  listed : policy ∈ w.db.retryPolicies
  governed : ∃ queue ∈ w.db.queues, queue.id = task.job.queueId ∧
    queue.retryPolicyId = some policy.id

/-- The run time of the retry is the one that the policy gives. -/
def Governs (w : World) (ticket : Nat) (task : Task) (policy : RetryPolicy) : Prop :=
  ∀ draw runsAt, w.Requeues ticket draw runsAt ↔
    nextRunAt w.now.toTime policy.strategy.text policy.baseInterval policy.maxInterval
      (task.job.attempts + 1) (policy.strategy.text = "exponential") draw = some runsAt

end World

/-! ## Jobs carry no policy -/

/-- No row and no claimed job refers to a policy. -/
structure WithoutPolicies (w : World) : Prop where
  wellFormed : WellFormed w
  rows : ∀ row ∈ w.db.jobs, row.retryPolicyId = none
  tasks : ∀ ticket task, w.tasks ticket = some task → task.job.retryPolicyId = none

theorem Job.retryPolicyId_eq_of_fixed {first second : Job} (same : first.fixed = second.fixed) :
    first.retryPolicyId = second.retryPolicyId :=
  congrArg FixedColumns.retryPolicyId same

namespace World

variable {cron : CronParser} {w w' : World} {a : Action}

theorem withoutPolicies_step (moves : Moves cron w a w') (inv : WithoutPolicies w) :
    WithoutPolicies w' where
  wellFormed := wellFormed_step moves inv.wellFormed
  rows := by
    intro row' member
    rcases step_rows moves inv.wellFormed.ids member with ⟨row, rowMember, change⟩ | new
    · rw [Job.retryPolicyId_eq_of_fixed change.fixed]
      exact inv.rows row rowMember
    · obtain ⟨_, _, _, _, ⟨_, _, made⟩, _⟩ := new
      rw [made]
      rfl
  tasks := by
    intro ticket task' taken'
    cases step_tasks moves inv.wellFormed.ids taken' with
    | opened _ _ _ _ member =>
        have unreferred := inv.rows _ member
        exact unreferred
    | kept taken | dispatched _ taken | advanced _ taken =>
        have unreferred := inv.tasks _ _ taken
        exact unreferred

end World

theorem withoutPolicies_throughout {cron : CronParser} {trace : List (World × Action)} {w : World}
    (run : Run (scheduler cron) trace w) : WithoutPolicies w := by
  have anyway : Meets (fun _ _ => True) trace := fun _ _ => trivial
  refine run.invariant anyway ?_ ?_
  · rintro s ⟨now, policies, rfl⟩
    exact ⟨World.wellFormed_start now policies, by simp [World.start, Database.migrated],
      by simp [World.start]⟩
  · intro s a s' taken _ inv
    exact World.withoutPolicies_step (World.step_moves taken) inv

/-! ## The default backoff -/

namespace World

variable {w : World} {ticket : Nat} {task : Task}

/-- A call of a live worker's execution. -/
theorem exec_call (draw : Int) (taken : w.tasks ticket = some task) (live : w.Live task.worker) :
    ∃ handlers, w.exec ticket (.call true draw) =
      (advance handlers task.worker w.now task.job w.db task.pc (.call true draw)).map
        fun done => { w.setTask ticket (some { task with pc := done.2.1 }) with
          db := done.1
          events := done.2.2.toList ++ w.events } := by
  obtain ⟨engine, found, running⟩ := live
  refine ⟨engine.cfg.handlers, ?_⟩
  have permitted : engine.status.permits (.call true draw) = true := by rw [running]; rfl
  simp only [exec, taken, found, permitted, if_true]
  cases advance engine.cfg.handlers task.worker w.now task.job w.db task.pc (.call true draw) <;>
    rfl

variable {draw : Int}

/-- An execution that comes to call `RequeueForRetry` is there, or comes to it after its next
call. -/
theorem Requeues.next {runsAt : Time} (requeues : w.Requeues ticket draw runsAt)
    (taken : w.tasks ticket = some task) (live : w.Live task.worker) :
    task.pc = .requeueForRetry runsAt ∨
      ∃ handlers db pc event, ∃ w' : World, advance handlers task.worker w.now task.job w.db task.pc
          (.call true draw) = some (db, pc, event) ∧
        w'.tasks ticket = some { task with pc := pc } ∧ w'.Live task.worker ∧
        w'.Requeues ticket draw runsAt := by
  obtain ⟨n, last, final, called, there, counter⟩ := requeues
  cases n with
  | zero =>
      cases called
      cases taken.symm.trans there
      exact .inl counter
  | succ n =>
      obtain ⟨handlers, executes⟩ := exec_call draw taken live
      obtain ⟨w', first, later⟩ := Option.bind_eq_some_iff.mp called
      rw [executes] at first
      obtain ⟨⟨db, pc, event⟩, advances, rfl⟩ := Option.map_eq_some_iff.mp first
      refine .inr ⟨handlers, db, pc, event, _, advances, ?_, ?_, n, last, final, later, there,
        counter⟩
      · exact Function.update_self _ _ _
      · exact live

/-- A call that brings an execution to a new counter. -/
theorem calls_advance (pc : Pc) (taken : w.tasks ticket = some task) (live : w.Live task.worker)
    (advances : ∀ handlers, ∃ db event, advance handlers task.worker w.now task.job w.db task.pc
      (.call true draw) = some (db, pc, event)) :
    ∃ w', (∀ n, calls ticket draw (n + 1) w = calls ticket draw n w') ∧
      w'.tasks ticket = some { task with pc := pc } ∧ w'.Live task.worker := by
  obtain ⟨handlers, executes⟩ := exec_call draw taken live
  obtain ⟨db, event, result⟩ := advances handlers
  rw [result, Option.map_some] at executes
  refine ⟨{ w.setTask ticket (some { task with pc := pc }) with
    db := db
    events := event.toList ++ w.events }, fun n => ?_, Function.update_self _ _ _, live⟩
  rw [calls, executes, Option.bind_some]

/-- A failed execution of a job without a policy takes the default backoff. -/
theorem requeues_iff {errMsg : String} (taken : w.tasks ticket = some task)
    (failed : task.pc = .logFailed errMsg) (live : w.Live task.worker)
    (retries : task.job.attempts + 1 < task.job.maxAttempts)
    (unreferred : task.job.retryPolicyId = none) {runsAt : Time} :
    w.Requeues ticket draw runsAt ↔
      nextRunAt w.now.toTime "exponential" 5000000000 3600000000000 (task.job.attempts + 1) true
        draw = some runsAt := by
  have later : ¬ task.job.maxAttempts ≤ task.job.attempts + 1 := by omega
  have backoff : afterFailure w.now task.job errMsg draw =
      (nextRunAt w.now.toTime "exponential" 5000000000 3600000000000 (task.job.attempts + 1) true
        draw).map (Pc.failJob errMsg) := by
    simp only [afterFailure, later, if_false, unreferred, scheduleDefaultRetry, scheduleRetry,
      decide_true]
  constructor
  · intro requeues
    -- logging, then `FailJob`, and `RequeueForRetry` is next
    rcases requeues.next taken live with here | ⟨_, _, _, _, w₁, logs, taken₁, live₁, requeues₁⟩
    · cases failed.symm.trans here
    rw [failed] at logs
    obtain ⟨_, next, same⟩ := Option.map_eq_some_iff.mp logs
    cases same
    rw [backoff] at next
    obtain ⟨instant, comes, rfl⟩ := Option.map_eq_some_iff.mp next
    rcases requeues₁.next taken₁ live₁ with here | ⟨_, _, _, _, w₂, fails, taken₂, live₂, requeues₂⟩
    · cases here
    cases fails
    rcases requeues₂.next taken₂ live₂ with here | ⟨_, _, _, _, w₃, done, taken₃, live₃, requeues₃⟩
    · cases here
      exact comes
    cases done
    rcases requeues₃.next taken₃ live₃ with here | ⟨_, _, _, _, _, ended, _⟩
    · cases here
    · cases ended
  · intro comes
    rw [comes, Option.map_some] at backoff
    obtain ⟨w₁, called₁, taken₁, live₁⟩ := calls_advance (.failJob errMsg runsAt) taken live
      fun _ => ⟨_, _, by rw [failed, advance, Response.onCall, backoff, Option.map_some]⟩
    obtain ⟨w₂, called₂, taken₂, _⟩ := calls_advance (.requeueForRetry runsAt) taken₁ live₁
      fun _ => ⟨_, _, rfl⟩
    refine ⟨2, w₂, _, ?_, taken₂, rfl⟩
    rw [called₁, called₂, calls]

end World

/-! ## When two backoffs are the same -/

section Backoff

variable {strategy : String} {base maxDelay attempt : Int}

/-- The default backoff before jitter. -/
def defaultDelay (attempt : Int) : Int :=
  cappedDelay "exponential" 5000000000 3600000000000 attempt

theorem exponentialDelay_lt (base attempt : Int) : exponentialDelay base attempt < 2 ^ 63 := by
  unfold exponentialDelay
  dsimp only
  split
  next small => exact small.2.2
  · decide

theorem cappedDelay_exponential_lt : cappedDelay "exponential" base maxDelay attempt < 2 ^ 63 := by
  have bound := exponentialDelay_lt base (max attempt 1)
  unfold cappedDelay uncappedDelay
  simp only [String.reduceEq, if_false, if_true]
  split
  next capped => exact capped.2.trans bound
  · exact bound

/-- A delay with jitter does not come out for the draw `-1`. -/
theorem nextDelay_negative {d : Int} (capped : cappedDelay strategy base maxDelay attempt = d)
    (positive : 0 < d) : nextDelay strategy base maxDelay attempt true (-1) = none := by
  unfold nextDelay
  simp only [capped, positive, and_self, if_true, int64N]
  rw [if_neg (by omega), Option.map_none]

/-- For the draw `0` it comes out as the delay itself, if at all. -/
theorem nextDelay_zero {d : Int} (capped : cappedDelay strategy base maxDelay attempt = d)
    (positive : 0 < d) (small : d < 2 ^ 63) :
    nextDelay strategy base maxDelay attempt true 0 = if d = 1 then none else some d := by
  have half : 0 < d.tdiv 2 ↔ d ≠ 1 := by
    rw [Int.tdiv_eq_ediv_of_nonneg positive.le]
    omega
  unfold nextDelay
  simp only [capped, positive, and_self, if_true, int64N, half, le_refl, true_and, ite_not]
  split
  · rfl
  · rw [Option.map_some, Int.add_zero]
    unfold wrap64
    congr 1
    omega

/-- A jittered backoff and another one come out in the same way for every draw exactly when they
are the same before jitter, and the other one is jittered or there is nothing to jitter. -/
theorem nextDelay_agree_iff {strategy' : String} {base' maxDelay' d d' : Int} {jitter : Bool}
    (capped : cappedDelay strategy base maxDelay attempt = d)
    (capped' : cappedDelay strategy' base' maxDelay' attempt = d') (whole : d ≠ 1)
    (small : d < 2 ^ 63) (small' : jitter = true → d' < 2 ^ 63) :
    (∀ draw, nextDelay strategy base maxDelay attempt true draw =
        nextDelay strategy' base' maxDelay' attempt jitter draw) ↔
      d' = d ∧ (jitter = true ∨ d ≤ 0) := by
  constructor
  · intro same
    by_cases positive : 0 < d
    · have negative := nextDelay_negative capped positive
      cases jitter with
      | false =>
          have plain := nextDelay_plain capped' false (.inl rfl) (-1)
          rw [← same, negative] at plain
          cases plain
      | true =>
          refine ⟨?_, .inl rfl⟩
          by_cases positive' : 0 < d'
          · have zero := nextDelay_zero capped' positive' (small' rfl)
            rw [← same, nextDelay_zero capped positive small, if_neg whole] at zero
            split at zero
            · cases zero
            · exact (Option.some.inj zero).symm
          · have plain := nextDelay_plain capped' true (.inr (not_lt.mp positive')) (-1)
            rw [← same, negative] at plain
            cases plain
    · have nothing := not_lt.mp positive
      refine ⟨?_, .inr nothing⟩
      by_cases jittered : jitter = true ∧ 0 < d'
      · obtain ⟨rfl, positive'⟩ := jittered
        have negative := nextDelay_negative capped' positive'
        rw [← same, nextDelay_plain capped true (.inr nothing)] at negative
        cases negative
      · have plain' : jitter = false ∨ d' ≤ 0 := by
          rcases Bool.eq_false_or_eq_true jitter with on | off
          · exact .inr (not_lt.mp fun positive' => jittered ⟨on, positive'⟩)
          · exact .inl off
        have plain := nextDelay_plain capped' jitter plain' 0
        rw [← same, nextDelay_plain capped true (.inr nothing)] at plain
        exact (Option.some.inj plain).symm
  · rintro ⟨rfl, alike⟩ draw
    rcases alike with rfl | nothing
    · unfold nextDelay
      rw [capped, capped']
    · rw [nextDelay_plain capped true (.inr nothing), nextDelay_plain capped' jitter (.inr nothing)]

end Backoff

/-! ## Policies that happen to be the default -/

/-- **When a queue's policy governs its jobs.** In every reachable state, and for every failed
execution with attempts left of a job whose queue refers to a policy, the retry runs when the policy
says exactly when the policy's delay before jitter is that of the default backoff, exponential from
five seconds up to an hour, and it is jittered like it. -/
theorem policy_governs_iff {cron : CronParser} {trace : List (World × Action)} {w : World}
    (run : Run (scheduler cron) trace w) {ticket : Nat} {task : Task} {errMsg : String}
    {policy : RetryPolicy} (fails : w.FailsUnder ticket task errMsg policy) :
    w.Governs ticket task policy ↔
      cappedDelay policy.strategy.text policy.baseInterval policy.maxInterval
          (task.job.attempts + 1) = defaultDelay (task.job.attempts + 1) ∧
        (policy.strategy = .exponential ∨ defaultDelay (task.job.attempts + 1) ≤ 0) := by
  have unreferred := (withoutPolicies_throughout run).tasks _ _ fails.taken
  have jitters : decide (policy.strategy.text = "exponential") = true ↔
      policy.strategy = .exponential := by
    cases policy.strategy <;> simp [RetryStrategy.text]
  have small : decide (policy.strategy.text = "exponential") = true →
      cappedDelay policy.strategy.text policy.baseInterval policy.maxInterval
        (task.job.attempts + 1) < 2 ^ 63 := by
    intro exponential
    rw [of_decide_eq_true exponential]
    exact cappedDelay_exponential_lt
  have whole : defaultDelay (task.job.attempts + 1) ≠ 1 :=
    cappedDelay_ne_one (by decide) (by decide) _
  have agree := nextDelay_agree_iff (d := defaultDelay (task.job.attempts + 1)) rfl rfl whole
    cappedDelay_exponential_lt small
  rw [← jitters, ← agree]
  unfold World.Governs
  refine forall_congr' fun draw => ?_
  simp only [World.requeues_iff fails.taken fails.failed fails.live fails.retries unreferred]
  rw [← Option.ext_iff]
  unfold nextRunAt
  have later : Function.Injective fun delay => w.now.toTime + delay :=
    fun _ _ same => add_left_cancel same
  exact (Option.map_injective later).eq_iff

deriving instance DecidableEq for RetryPolicy
deriving instance DecidableEq for Pc

/-- One minute after each failure. -/
def everyMinute : RetryPolicy := ⟨9, "every minute", .fixed, 60000000000, 3600000000000, 3⟩

/-- The default backoff, as a policy. -/
def likeDefault : RetryPolicy := ⟨9, "like default", .exponential, 5000000000, 3600000000000, 3⟩

/-- The job of a queue with policy `9` fails for the first time. -/
def firstFailure : List Action :=
  let queue := { Scenario.queue 3 with retryPolicyId := some 9 }
  ([.api (.createOrg 1 "org" "org"), .api (.createProject 2 1 "project" "project" none),
    .api (.createQueue queue), .api (.createJob 4 (Scenario.request none) queue),
    .register 5 Scenario.config] : List Action) ++ Scenario.take 5 ++
    ([.exec 0 (.call true 0), .exec 0 (.call true 0), .exec 0 .starts,
      .exec 0 (.returns (some "boom")), .exec 0 (.call true 0)] : List Action)

theorem firstFailure_runs {policy : RetryPolicy}
    (known : policy = everyMinute ∨ policy = likeDefault) :
    ∃ trace w task, Run (scheduler Scenario.cron) trace w ∧
      w.FailsUnder 0 task "boom" policy ∧ task.job.attempts = 0 := by
  have executed : ∃ trace w, Run (scheduler Scenario.cron) trace w ∧
      ∃ task ∈ w.tasks 0, task.pc = .logFailed "boom" ∧ w.Live task.worker ∧
        task.job.attempts + 1 < task.job.maxAttempts ∧ policy ∈ w.db.retryPolicies ∧
        (∃ queue ∈ w.db.queues, queue.id = task.job.queueId ∧
          queue.retryPolicyId = some policy.id) ∧ task.job.attempts = 0 := by
    refine exists_run_of_execute (scheduler Scenario.cron) firstFailure (World.start 0 [policy]) _
      ⟨0, [policy], rfl⟩ ?_
    rcases known with rfl | rfl
    · decide
    · decide
  obtain ⟨trace, w, run, task, taken, failed, live, retries, listed, governed, first⟩ := executed
  exact ⟨trace, w, task, run, ⟨taken, failed, live, retries, listed, governed⟩, first⟩

theorem policy_governs_likeDefault :
    ∃ trace w task, Run (scheduler Scenario.cron) trace w ∧
      w.FailsUnder 0 task "boom" likeDefault ∧ w.Governs 0 task likeDefault := by
  obtain ⟨trace, w, task, run, fails, _⟩ := firstFailure_runs (.inr rfl)
  exact ⟨trace, w, task, run, fails, (policy_governs_iff run fails).mpr ⟨rfl, .inl rfl⟩⟩

/-- A job of a queue that asks for one minute is retried after five to seven and a half seconds. -/
theorem policy_ignored :
    ¬ ∀ (cron : CronParser) (trace : List (World × Action)) (w : World),
      Run (scheduler cron) trace w → ∀ (ticket : Nat) (task : Task) (errMsg : String)
      (policy : RetryPolicy), w.FailsUnder ticket task errMsg policy →
        w.Governs ticket task policy := by
  intro always
  obtain ⟨trace, w, task, run, fails, first⟩ := firstFailure_runs (.inl rfl)
  have governs := always _ _ _ run _ _ _ _ fails 0 (w.now.toTime + 60000000000)
  rw [World.requeues_iff fails.taken fails.failed fails.live fails.retries
    ((withoutPolicies_throughout run).tasks _ _ fails.taken), first] at governs
  have minute : nextRunAt w.now.toTime everyMinute.strategy.text everyMinute.baseInterval
      everyMinute.maxInterval (0 + 1) (everyMinute.strategy.text = "exponential") 0 =
        some (w.now.toTime + 60000000000) := rfl
  have seconds := governs.mpr minute
  have early : nextDelay "exponential" 5000000000 3600000000000 (0 + 1) true 0 =
      some 5000000000 := by decide
  rw [nextRunAt, early, Option.map_some, Option.some.injEq] at seconds
  exact absurd (add_left_cancel seconds) (by decide)

end JobScheduler
