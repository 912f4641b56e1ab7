import JobScheduler.Dashboard.Deployment
import JobScheduler.Dashboard.Integrity

/-!
# Retries of the dashboard

`RetryDLQJob` resets a job only when it is dead, in one transaction, and answers `404`
otherwise. The dashboard deletes the dead letters of the job and then resets it, in two
statements that look at the status of the job in neither. So a retry does what it should exactly
when the job happens to be dead at the moment of the update, whatever the ticks do meanwhile.
-/

set_option autoImplicit false

namespace JobScheduler

open Relational Transition

namespace Dashboard

/-- A retry of a job of the caller that is not dead at the moment of the update is answered with
`404`, and neither the job nor the dead letters changed. -/
def RetrySpares (s s' : Deployment) (a : Action) : Prop :=
  ∀ i p orgId jobId letters, a = .requeue i →
    s.retries[i]? = some ⟨p, orgId, jobId, .deleted letters⟩ →
    ∀ job ∈ s.site.jobs, job.id = jobId → s.site.QueueIdOf orgId job.queueId →
      job.status ≠ .deadLetter →
        letters = [] ∧ s'.site.letters = s.site.letters ∧ s'.site.jobs = s.site.jobs ∧
          ∃ response, s'.retries[i]? = some ⟨p, orgId, jobId, .answered letters response⟩ ∧
            response.status = 404

/-- At the moment of the update the job is dead. -/
def RetriesDead (s : Deployment) (a : Action) : Prop :=
  ∀ i p orgId jobId letters, a = .requeue i →
    s.retries[i]? = some ⟨p, orgId, jobId, .deleted letters⟩ →
    ∀ job ∈ s.site.jobs, job.id = jobId → s.site.QueueIdOf orgId job.queueId →
      job.status = .deadLetter

variable {env : Env} {message : Json → String} {s s' : Deployment} {a : Action}

/-- The dashboard answers `404` only when the caller has no such job. -/
theorem retryResponse_status {orgId jobId : UUID} {job : Job} (member : job ∈ s.site.jobs)
    (same : job.id = jobId) (own : s.site.QueueIdOf orgId job.queueId) :
    (s.retryResponse env orgId jobId).status ≠ 404 := by
  unfold Deployment.retryResponse
  cases found : s.retried orgId jobId with
  | none => exact absurd (decide_eq_true ⟨same, own⟩) (List.find?_eq_none.mp found job member)
  | some row =>
      simp only
      cases mapJob env.parseJson (row.retryDLQ s.now) with
      | error text => exact Response.caught_status text
      | ok row => simp

/-- The update of a retry, in the state it finds. -/
theorem retrySpares_iff (taken : s.step env message a = some s') :
    RetrySpares s s' a ↔ RetriesDead s a := by
  constructor
  · intro spares i p orgId jobId letters requeues found job member same own
    subst requeues
    by_contra alive
    obtain ⟨_, _, _, response, answered, missing⟩ :=
      spares i p orgId jobId letters rfl found job member same own alive
    simp only [Deployment.step, found] at taken
    cases taken
    rw [List.getElem?_set_self (List.getElem?_eq_some_iff.mp found).1] at answered
    cases answered
    exact retryResponse_status member same own missing
  · intro dead i p orgId jobId letters requeues found job member same own alive
    exact absurd (dead i p orgId jobId letters requeues found job member same own) alive

/-- **When retries respect the life cycle.** In every run, with whatever ticks in between, the
retries leave alone what is not dead exactly when each of them comes upon a dead job. -/
theorem retries_spare_iff {trace : List (Deployment × Action)} {last : Deployment}
    (run : Run (deployments env message) trace last) :
    Meets (fun s a => ∃ s', s.step env message a = some s' ∧ RetrySpares s s' a) trace ↔
      Meets RetriesDead trace := by
  constructor
  · intro spares entry listed
    obtain ⟨s', taken, spared⟩ := spares entry listed
    exact (retrySpares_iff taken).mp spared
  · intro dead entry listed
    obtain ⟨_, _, _, s', taken⟩ := run.before listed
    exact ⟨s', taken, (retrySpares_iff taken).mpr (dead entry listed)⟩

/-! ## Two retries -/

/-- A job that may be tried once, and whose handler fails. -/
def failingSite (maxAttempts : Int) : Site := oneQueue (some 1) [dueJob 2 maxAttempts .null]

theorem failingSite_initial (maxAttempts : Int) : (atRest (failingSite maxAttempts)).Initial :=
  ⟨List.nodup_singleton 2, List.nodup_singleton 100, rfl, rfl, rfl, rfl⟩

/-- The retry comes when the tick has given the job up. -/
def retryAfterFailure : List Action :=
  .cron 0 :: statements 0 14 ++ [.retry 0 1 2, .deleteLetters 0, .requeue 0]

theorem retries_spare_iff_afterFailure :
    ∃ trace last, Run (deployments stubEnv fun _ => "") trace last ∧ trace.length = 18 ∧
      (∀ job ∈ last.site.jobs, job.status = .queued ∧ job.attempts = 0) ∧
      Meets (fun s a => ∃ s', s.step stubEnv (fun _ => "") a = some s' ∧ RetrySpares s s' a)
        trace := by
  obtain ⟨trace, last, run, length, queued, dead⟩ :=
    exists_run_of_execute (deployments stubEnv fun _ => "") retryAfterFailure
      (atRest (failingSite 1))
      (fun trace last => trace.length = 18 ∧
        (∀ job ∈ last.site.jobs, job.status = .queued ∧ job.attempts = 0) ∧
        ∀ entry ∈ trace, ∀ retry ∈ entry.1.retries, ∀ job ∈ entry.1.site.jobs,
          job.status = .deadLetter) (failingSite_initial 1) (by decide)
  refine ⟨trace, last, run, length, queued, (retries_spare_iff run).mpr ?_⟩
  intro entry listed i p orgId jobId letters _ found job member _ _
  exact dead entry listed _ (List.mem_of_getElem? found) job member

/-- The tick is in the handler when the retry has deleted the dead letters. -/
def retryInHandler : List Action :=
  .cron 0 :: statements 0 11 ++ [.retry 0 1 2, .deleteLetters 0]

/-- The only retry is about to update a running job of its caller. -/
def retryingRunning (s : Deployment) : Bool :=
  match s.retries with
  | [⟨_, orgId, jobId, .deleted _⟩] =>
      decide (∃ job ∈ s.site.jobs, job.id = jobId ∧ s.site.QueueIdOf orgId job.queueId ∧
        job.status = .running)
  | _ => false

/-- A running job is requeued. -/
theorem running_job_requeued :
    ¬ ∀ (trace : List (Deployment × Action)) (last : Deployment),
      Run (deployments stubEnv fun _ => "") trace last →
      Meets (fun s a => ∃ s', s.step stubEnv (fun _ => "") a = some s' ∧ RetrySpares s s' a)
        trace := by
  intro always
  obtain ⟨trace, last, run, running⟩ :=
    exists_run_of_execute (deployments stubEnv fun _ => "") retryInHandler
      (atRest (failingSite 3)) (fun _ last => retryingRunning last = true)
      (failingSite_initial 3) (by decide)
  unfold retryingRunning at running
  split at running
  next p orgId jobId letters only =>
    obtain ⟨job, member, same, own, isRunning⟩ := of_decide_eq_true running
    have found : last.retries[0]? = some ⟨p, orgId, jobId, .deleted letters⟩ := by
      rw [only]
      rfl
    cases taken : last.step stubEnv (fun _ => "") (.requeue 0) with
    | none =>
        simp only [Deployment.step, found] at taken
        cases taken
    | some next =>
        have longer : Run (deployments stubEnv fun _ => "") ((last, .requeue 0) :: trace) next :=
          .next _ run taken
        obtain ⟨s', taken', spared⟩ := always _ next longer _ List.mem_cons_self
        have dead := (retrySpares_iff taken').mp spared 0 p orgId jobId letters rfl found job
          member same own
        rw [isRunning] at dead
        cases dead
  · cases running

end Dashboard

end JobScheduler
