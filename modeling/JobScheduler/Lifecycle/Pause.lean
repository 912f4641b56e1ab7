import JobScheduler.System.Queues

/-!
# Pausing a queue

`pollOnce` lists the queues that are not paused and then claims from each of them, with
blocking dispatches in between. `ClaimJobs` locks the queue row but does not look at its
`paused` flag. So a pause takes effect at the next listing, and an engine that listed the
queue before may still claim from it.

A pause of a queue that no live engine has listed is effective: until the queue is resumed
it is not listed again, and no claim takes a job from it.
-/

set_option autoImplicit false

namespace JobScheduler

open Relational Transition

/-- The queues a poll loop still has to claim from. -/
def PollPhase.listed : PollPhase → List UUID
  | .claiming queues => queues
  | .dispatching _ queues => queues
  | _ => []

/-- The queue a `SetPaused(true)` pauses. -/
def Action.pauses? : Action → Option UUID
  | .api (.setPaused id _ true) => some id
  | _ => none

/-- The queue whose `paused` flag a write sets to false: `SetPaused(false)`, or an update
with the flag off. -/
def Action.resumes? : Action → Option UUID
  | .api (.setPaused id _ false) => some id
  | .api (.updateQueue settings _) => if settings.paused then none else some settings.id
  | _ => none

/-- The returns of `ClaimJobs`. -/
def Action.isClaim : Action → Bool
  | .claim .. => true
  | _ => false

namespace World

/-- A live engine has the queue among those it still has to claim from. -/
def Listed (w : World) (queueId : UUID) : Prop :=
  ∃ worker engine, w.engines worker = some engine ∧ engine.status = .running ∧
    queueId ∈ engine.phase.listed

/-- The step is a `ClaimJobs` that moves a job of the queue from `queued` to `claimed`. -/
def Takes (w : World) (queueId : UUID) (a : Action) (w' : World) : Prop :=
  a.isClaim = true ∧
    ∃ row ∈ w.db.jobs, row.queueId = queueId ∧ row.status = .queued ∧
      ∃ row' ∈ w'.db.jobs, row'.id = row.id ∧ row'.status = .claimed

end World

/-- A queue is paused while no live engine has it listed. -/
def PausesUnlisted (w : World) (a : Action) : Prop :=
  ∀ queueId, a.pauses? = some queueId → ¬ w.Listed queueId

namespace World

variable {cron : CronParser} {w w' : World} {a : Action} {queueId : UUID}

/-! ## Listings -/

/-- Replacing an engine by one that lists no more and is live only if it was. -/
theorem listed_of_replaced {worker other : UUID} {engine engine' after : Engine}
    (found : w.engines worker = some engine)
    (found' : Function.update w.engines worker (some engine') other = some after)
    (running : after.status = .running) (member : queueId ∈ after.phase.listed)
    (live : engine'.status = .running → engine.status = .running)
    (fewer : ∀ id ∈ engine'.phase.listed, id ∈ engine.phase.listed) : w.Listed queueId := by
  by_cases same : other = worker
  · subst same
    rw [Function.update_self] at found'
    cases found'
    exact ⟨other, engine, found, live running, fewer _ member⟩
  · rw [Function.update_of_ne same] at found'
    exact ⟨other, after, found', running, member⟩

/-- The moves of `Run` without a store call list nothing new. -/
theorem listed_nextPhase {engine : Engine} {phase : PollPhase}
    (next : w.nextPhase engine = some phase) :
    ∀ id ∈ phase.listed, id ∈ engine.phase.listed := by
  unfold nextPhase at next
  split at next
  next queues before =>
    cases next
    rw [before]
    intro id member
    exact member
  · cases next
    intro id member
    cases member
  · split at next
    · cases next
      intro id member
      cases member
    · cases next
  · split at next
    · cases next
      intro id member
      cases member
    · cases next
  · split at next
    · cases next
      intro id member
      cases member
    · cases next
  · cases next

/-- A queue that is listed after a step was listed before, or is being listed and is not
paused. -/
theorem listed_before (moves : Moves cron w a w') (listed : w'.Listed queueId) :
    w.Listed queueId ∨ ∃ queue ∈ w.db.queues, queue.id = queueId ∧ queue.paused = false := by
  obtain ⟨other, after, found', running', member⟩ := listed
  cases moves with
  | register worker cfg fresh =>
      by_cases same : other = worker
      · subst same
        simp only [setEngine, Function.update_self] at found'
        cases found'
        cases member
      · simp only [setEngine, Function.update_of_ne same] at found'
        exact .inl ⟨other, after, found', running', member⟩
  | poll worker emit engine found running idle =>
      by_cases same : other = worker
      · subst same
        simp only [setEngine, Function.update_self] at found'
        cases found'
        simp only [PollPhase.listed] at member
        obtain ⟨queue, listing, rfl⟩ := List.mem_map.mp member
        have active := (arrange_perm _ _).mem_iff.mp listing
        rw [List.mem_filter] at active
        exact .inr ⟨queue, active.1, rfl, by simpa using active.2⟩
      · simp only [setEngine, Function.update_of_ne same] at found'
        exact .inl ⟨other, after, found', running', member⟩
  | heartbeat worker engine found running =>
      exact .inl (listed_of_replaced found found' running' member id fun _ inside => inside)
  | cancel worker engine found running =>
      refine .inl (listed_of_replaced found found' running' member ?_ fun _ inside => inside)
      intro live
      cases live
  | crash worker engine found =>
      refine .inl (listed_of_replaced found found' running' member ?_ fun _ inside => inside)
      intro live
      cases live
  | claim worker tie emit engine claimed queues db jobs found running phase claims =>
      refine .inl (listed_of_replaced found found' running' member id ?_)
      intro id inside
      rw [phase]
      exact List.mem_cons_of_mem _ inside
  | claimFailed worker tie emit succeeds engine claimed queues found running phase =>
      refine .inl (listed_of_replaced found found' running' member id ?_)
      intro id inside
      rw [phase]
      exact List.mem_cons_of_mem _ inside
  | dispatch worker engine ticket tickets queues task found alive phase =>
      refine .inl (listed_of_replaced found found' running' member id ?_)
      intro id inside
      rw [phase]
      exact inside
  | proceed worker engine phase found alive next =>
      exact .inl (listed_of_replaced found found' running' member id (listed_nextPhase next))
  | release worker succeeds engine found cancelled phase =>
      refine .inl (listed_of_replaced found found' running' member id ?_)
      intro id inside
      cases inside
  | deregister worker succeeds engine found cancelled phase =>
      refine .inl (listed_of_replaced found found' running' member id ?_)
      intro id inside
      cases inside
  | finish ticket task engine taken returned found =>
      exact .inl (listed_of_replaced found found' running' member id fun _ inside => inside)
  | tick | api | sweep | markDead | exec => exact .inl ⟨other, after, found', running', member⟩

/-- A claim takes jobs of a listed queue. -/
theorem listed_of_takes (moves : Moves cron w a w') (wf : WellFormed w)
    (takes : w.Takes queueId a w') : w.Listed queueId := by
  obtain ⟨isClaim, row, member, inQueue, queued, row', member', same, taken⟩ := takes
  have moved : ¬ row' ∈ w.db.jobs := by
    intro old
    have eq := eq_of_key_eq wf.ids old member same
    subst eq
    rw [queued] at taken
    cases taken
  cases moves with
  | claim worker tie emit engine claimed queues db jobs found running phase claims =>
      obtain ⟨targets, claimable, rfl, _⟩ := w.db.claimJobs_spec claims
      rcases cases_mem_update member' with ⟨old, _⟩ | ⟨old, oldMember, target, rfl⟩
      · exact absurd old moved
      · obtain ⟨job, jobMember, sameId, inClaimed, _⟩ := claimable old.id target
        have eq := eq_of_key_eq wf.ids jobMember member (sameId.trans same)
        subst eq
        refine ⟨worker, engine, found, running, ?_⟩
        rw [phase, ← inQueue, inClaimed]
        exact List.mem_cons_self
  | claimFailed => exact absurd member' moved
  | _ => cases isClaim

/-! ## Paused queues -/

/-- The queue is paused and no live engine has it listed. -/
structure Silent (queueId : UUID) (w : World) : Prop where
  catalogued : Catalogued w
  issued : queueId ∈ w.issued
  paused : ∀ queue ∈ w.db.queues, queue.id = queueId → queue.paused = true
  unlisted : ¬ w.Listed queueId

/-- A pause of an unlisted queue silences it. -/
theorem silent_of_pauses (moves : Moves cron w a w') (inv : Catalogued w)
    (pauses : a.pauses? = some queueId) (unlisted : ¬ w.Listed queueId) : Silent queueId w' := by
  have catalogued := catalogued_step moves inv
  rcases step_queues moves with ⟨request, rfl, fresh, effect⟩ | ⟨other, _⟩
  · cases request with
    | setPaused id orgId paused =>
        cases paused with
        | false => cases pauses
        | true =>
            cases pauses
            cases effect with
            | kept _ neither => exact absurd rfl (neither _ _ _)
            | removed _ _ neither => exact absurd rfl (neither _ _ _)
            | added _ creates => cases creates
            | configured _ _ updates => cases updates
            | paused id' orgId' value sets found changed =>
                cases sets
                obtain ⟨queue, member, same, inOrg⟩ := found
                have issued := 
                  issued_mono moves (inv.referential.issuedQueues _ ⟨queue, member, same⟩)
                refine ⟨catalogued, issued, ?_, ?_⟩
                · intro queue' member' same'
                  rw [changed] at member'
                  rcases cases_mem_update member' with ⟨old, spared⟩ | ⟨old, _, _, rfl⟩
                  · -- the row with this id is the one of the organization
                    have eq := eq_of_key_eq inv.queueIds old member (same'.trans same.symm)
                    subst eq
                    exact absurd ⟨same, inOrg⟩ spared
                  · rfl
                · intro listed
                  cases moves with
                  | api => exact unlisted listed
    | _ => cases pauses
  · cases moves with
    | api request => exact absurd rfl (other request)
    | _ => cases pauses

/-- A silent queue stays silent until it is resumed. -/
theorem silent_step (moves : Moves cron w a w') (continues : a.resumes? ≠ some queueId)
    (inv : Silent queueId w) : Silent queueId w' where
  catalogued := catalogued_step moves inv.catalogued
  issued := issued_mono moves inv.issued
  paused := by
    intro queue' member' same'
    rcases step_queues moves with ⟨request, rfl, fresh, effect⟩ | ⟨_, same⟩
    · rcases effect.origin member' with
        ⟨queue, member, sameId, rfl | ⟨settings, orgId, rfl, target, rfl⟩ |
          ⟨orgId, value, rfl, rfl⟩⟩ | drawn
      · exact inv.paused queue' member same'
      · cases flag : settings.paused with
        | true => exact flag
        | false =>
            have resumes : (Action.api (.updateQueue settings orgId)).resumes? =
                some settings.id := by
              simp only [Action.resumes?, flag, Bool.false_eq_true, if_false]
            rw [target.trans same'] at resumes
            exact absurd resumes continues
      · cases value with
        | true => rfl
        | false => exact absurd (congrArg some same') continues
      · rw [same'] at drawn
        exact absurd inv.issued (fresh _ drawn)
    · rw [same] at member'
      exact inv.paused queue' member' same'
  unlisted := by
    intro listed
    rcases listed_before moves listed with before | ⟨queue, member, same, active⟩
    · exact inv.unlisted before
    · rw [inv.paused queue member same] at active
      cases active

end World

/-- **When a pause is effective.** In every run in which queues are paused only while no
live engine has them listed, no `ClaimJobs` after a `SetPaused(true)` on a queue takes a job
from it until a write sets the flag back. -/
theorem pause_effective (cron : CronParser) (later earlier : List (World × Action))
    (s w : World) (pause : Action) (queueId : UUID)
    (run : Run (scheduler cron) (later ++ (s, pause) :: earlier) w)
    (unlisted : Meets PausesUnlisted (later ++ (s, pause) :: earlier))
    (pauses : pause.pauses? = some queueId)
    (paused : Meets (fun _ a => a.resumes? ≠ some queueId) later) :
    ∀ entry ∈ later, ∀ w', entry.1.step cron entry.2 = some w' →
      ¬ entry.1.Takes queueId entry.2 w' := by
  obtain ⟨s', first, path⟩ := Run.split (scheduler cron) run
  have silent : World.Silent queueId s' := by
    cases first with
    | next _ previous taken =>
        have inv := (catalogued_throughout previous).2
        refine World.silent_of_pauses (World.step_moves taken) inv pauses ?_
        exact unlisted _ (List.mem_append_right _ List.mem_cons_self) queueId pauses
  have all : Throughout (World.Silent queueId) later w := by
    refine path.throughout paused silent ?_
    intro x a x' taken continues inv
    exact World.silent_step (World.step_moves taken) continues inv
  intro entry member w' taken takes
  have inv := all.1 entry member
  have wf := inv.catalogued.referential.wellFormed
  exact inv.unlisted (World.listed_of_takes (World.step_moves taken) wf takes)

/-- A pause while no engine lists any queue. -/
theorem pausesUnlisted_of_empty {w : World} (wf : WellFormed w) {a : Action}
    (empty : ∀ worker ∈ w.issued, ∀ engine ∈ w.engines worker, engine.phase.listed = []) :
    PausesUnlisted w a := by
  rintro queueId _ ⟨worker, engine, found, _, member⟩
  rw [empty worker (wf.enrolled worker engine found) engine found] at member
  cases member

/-- The queue is paused before the first poll, which lists nothing. -/
theorem pause_effective_unlisted :
    ∃ later earlier s pause w,
      Run (scheduler Scenario.cron) (later ++ (s, pause) :: earlier) w ∧
      pause.pauses? = some 3 ∧ ∀ entry ∈ later, ∀ w', entry.1.step Scenario.cron entry.2 = some w' →
        ¬ entry.1.Takes 3 entry.2 w' := by
  obtain ⟨trace, w, run, ⟨⟨s, pause⟩, member, pauses⟩, continues, empty⟩ :=
    exists_run_of_execute (scheduler Scenario.cron)
      (Scenario.deployed ++ ([.api (.setPaused 3 1 true), .poll 5 fun _ => 0] : List Action))
      (World.start 0 [])
      (fun trace _ => (∃ entry ∈ trace, entry.2.pauses? = some 3) ∧
        (∀ entry ∈ trace, entry.2.resumes? ≠ some 3) ∧
        ∀ entry ∈ trace, ∀ worker ∈ entry.1.issued, ∀ engine ∈ entry.1.engines worker,
          engine.phase.listed = [])
      ⟨0, [], rfl⟩ (by decide)
  obtain ⟨later, earlier, rfl⟩ := List.append_of_mem member
  have wf := wellFormed_throughout run
  have unlisted : Meets PausesUnlisted (later ++ (s, pause) :: earlier) :=
    fun entry inside => pausesUnlisted_of_empty (wf.1 entry inside) (empty entry inside)
  have paused : Meets (fun _ a => a.resumes? ≠ some 3) later :=
    fun entry inside => continues entry (List.mem_append_left _ inside)
  exact ⟨later, earlier, s, pause, w, run, pauses,
    pause_effective Scenario.cron later earlier s w pause 3 run unlisted pauses paused⟩

/-- The last two steps pause the queue and claim a job of it. -/
def ClaimedWhilePaused (queueId : UUID) (w : World) : List (World × Action) → Prop
  | claim :: pause :: _ =>
      pause.2.pauses? = some queueId ∧ claim.2.isClaim = true ∧
        claim.2.resumes? ≠ some queueId ∧ ∃ row ∈ claim.1.db.jobs, row.queueId = queueId ∧
          row.status = .queued ∧ ∃ row' ∈ w.db.jobs, row'.id = row.id ∧ row'.status = .claimed
  | _ => False

instance (queueId : UUID) (w : World) :
    ∀ trace, Decidable (ClaimedWhilePaused queueId w trace)
  | [] => isFalse id
  | [_] => isFalse id
  | _ :: _ :: _ => inferInstanceAs (Decidable (_ ∧ _ ∧ _ ∧ _))

/-- The worker has listed the queue when it is paused, and claims from it afterwards. -/
theorem paused_queue_claimed :
    ¬ ∀ (cron : CronParser) (later earlier : List (World × Action)) (s w : World)
      (pause : Action) (queueId : UUID),
      Run (scheduler cron) (later ++ (s, pause) :: earlier) w →
      pause.pauses? = some queueId → Meets (fun _ a => a.resumes? ≠ some queueId) later →
      ∀ entry ∈ later, ∀ w', entry.1.step cron entry.2 = some w' →
        ¬ entry.1.Takes queueId entry.2 w' := by
  intro always
  obtain ⟨trace, w, run, check⟩ :=
    exists_run_of_execute (scheduler Scenario.cron)
      (Scenario.deployed ++ ([.poll 5 fun _ => 0, .api (.setPaused 3 1 true),
        .claim 5 (fun _ => 0) (fun _ => 0) true] : List Action))
      (World.start 0 []) (fun trace w => ClaimedWhilePaused 3 w trace)
      ⟨0, [], rfl⟩ (by decide)
  cases trace with
  | nil => exact check.elim
  | cons last before =>
      obtain ⟨s₂, claim⟩ := last
      cases before with
      | nil => exact check.elim
      | cons entry earlier =>
          obtain ⟨s₁, pause⟩ := entry
          obtain ⟨pauses, isClaim, continues, taken⟩ := check
          cases run with
          | next _ previous step =>
              refine always _ [(s₂, claim)] earlier s₁ w pause 3 (previous.next _ step) pauses ?_
                (s₂, claim) List.mem_cons_self w step ⟨isClaim, taken⟩
              simpa [Meets] using continues

end JobScheduler
