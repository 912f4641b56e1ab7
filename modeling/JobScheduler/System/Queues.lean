import JobScheduler.System.References

/-!
# How a step changes the queues

Only API requests write the table `queues`. A request leaves it as it is, deletes rows,
adds one, updates the settings of one, or sets its `paused` flag (`perform_queues`). The
identifiers of the queues stay distinct, since new ones are drawn afresh.
-/

set_option autoImplicit false

namespace JobScheduler

open Relational Transition

/-- The `SET` list of `QueueRepository.Update`. -/
def Queue.configure (now : Timestamptz) (settings queue : Queue) : Queue :=
  { queue with
    name := settings.name
    slug := settings.slug
    retryPolicyId := settings.retryPolicyId
    priorityDefault := settings.priorityDefault
    concurrencyLimit := settings.concurrencyLimit
    paused := settings.paused
    updatedAt := now }

/-- The `SET` list of `QueueRepository.SetPaused`. -/
def Queue.pause (now : Timestamptz) (paused : Bool) (queue : Queue) : Queue :=
  { queue with paused := paused, updatedAt := now }

/-- The table `queues` after a request. -/
inductive QueueEffect (now : Timestamptz) (db : Database) (request : Request)
    (queues : List Queue) : Prop where
  | kept (same : queues = db.queues)
      (neither : ∀ id orgId paused, request ≠ .setPaused id orgId paused)
  | removed (gone : List UUID) (rest : queues = db.queues.filter (·.id ∉ gone))
      (neither : ∀ id orgId paused, request ≠ .setPaused id orgId paused)
  | added (queue : Queue) (creates : request = .createQueue queue)
      (more : queues = db.queues ++ [{ queue with createdAt := now, updatedAt := now }])
  | configured (settings : Queue) (orgId : UUID) (updates : request = .updateQueue settings orgId)
      (changed : queues = update (fun q => q.id = settings.id ∧ db.QueueInOrg orgId q)
        (Queue.configure now settings) db.queues)
  | paused (id orgId : UUID) (paused : Bool) (sets : request = .setPaused id orgId paused)
      (found : ∃ q ∈ db.queues, q.id = id ∧ db.QueueInOrg orgId q)
      (changed : queues = update (fun q => q.id = id ∧ db.QueueInOrg orgId q)
        (Queue.pause now paused) db.queues)

variable {cron : CronParser} {now : Timestamptz} {db db' : Database} {request : Request}

/-- **The queues after a request.** -/
theorem perform_queues (performs : request.perform cron now db = some db') :
    QueueEffect now db request db'.queues := by
  cases request with
  | createQueue queue =>
      obtain ⟨_, _, _, _, rfl⟩ := Database.createQueue_spec (toOption_eq_some performs)
      exact .added queue rfl rfl
  | updateQueue settings orgId =>
      obtain ⟨_, _, _, _, rfl⟩ := Database.updateQueue_spec (toOption_eq_some performs)
      exact .configured settings orgId rfl rfl
  | setPaused id orgId value =>
      obtain ⟨found, rfl⟩ := Database.setPaused_spec (toOption_eq_some performs)
      exact .paused id orgId value rfl found rfl
  | createOrg id name slug =>
      obtain ⟨_, rfl⟩ := Database.createOrg_spec (toOption_eq_some performs)
      exact .kept rfl (by simp)
  | updateOrg id name slug =>
      obtain ⟨_, _, rfl⟩ := Database.updateOrg_spec (toOption_eq_some performs)
      exact .kept rfl (by simp)
  | createProject id orgId name slug description =>
      obtain ⟨_, _, rfl⟩ := Database.createProject_spec (toOption_eq_some performs)
      exact .kept rfl (by simp)
  | updateProject id orgId name slug description =>
      obtain ⟨_, _, rfl⟩ := Database.updateProject_spec (toOption_eq_some performs)
      exact .kept rfl (by simp)
  | deleteOrg id =>
      obtain ⟨_, rfl⟩ := Database.deleteOrg_spec (toOption_eq_some performs)
      exact .removed _ rfl (by simp)
  | deleteProject id orgId =>
      obtain ⟨_, rfl⟩ := Database.deleteProject_spec (toOption_eq_some performs)
      exact .removed _ rfl (by simp)
  | deleteQueue id orgId =>
      obtain ⟨_, rfl⟩ := Database.deleteQueue_spec (toOption_eq_some performs)
      exact .removed _ rfl (by simp)
  | createJob id req queue =>
      simp only [Request.perform] at performs
      split at performs
      · cases performs
      next input builds =>
        obtain ⟨⟨final, result⟩, creates, rfl⟩ := Option.map_eq_some_iff.mp performs
        obtain ⟨rows, same, _⟩ :=
          createJob_rows (buildJobInput_fromApi builds) (toOption_eq_some creates)
        subst same
        exact .kept rfl (by simp)
  | createBatch batchId jobs queue =>
      simp only [Request.perform] at performs
      split at performs
      · cases performs
      · split at performs
        · cases performs
        next inputs builds =>
          obtain ⟨⟨final, results⟩, creates, rfl⟩ := Option.map_eq_some_iff.mp performs
          obtain ⟨rows, same, _⟩ :=
            createJobBatch_rows inputs (buildBatch_spec builds).1 (toOption_eq_some creates)
          subst same
          exact .kept rfl (by simp)
  | retryDLQJob id orgId =>
      obtain ⟨⟨final, job⟩, retries, rfl⟩ := Option.map_eq_some_iff.mp performs
      obtain ⟨_, same⟩ := db.retryDLQJob_spec (toOption_eq_some retries)
      subst same
      exact .kept rfl (by simp)

/-- A queue after a request was there before under the same id, or is the new one. -/
theorem QueueEffect.origin {queues : List Queue} (effect : QueueEffect now db request queues)
    {queue' : Queue} (member : queue' ∈ queues) :
    (∃ queue ∈ db.queues, queue.id = queue'.id ∧
      (queue' = queue ∨
        (∃ settings orgId, request = .updateQueue settings orgId ∧ settings.id = queue.id ∧
          queue' = Queue.configure now settings queue) ∨
        ∃ orgId paused, request = .setPaused queue.id orgId paused ∧
          queue' = queue.pause now paused)) ∨
      queue'.id ∈ request.drawn := by
  cases effect with
  | kept same =>
      rw [same] at member
      exact .inl ⟨queue', member, rfl, .inl rfl⟩
  | removed gone rest =>
      rw [rest] at member
      exact .inl ⟨queue', List.mem_of_mem_filter member, rfl, .inl rfl⟩
  | added queue creates more =>
      subst creates
      rw [more] at member
      rcases List.mem_append.mp member with member | member
      · exact .inl ⟨queue', member, rfl, .inl rfl⟩
      · rw [List.mem_singleton] at member
        subst member
        exact .inr (List.mem_singleton.mpr rfl)
  | configured settings orgId updates changed =>
      rw [changed] at member
      rcases cases_mem_update member with ⟨old, _⟩ | ⟨queue, old, selected, rfl⟩
      · exact .inl ⟨queue', old, rfl, .inl rfl⟩
      · exact .inl ⟨queue, old, rfl,
          .inr (.inl ⟨settings, orgId, updates, selected.1.symm, rfl⟩)⟩
  | paused id orgId value sets found changed =>
      rw [changed] at member
      rcases cases_mem_update member with ⟨old, _⟩ | ⟨queue, old, ⟨rfl, _⟩, rfl⟩
      · exact .inl ⟨queue', old, rfl, .inl rfl⟩
      · exact .inl ⟨queue, old, rfl, .inr (.inr ⟨orgId, value, sets, rfl⟩)⟩

/-- A request keeps the identifiers of the queues distinct. -/
theorem QueueEffect.nodup {queues : List Queue} (effect : QueueEffect now db request queues)
    (unique : (db.queues.map (·.id)).Nodup)
    (fresh : ∀ id ∈ request.drawn, ¬ db.HasQueue id) : (queues.map (·.id)).Nodup := by
  cases effect with
  | kept same =>
      rw [same]
      exact unique
  | removed gone rest =>
      rw [rest]
      exact nodup_map_filter unique _
  | added queue creates more =>
      subst creates
      rw [more, List.map_append, List.nodup_append]
      refine ⟨unique, List.nodup_singleton _, ?_⟩
      intro id old other new same
      obtain ⟨row, member, rowId⟩ := List.mem_map.mp old
      apply fresh queue.id (List.mem_singleton.mpr rfl)
      refine ⟨row, member, ?_⟩
      rw [rowId, same]
      exact List.mem_singleton.mp new
  | configured settings orgId _ changed =>
      rw [changed]
      exact nodup_map_update (fun _ => rfl) unique
  | paused id orgId value _ _ changed =>
      rw [changed]
      exact nodup_map_update (fun _ => rfl) unique

namespace World

variable {w w' : World} {a : Action}

/-- **The queues after a step.** -/
theorem step_queues (moves : Moves cron w a w') :
    (∃ request, a = .api request ∧ (∀ id ∈ request.drawn, id ∉ w.issued) ∧
      QueueEffect w.now w.db request w'.db.queues) ∨
    (∀ request, a ≠ .api request) ∧ w'.db.queues = w.db.queues := by
  cases moves with
  | api request db nodup fresh performs =>
      exact .inl ⟨request, rfl, fresh, perform_queues performs⟩
  | claim worker tie emit engine queueId queues db jobs found running phase claims =>
      obtain ⟨targets, _, rfl, _⟩ := w.db.claimJobs_spec claims
      exact .inr ⟨by simp, rfl⟩
  | release worker succeeds => cases succeeds <;> exact .inr ⟨by simp, rfl⟩
  | deregister worker succeeds => cases succeeds <;> exact .inr ⟨by simp, rfl⟩
  | exec ticket response task engine db pc event taken found alive permitted advances =>
      refine .inr ⟨by simp, ?_⟩
      cases advance_effect advances with
      | spared same => exact same.queues
      | written => rfl
  | tick | sweep | markDead | register | heartbeat | cancel | crash | poll | claimFailed
  | dispatch | proceed | finish => exact .inr ⟨by simp, rfl⟩

/-- The identifiers of the queues stay distinct. -/
theorem step_queueIds (moves : Moves cron w a w') (inv : Referential w)
    (unique : (w.db.queues.map (·.id)).Nodup) : (w'.db.queues.map (·.id)).Nodup := by
  rcases step_queues moves with ⟨request, _, fresh, effect⟩ | ⟨_, same⟩
  · refine effect.nodup unique ?_
    intro id drawn exists'
    exact fresh id drawn (inv.issuedQueues id exists')
  · rw [same]
    exact unique

/-- Referential integrity with distinct queue identifiers. -/
structure Catalogued (w : World) : Prop where
  referential : Referential w
  queueIds : (w.db.queues.map (·.id)).Nodup

theorem catalogued_step (moves : Moves cron w a w') (inv : Catalogued w) : Catalogued w' where
  referential := referential_step moves inv.referential
  queueIds := step_queueIds moves inv.referential inv.queueIds

end World

/-- Every state of a run is catalogued. -/
theorem catalogued_throughout {trace : List (World × Action)} {w : World}
    (run : Run (scheduler cron) trace w) : Throughout World.Catalogued trace w := by
  have free : Meets (fun _ _ => True) trace := fun _ _ => trivial
  refine run.throughout free ?_ ?_
  · rintro s ⟨now, policies, rfl⟩
    exact ⟨World.referential_start now policies, List.nodup_nil⟩
  · intro s a s' taken _ inv
    exact World.catalogued_step (World.step_moves taken) inv

end JobScheduler
