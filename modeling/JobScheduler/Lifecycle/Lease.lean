import JobScheduler.Lifecycle.Ownership

/-!
# Heartbeats protect live work

Leases are renewed by a match on the worker's id and the status only, and jobs are claimed
between two heartbeats. Still the lease of every active job of a live engine reaches at
least one lease period past the engine's last heartbeat. So a sweep that finds every live
engine's heartbeat younger than its lease period reclaims no job that a live engine holds.

The argument is a joint induction: the lease bound needs exclusive ownership (else a late
`SetJobRunning` could bring an old lease back), and ownership needs the sweeps to be
timely, which is what the bound gives.
-/

set_option autoImplicit false

namespace JobScheduler

open Relational Transition

/-- When a sweep executes, the last heartbeat of every live engine is younger than its
lease period. -/
def FreshHeartbeats (w : World) : Action → Prop
  | .sweep => ∀ worker engine, w.engines worker = some engine → engine.status = .running →
      w.now < engine.lastBeat + intervalSeconds engine.cfg.leaseSeconds
  | _ => True

/-- The lease of a row reaches a lease period past the engine's last heartbeat. -/
def Job.Covered (row : Job) (engine : Engine) : Prop :=
  ∃ lease ∈ row.leaseExpiresAt,
    engine.lastBeat + intervalSeconds engine.cfg.leaseSeconds ≤ lease

/-- Clock, heartbeats and leases. -/
structure Protected (w : World) : Prop where
  undisturbed : w.Undisturbed
  beats : ∀ worker engine, w.engines worker = some engine → engine.lastBeat ≤ w.now
  covered : ∀ row ∈ w.db.jobs, row.status.Active → ∀ worker, row.workerId = some worker →
    ∀ engine, w.engines worker = some engine → engine.status = .running → row.Covered engine

namespace World

variable {cron : CronParser} {w w' : World} {a : Action}

theorem step_beats (moves : Moves cron w a w') (inv : Protected w) {worker : UUID}
    {engine' : Engine} (found' : w'.engines worker = some engine') :
    engine'.lastBeat ≤ w'.now := by
  have later := now_mono moves
  cases step_engines moves found' with
  | registered => exact later
  | kept found cfg status beat =>
      have before := inv.beats _ _ found
      rcases beat with ⟨same, _⟩ | ⟨same, _⟩
      · rw [same]
        exact le_trans before later
      · rw [same]
        exact later

/-- A lease is kept, or set one lease period from now. -/
theorem RowStep.covered (inv : Protected w) {row row' : Job} (member : row ∈ w.db.jobs)
    (change : RowStep w a row row') (active : row'.status.Active) {worker : UUID}
    (owner : row'.workerId = some worker) {engine engine' : Engine}
    (found : w.engines worker = some engine) (running : engine.status = .running)
    (cfg : engine'.cfg = engine.cfg)
    (beat : engine'.lastBeat = engine.lastBeat ∧ a ≠ .heartbeat worker ∨
      engine'.lastBeat = w.now ∧ a = .heartbeat worker) : row'.Covered engine' := by
  have past := inv.beats worker engine found
  have carry : row.status.Active → row.workerId = some worker →
      engine'.lastBeat = engine.lastBeat → row.Covered engine' := by
    intro active owner same
    obtain ⟨lease, set, reaches⟩ := inv.covered row member active worker owner engine found running
    refine ⟨lease, set, ?_⟩
    rw [same, cfg]
    exact reaches
  cases change with
  | kept spared =>
      rcases beat with ⟨same, _⟩ | ⟨_, rfl⟩
      · exact carry active owner same
      · exact absurd ⟨owner, active⟩ spared
  | claimed found₀ =>
      cases owner
      rw [found] at found₀
      cases found₀
      refine ⟨_, rfl, ?_⟩
      rw [cfg]
      rcases beat with ⟨same, _⟩ | ⟨_, impossible⟩
      · rw [same]
        exact Int.add_le_add_right past _
      · cases impossible
  | @written ticket draw task rewrite _ taken live writes own =>
      have same : engine'.lastBeat = engine.lastBeat := by
        rcases beat with ⟨same, _⟩ | ⟨_, impossible⟩
        · exact same
        · cases impossible
      -- the writer owns the row, so the row was claimed and its lease counted before
      have fits := (inv.undisturbed.writer_possesses taken live writes member own).fits
      obtain ⟨point, rfl⟩ := Pc.setRunning_of_rewrite writes active
      rw [point] at fits
      exact carry (.inl fits.1) owner same
  | renewed found₀ _ renews =>
      have eq := Option.some.inj (renews.1.symm.trans owner)
      subst eq
      rw [found] at found₀
      cases found₀
      refine ⟨_, rfl, ?_⟩
      rw [cfg]
      rcases beat with ⟨_, impossible⟩ | ⟨same, _⟩
      · exact absurd rfl impossible
      · rw [same]
  | released => cases owner
  | reclaimed => cases owner
  | retried => cases owner

theorem step_covered (moves : Moves cron w a w') (inv : Protected w) {row' : Job}
    (member' : row' ∈ w'.db.jobs) (active : row'.status.Active) {worker : UUID}
    (owner : row'.workerId = some worker) {engine' : Engine}
    (found' : w'.engines worker = some engine') (running' : engine'.status = .running) :
    row'.Covered engine' := by
  have wf := inv.undisturbed.exclusive.wellFormed
  rcases step_rows moves wf.ids member' with ⟨row, member, change⟩ | new
  · cases step_engines moves found' with
    | registered _ fresh =>
        obtain ⟨engine, found⟩ := change.owned wf member owner
        exact absurd (wf.enrolled worker engine found) fresh
    | kept found cfg status beat =>
        exact change.covered inv member active owner found (status.alive running') cfg beat
  · rw [new.waiting.unowned] at owner
    cases owner

/-- Fresh heartbeats make a sweep timely. -/
theorem timely_of_fresh (inv : Protected w) (fresh : FreshHeartbeats w a) : Timely w a := by
  cases a with
  | sweep =>
      intro ticket task taken holds row member own orphaned
      have has := inv.undisturbed.possesses taken holds member own
      obtain ⟨engine, found, running⟩ := holds.2
      obtain ⟨lease, set, reaches⟩ :=
        inv.covered row member orphaned.1 task.worker has.owner engine found running
      obtain ⟨active, lease', set', passed⟩ := orphaned
      have same : lease = lease' := Option.some.inj (set.symm.trans set')
      have young := fresh task.worker engine found running
      rw [← same] at passed
      exact lt_asymm passed (lt_of_lt_of_le young reaches)
  | _ => trivial

/-- **Protection is kept by every step with fresh heartbeats.** -/
theorem protected_step (moves : Moves cron w a w') (fresh : FreshHeartbeats w a)
    (inv : Protected w) : Protected w' where
  undisturbed := undisturbed_step moves (timely_of_fresh inv fresh) inv.undisturbed
  beats _ _ found' := step_beats moves inv found'
  covered _ member' active _ owner _ found' running' :=
    step_covered moves inv member' active owner found' running'

end World

/-- **Heartbeats protect live work.** If at every sweep of a run the last heartbeat of each
live engine is younger than its lease period, then no sweep of the run reclaims a job that a
live engine holds. -/
theorem heartbeats_protect (cron : CronParser) (trace : List (World × Action)) (w : World)
    (run : Run (scheduler cron) trace w) (fresh : Meets FreshHeartbeats trace) :
    Meets Timely trace := by
  rintro ⟨s, a⟩ member
  have inv : Protected s := by
    refine run.invariant_before fresh ?_ ?_ member
    · rintro s ⟨now, policies, rfl⟩
      refine ⟨World.undisturbed_start now policies, ?_, ?_⟩
      · intro _ _ found
        cases found
      · intro _ member
        cases member
    · intro s a s' taken fresh inv
      exact World.protected_step (World.step_moves taken) fresh inv
  exact World.timely_of_fresh inv (fresh _ member)

/-- A job outlives its first lease while its worker keeps sending heartbeats. -/
def longHandler : List Action :=
  Scenario.deployed ++ Scenario.take 5 ++
    ([.exec 0 (.call true 0), .exec 0 (.call true 0), .exec 0 .starts, .tick 20000000,
      .heartbeat 5, .tick 20000000, .sweep] : List Action)

theorem heartbeats_protect_longHandler :
    ∃ trace w, Run (scheduler Scenario.cron) trace w ∧
      (∃ row ∈ w.db.jobs, row.status = .running ∧ row.claimedAt = some 0) ∧
      w.now = intervalSeconds 40 ∧ Meets Timely trace := by
  obtain ⟨trace, w, run, held, late, fresh⟩ :=
    exists_run_of_execute (scheduler Scenario.cron) longHandler (World.start 0 [])
      (fun trace w => (∃ row ∈ w.db.jobs, row.status = .running ∧ row.claimedAt = some 0) ∧
        w.now = intervalSeconds 40 ∧
        ∀ entry ∈ trace, entry.2.isSweep → entry.1.issued.all fun worker =>
          (entry.1.engines worker).all fun engine => engine.status = .running →
            entry.1.now < engine.lastBeat + intervalSeconds engine.cfg.leaseSeconds)
      ⟨0, [], rfl⟩ (by decide)
  refine ⟨trace, w, run, held, late, heartbeats_protect _ trace w run ?_⟩
  intro entry member
  unfold FreshHeartbeats
  split
  next sweeps =>
    intro worker engine found running
    have issued := ((wellFormed_throughout run).1 entry member).enrolled worker engine found
    have checked := List.all_eq_true.mp (fresh entry member (by rw [sweeps]; rfl)) worker issued
    rw [found] at checked
    exact of_decide_eq_true checked running
  · trivial

end JobScheduler
