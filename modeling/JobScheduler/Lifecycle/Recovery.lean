import JobScheduler.Lifecycle.CrashRecovery
import JobScheduler.Lifecycle.Ownership

/-!
# Recovery in time

A sweep leaves no active row with a lease that has passed, and a lease is set one lease period
ahead of the clock by an engine that runs. So the leases of the active rows of a timely run reach
the last sweep at least, and those of an engine that no longer runs end one lease period after it
stopped: when a lease period and the interval between two sweeps have gone by, the reaper has taken
back all its jobs.
-/

set_option autoImplicit false

namespace JobScheduler

open Relational Transition

/-- The clock at the last sweep of a trace, or at the start of the run. -/
def sweptAt : List (World × Action) → World → Timestamptz
  | [], w => w.now
  | (s, a) :: earlier, _ => if a.isSweep then s.now else sweptAt earlier s

/-- The configuration of an engine that starts. -/
def Action.config? : Action → Option Config
  | .register _ cfg => some cfg
  | _ => none

/-- An engine that starts asks for leases that do not end before they start: its `LEASE_SECONDS` is
not negative. -/
def LeasesAhead (_ : World) (a : Action) : Prop :=
  ∀ cfg ∈ a.config?, 0 ≤ cfg.leaseSeconds

/-- A lease of the worker, whatever the status of the row, ends by then. -/
def LeasesEndBy (w : World) (worker : UUID) (bound : Timestamptz) : Prop :=
  ∀ row ∈ w.db.jobs, row.workerId = some worker → ∀ lease ∈ row.leaseExpiresAt, lease ≤ bound

/-- The engine of the worker runs no more, and its leases end by then. -/
structure Retired (worker : UUID) (bound : Timestamptz) (w : World) : Prop where
  wellFormed : WellFormed w
  stopped : ∃ engine, w.engines worker = some engine ∧ engine.status ≠ .running
  ends : LeasesEndBy w worker bound

/-- What clock, sweeps and leases have to do with each other. -/
structure Reclaiming (swept : Timestamptz) (w : World) : Prop where
  undisturbed : w.Undisturbed
  past : swept ≤ w.now
  ahead : ∀ worker engine, w.engines worker = some engine → 0 ≤ engine.cfg.leaseSeconds
  reach : ∀ row ∈ w.db.jobs, row.status.Active → ∀ lease ∈ row.leaseExpiresAt, swept ≤ lease
  leases : ∀ worker engine, w.engines worker = some engine →
    LeasesEndBy w worker (w.now + intervalSeconds engine.cfg.leaseSeconds)

/-- An execution keeps the worker and the lease of a row, or clears them. -/
theorem Pc.lease_of_rewrite {now : Timestamptz} {job row : Job} {pc : Pc} {rewrite : Job → Job}
    (writes : pc.rewrite now job = some rewrite) {worker : UUID}
    (owner : (rewrite row).workerId = some worker) :
    row.workerId = some worker ∧ (rewrite row).leaseExpiresAt = row.leaseExpiresAt := by
  cases pc with
  | requeueForRetry nextRunAt =>
      cases writes
      cases owner
  | setRunning | completeIdempotent | complete | failJob | moveToDLQ =>
      cases writes
      exact ⟨owner, rfl⟩
  | _ => cases writes

theorem intervalSeconds_nonneg {n : Int} (nonneg : 0 ≤ n) : 0 ≤ intervalSeconds n :=
  Int.mul_nonneg nonneg (by decide)

namespace World

variable {cron : CronParser} {w w' : World} {a : Action} {swept : Timestamptz}

/-- A lease is kept, or set one lease period from now by an engine that runs. -/
theorem RowStep.lease {row row' : Job} (change : RowStep w a row row') {worker : UUID}
    (owner : row'.workerId = some worker) {lease : Timestamptz}
    (set : lease ∈ row'.leaseExpiresAt) :
    (row.workerId = some worker ∧ lease ∈ row.leaseExpiresAt) ∨
      ∃ engine, w.engines worker = some engine ∧ engine.status = .running ∧
        lease = w.now + intervalSeconds engine.cfg.leaseSeconds := by
  cases change with
  | kept => exact .inl ⟨owner, set⟩
  | claimed found running =>
      cases owner
      cases set
      exact .inr ⟨_, found, running, rfl⟩
  | written taken live writes =>
      obtain ⟨before, same⟩ := Pc.lease_of_rewrite writes owner
      rw [same] at set
      exact .inl ⟨before, set⟩
  | renewed found running renews =>
      cases renews.1.symm.trans owner
      cases set
      exact .inr ⟨_, found, running, rfl⟩
  | released => cases owner
  | reclaimed => cases owner
  | retried => cases owner

/-- The leases of active rows reach the last sweep. -/
theorem RowStep.reach (inv : Reclaiming swept w) {row row' : Job} (member : row ∈ w.db.jobs)
    (change : RowStep w a row row') (active : row'.status.Active) {lease : Timestamptz}
    (set : lease ∈ row'.leaseExpiresAt) : (if a.isSweep then w.now else swept) ≤ lease := by
  have ahead : ∀ {worker engine}, w.engines worker = some engine → a.isSweep = false →
      (if a.isSweep then w.now else swept) ≤ w.now + intervalSeconds engine.cfg.leaseSeconds := by
    intro worker engine found other
    rw [other]
    exact le_trans inv.past
      (Int.le_add_of_nonneg_right (intervalSeconds_nonneg (inv.ahead worker engine found)))
  have before : row.status.Active → lease ∈ row.leaseExpiresAt → a.isSweep = false →
      (if a.isSweep then w.now else swept) ≤ lease := by
    intro active set other
    rw [other]
    exact inv.reach row member active lease set
  cases change with
  | kept spared =>
      cases a with
      | sweep => exact not_lt.mp fun passed => spared ⟨active, lease, set, passed⟩
      | _ => exact before active set rfl
  | claimed found =>
      cases set
      exact ahead found rfl
  | written taken live writes own =>
      -- the writer owns the row, so the row was claimed before
      obtain ⟨point, rfl⟩ := Pc.setRunning_of_rewrite writes active
      have fits := (inv.undisturbed.writer_possesses taken live writes member own).fits
      rw [point] at fits
      exact before (.inl fits.1) set rfl
  | renewed found =>
      cases set
      exact ahead found rfl
  | released => cases set
  | reclaimed => cases set
  | retried => cases set

/-- **Clock, sweeps and leases after a step.** -/
theorem reclaiming_step (moves : Moves cron w a w') (timely : Timely w a)
    (positive : LeasesAhead w a) (inv : Reclaiming swept w) :
    Reclaiming (if a.isSweep then w.now else swept) w' := by
  have wf := inv.undisturbed.exclusive.wellFormed
  have later := now_mono moves
  refine ⟨undisturbed_step moves timely inv.undisturbed, ?_, ?_, ?_, ?_⟩
  · split
    · exact later
    · exact le_trans inv.past later
  · intro worker engine' found'
    cases step_engines moves found' with
    | registered registers =>
        subst registers
        exact positive _ rfl
    | kept found cfg =>
        rw [cfg]
        exact inv.ahead worker _ found
  · intro row' member' active lease set
    rcases step_rows moves wf.ids member' with ⟨row, member, change⟩ | new
    · exact change.reach inv member active set
    · rw [new.waiting.unleased] at set
      cases set
  · intro worker engine' found' row' member' owner lease set
    rcases step_rows moves wf.ids member' with ⟨row, member, change⟩ | new
    · cases step_engines moves found' with
      | registered _ fresh =>
          obtain ⟨engine, found⟩ := change.owned wf member owner
          exact absurd (wf.enrolled worker engine found) fresh
      | @kept engine _ found cfg =>
          rw [cfg]
          have grown : w.now + intervalSeconds engine.cfg.leaseSeconds ≤
              w'.now + intervalSeconds engine.cfg.leaseSeconds := Int.add_le_add_right later _
          rcases change.lease owner set with ⟨owner, set⟩ | ⟨other, found', _, rfl⟩
          · exact le_trans (inv.leases worker engine found row member owner lease set) grown
          · cases found.symm.trans found'
            exact grown
    · rw [new.waiting.unowned] at owner
      cases owner

/-- An engine that does not run gives nobody a lease, and does not run again. -/
theorem retired_step (moves : Moves cron w a w') {worker : UUID} {bound : Timestamptz}
    (retired : Retired worker bound w) : Retired worker bound w' := by
  obtain ⟨wf, ⟨engine, found, stopped⟩, ends⟩ := retired
  refine ⟨wellFormed_step moves wf, ?_, ?_⟩
  · obtain ⟨engine', found'⟩ := step_employs moves found
    refine ⟨engine', found', ?_⟩
    cases step_engines moves found' with
    | registered _ fresh => exact absurd (wf.enrolled worker engine found) fresh
    | kept found₀ _ status =>
        cases found.symm.trans found₀
        exact fun running => stopped (status.alive running)
  · intro row' member' owner lease set
    rcases step_rows moves wf.ids member' with ⟨row, member, change⟩ | new
    · rcases change.lease owner set with ⟨owner, set⟩ | ⟨other, found₀, running, _⟩
      · exact ends row member owner lease set
      · cases found.symm.trans found₀
        exact absurd running stopped
    · rw [new.waiting.unowned] at owner
      cases owner

end World

/-- Sweeps and leases in a timely run. -/
theorem reclaiming_of_run {cron : CronParser} {trace : List (World × Action)} {w : World}
    (run : Run (scheduler cron) trace w) (timely : Meets Timely trace)
    (positive : Meets LeasesAhead trace) : Reclaiming (sweptAt trace w) w := by
  induction run with
  | start initial =>
      obtain ⟨now, policies, rfl⟩ := initial
      refine ⟨World.undisturbed_start now policies, le_refl _, ?_, ?_, ?_⟩
      · intro _ _ found
        cases found
      · intro _ member
        cases member
      · intro _ _ found
        cases found
  | next a _ taken ih =>
      rw [meets_cons] at timely positive
      exact World.reclaiming_step (World.step_moves taken) timely.1 positive.1
        (ih timely.2 positive.2)

/-- **Recovery in time.** In a timely run in which no engine is configured with a negative
`LEASE_SECONDS`, let an engine run no more, because it has crashed or its context is cancelled. When
its lease period and `interval` have gone by since, and the last sweep is at most `interval` ago, no
row that names it is claimed or running. -/
theorem recovered_in_time (cron : CronParser) {later earlier : List (World × Action)}
    {s last : World} (first : Run (scheduler cron) earlier s)
    (path : Path (scheduler cron) s later last) (timely : Meets Timely (later ++ earlier))
    (positive : Meets LeasesAhead (later ++ earlier)) {worker : UUID} {engine : Engine}
    (found : s.engines worker = some engine) (stopped : engine.status ≠ .running)
    (interval : Timestamptz) (patrolled : last.now ≤ sweptAt (later ++ earlier) last + interval)
    (late : s.now + intervalSeconds engine.cfg.leaseSeconds + interval < last.now) :
    ∀ row ∈ last.db.jobs, row.workerId = some worker → ¬ row.status.Active := by
  have start : Reclaiming (sweptAt earlier s) s := reclaiming_of_run first
    (fun entry member => timely entry (List.mem_append_right _ member))
    (fun entry member => positive entry (List.mem_append_right _ member))
  have final := reclaiming_of_run (path.run first) timely positive
  -- from `s` on nobody is given a lease in the name of the engine
  have retired : Retired worker (s.now + intervalSeconds engine.cfg.leaseSeconds) last := by
    refine (path.throughout (fun entry member => timely entry (List.mem_append_left _ member))
      ?_ ?_).2
    · exact ⟨start.undisturbed.exclusive.wellFormed, ⟨engine, found, stopped⟩,
        start.leases worker engine found⟩
    · exact fun _ _ _ taken _ retired => World.retired_step (World.step_moves taken) retired
  intro row member owner active
  have leased := retired.wellFormed.leased row member
  rw [owner] at leased
  obtain ⟨lease, set⟩ := Option.isSome_iff_exists.mp leased.symm
  have upper : lease ≤ s.now + intervalSeconds engine.cfg.leaseSeconds :=
    retired.ends row member owner lease set
  have lower : sweptAt (later ++ earlier) last ≤ lease := final.reach row member active lease set
  refine absurd late (not_lt.mpr ?_)
  calc last.now ≤ sweptAt (later ++ earlier) last + interval := patrolled
    _ ≤ lease + interval := Int.add_le_add_right lower _
    _ ≤ s.now + intervalSeconds engine.cfg.leaseSeconds + interval := Int.add_le_add_right upper _

/-- A worker starts a job and crashes. -/
def crashedStart : List Action :=
  promptStart ++ [.crash 5]

/-- Its lease runs out, and a reaper sweeps. -/
def sweptLate : List Action := [.tick 31000000, .sweep]

/-- No engine runs in this state. -/
def World.Deserted (w : World) : Prop :=
  w.issued.all fun worker => (w.engines worker).all fun engine => engine.status ≠ .running

instance (w : World) : Decidable w.Deserted :=
  inferInstanceAs (Decidable (_ = true))

/-- A sweep that finds no engine running is timely. -/
theorem timely_of_deserted {cron : CronParser} {trace : List (World × Action)} {w : World}
    (run : Run (scheduler cron) trace w)
    (deserted : ∀ entry ∈ trace, entry.2.isSweep → entry.1.Deserted) : Meets Timely trace := by
  intro entry member
  unfold Timely
  split
  next sweeps =>
    intro ticket task _ holds
    obtain ⟨engine, found, running⟩ := holds.2
    have issued := ((wellFormed_throughout run).1 entry member).enrolled task.worker engine found
    have checked := List.all_eq_true.mp (deserted entry member (by rw [sweeps]; rfl)) _ issued
    rw [found] at checked
    exact absurd running (of_decide_eq_true checked)
  · trivial

/-- What is asked of the steps of such a run. -/
def Action.Allowed (entry : World × Action) : Prop :=
  (entry.2.isSweep → entry.1.Deserted) ∧ ∀ cfg ∈ entry.2.config?, 0 ≤ cfg.leaseSeconds

instance : DecidablePred Action.Allowed :=
  fun _ => inferInstanceAs (Decidable (_ ∧ _))

/-- The end of such a run: the last step is a sweep at the end of the 31st second. -/
def SweptLate (later : List (World × Action)) (last : World) : Prop :=
  (∀ entry ∈ later, Action.Allowed entry) ∧ last.db.jobs ≠ [] ∧ last.now = 31000000 ∧
    later.head?.any fun entry => entry.2.isSweep ∧ entry.1.now = 31000000

instance (later : List (World × Action)) (last : World) : Decidable (SweptLate later last) :=
  inferInstanceAs (Decidable (_ ∧ _ ∧ _ ∧ _))

theorem recovered_in_time_crashed :
    ∃ earlier later s last, Run (scheduler Scenario.cron) earlier s ∧
      Path (scheduler Scenario.cron) s later last ∧
      (∃ row ∈ s.db.jobs, row.workerId = some 5 ∧ row.status = .running) ∧
      last.db.jobs ≠ [] ∧ ∀ row ∈ last.db.jobs, row.workerId = some 5 → ¬ row.status.Active := by
  obtain ⟨earlier, s, first, ⟨allowed, held, start, stopped⟩, passes⟩ :=
    exists_run_of_execute (scheduler Scenario.cron) crashedStart (World.start 0 [])
      (fun trace s => ((∀ entry ∈ trace, Action.Allowed entry) ∧
        (∃ row ∈ s.db.jobs, row.workerId = some 5 ∧ row.status = .running) ∧ s.now = 0 ∧
        (s.engines 5).any fun engine => engine.status ≠ .running ∧
          engine.cfg.leaseSeconds = 30) ∧
        (execute (scheduler Scenario.cron).step sweptLate [] s).any
          (fun end' => SweptLate end'.1 end'.2) = true)
      ⟨0, [], rfl⟩ (by decide)
  obtain ⟨later, last, path, allowed', rows, clock, swept⟩ :=
    exists_path_of_execute (scheduler Scenario.cron) sweptLate s SweptLate passes
  obtain ⟨engine, found, checked⟩ := (Option.any_eq_true _ _).mp stopped
  obtain ⟨idle, period⟩ := of_decide_eq_true checked
  have all : ∀ entry ∈ later ++ earlier, Action.Allowed entry := by
    intro entry member
    rcases List.mem_append.mp member with late | early
    · exact allowed' entry late
    · exact allowed entry early
  refine ⟨earlier, later, s, last, first, path, held, rows, ?_⟩
  refine recovered_in_time Scenario.cron first path ?_ ?_ found idle 500000 ?_ ?_
  · exact timely_of_deserted (path.run first) fun entry member => (all entry member).1
  · exact fun entry member => (all entry member).2
  · obtain ⟨⟨w, a⟩, head, sweeps⟩ := (Option.any_eq_true _ _).mp swept
    obtain ⟨steps, rfl⟩ := List.head?_eq_some_iff.mp head
    obtain ⟨sweep, at31⟩ := of_decide_eq_true sweeps
    have same : sweptAt ((w, a) :: steps ++ earlier) last = w.now := if_pos sweep
    rw [same, at31, clock]
    decide
  · rw [start, period, clock]
    decide

end JobScheduler
