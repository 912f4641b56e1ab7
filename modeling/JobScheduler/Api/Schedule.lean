import JobScheduler.Lifecycle.Due
import Mathlib.Order.Bounds.Defs

/-!
# The run time of an accepted job

`buildJobInput` computes the run time of a job in one of four ways: at once, after a delay, at a
given instant, or at the next instant of a cron expression. A delay is multiplied in `int64`
nanoseconds and wraps from `2 ^ 63` on, and `Next` of the cron library gives up after five years
and returns the zero time. Everything else is as requested (`scheduled_right_iff`).
-/

set_option autoImplicit false

namespace JobScheduler

/-- The zero `time.Time`: the first of January of the year 1. -/
def zeroTime : Time := -62135596800000000000

/-- What the cron library does. An expression that parses stands for the instants at which it
fires, and `Next` searches them up to the horizon, five years ahead. -/
structure CronLibrary (cron : CronParser) (fires : String → Time → Prop)
    (horizon : Time → Time) : Prop where
  first : ∀ expr next, cron expr = .ok next → ∀ now,
    (∃ t, now < t ∧ t ≤ horizon now ∧ fires expr t) →
      IsLeast {t | now < t ∧ fires expr t} (next now)
  none : ∀ expr next, cron expr = .ok next → ∀ now,
    (¬ ∃ t, now < t ∧ t ≤ horizon now ∧ fires expr t) → next now = zeroTime

/-- The job runs when the request says, and not before now. -/
structure ScheduledRight (fires : String → Time → Prop) (now : Time) (req : CreateJobRequest)
    (runsAt : Time) : Prop where
  notPast : now ≤ runsAt
  delay : ∀ n ∈ req.delaySeconds, runsAt = now + n * 1000000000
  instant : ∀ t ∈ req.runAt, runsAt = t
  recurrence : ∀ expr ∈ req.cronExpr, IsLeast {t | now < t ∧ fires expr t} runsAt

/-- A delay is less than `2 ^ 63` nanoseconds, and an expression fires before the horizon. -/
def WithinReach (fires : String → Time → Prop) (horizon : Time → Time) (now : Time)
    (req : CreateJobRequest) : Prop :=
  (∀ n ∈ req.delaySeconds, n * 1000000000 < 2 ^ 63) ∧
    ∀ expr ∈ req.cronExpr, ∃ t, now < t ∧ t ≤ horizon now ∧ fires expr t

/-! ## What validation leaves -/

section Validation

variable {cron : CronParser} {now : Time} {req : CreateJobRequest}

/-- A request asks for one scheduling mode at most, and for a valid one. -/
structure CreateJobRequest.Sound (cron : CronParser) (now : Time) (req : CreateJobRequest) :
    Prop where
  modes : req.delaySeconds.toList.length + req.runAt.toList.length +
    req.cronExpr.toList.length ≤ 1
  delay : ∀ n ∈ req.delaySeconds, 0 < n
  instant : ∀ t ∈ req.runAt, now ≤ t
  recurrence : ∀ expr ∈ req.cronExpr, ∃ next, cron expr = .ok next

theorem of_if_eq_nil {α : Type} {condition : Prop} [Decidable condition] {items : List α}
    (nonempty : items ≠ []) (empty : (if condition then items else []) = []) : ¬ condition := by
  intro holds
  rw [if_pos holds] at empty
  exact nonempty empty

theorem sound_of_valid (valid : validateJobRequest cron now req = []) : req.Sound cron now := by
  unfold validateJobRequest at valid
  simp only [List.append_eq_nil_iff] at valid
  obtain ⟨⟨⟨⟨⟨_, modes⟩, delay⟩, instant⟩, recurrence⟩, _⟩ := valid
  refine ⟨?_, ?_, ?_, ?_⟩
  · exact not_lt.mp (of_if_eq_nil (by simp) modes)
  · intro n given
    by_contra small
    exact of_if_eq_nil (by simp) delay ⟨n, given, not_lt.mp small⟩
  · intro t given
    by_contra past
    exact of_if_eq_nil (by simp) instant ⟨t, given, not_le.mp past⟩
  · intro expr given
    cases parsed : cron expr with
    | ok next => exact ⟨next, rfl⟩
    | error message =>
        have named : req.cronExpr = some expr := given
        rw [named] at recurrence
        simp only [parsed] at recurrence
        cases recurrence

theorem sound_of_builds {queue : Queue} {input : CreateJobInput}
    (builds : buildJobInput cron now req queue = .ok input) : req.Sound cron now := by
  unfold buildJobInput at builds
  split at builds
  next valid _ => exact sound_of_valid valid
  · cases builds

end Validation

/-! ## The four modes -/

section Modes

variable {cron : CronParser} {fires : String → Time → Prop} {horizon : Time → Time} {now : Time}
  {req : CreateJobRequest}

theorem wrap64_eq_self_iff {n : Int} (nonneg : 0 ≤ n) : wrap64 n = n ↔ n < 2 ^ 63 := by
  unfold wrap64
  omega

/-- A recurring job. -/
theorem scheduledRight_recurrence (library : CronLibrary cron fires horizon)
    (clock : zeroTime < now) (sound : req.Sound cron now) {expr : String}
    (asked : req.cronExpr = some expr) :
    ScheduledRight fires now req (scheduleOf cron now req).2 ↔
      WithinReach fires horizon now req := by
  obtain ⟨next, parsed⟩ := sound.recurrence expr asked
  have modes := sound.modes
  rw [asked] at modes
  have undelayed : req.delaySeconds = none := by
    cases given : req.delaySeconds with
    | none => rfl
    | some n => simp [given] at modes
  have undated : req.runAt = none := by
    cases given : req.runAt with
    | none => rfl
    | some t => simp [given] at modes
  have runs : (scheduleOf cron now req).2 = next now := by
    simp only [scheduleOf, asked, parsed]
  rw [runs]
  constructor
  · intro right
    refine ⟨by simp [undelayed], fun expr' given => ?_⟩
    cases asked.symm.trans given
    by_contra never
    -- the zero time is not ahead of the clock
    have least := right.recurrence expr asked
    rw [library.none expr next parsed now never] at least
    exact absurd least.1.1 (not_lt.mpr clock.le)
  · intro reach
    have least := library.first expr next parsed now (reach.2 expr asked)
    refine ⟨least.1.1.le, by simp [undelayed], by simp [undated], fun expr' given => ?_⟩
    cases asked.symm.trans given
    exact least

/-- A delayed job. -/
theorem scheduledRight_delay (sound : req.Sound cron now) {n : Int}
    (asked : req.delaySeconds = some n) :
    ScheduledRight fires now req (scheduleOf cron now req).2 ↔
      WithinReach fires horizon now req := by
  have positive := sound.delay n asked
  have modes := sound.modes
  rw [asked] at modes
  have undated : req.runAt = none := by
    cases given : req.runAt with
    | none => rfl
    | some t =>
        simp only [given, Option.toList_some, List.length_singleton] at modes
        omega
  have once : req.cronExpr = none := by
    cases given : req.cronExpr with
    | none => rfl
    | some expr => simp [given] at modes
  have runs : (scheduleOf cron now req).2 = now + wrap64 (n * 1000000000) := by
    simp only [scheduleOf, once, undated, asked]
  have exact' := wrap64_eq_self_iff (n := n * 1000000000) (by omega)
  rw [runs]
  constructor
  · intro right
    refine ⟨fun m given => ?_, by simp [once]⟩
    cases asked.symm.trans given
    exact exact'.mp (add_left_cancel (right.delay n asked))
  · intro reach
    have whole := exact'.mpr (reach.1 n asked)
    rw [whole]
    have ahead : now ≤ now + n * 1000000000 := Int.le_add_of_nonneg_right (by omega)
    refine ⟨ahead, fun m given => ?_, by simp [undated], by simp [once]⟩
    cases asked.symm.trans given
    rfl

/-- A job at a given instant, or at once. -/
theorem scheduledRight_instant (sound : req.Sound cron now) (once : req.cronExpr = none)
    (undelayed : req.delaySeconds = none) :
    ScheduledRight fires now req (scheduleOf cron now req).2 ∧
      WithinReach fires horizon now req := by
  refine ⟨?_, by simp [undelayed], by simp [once]⟩
  simp only [scheduleOf, once, undelayed]
  cases given : req.runAt with
  | none => exact ⟨le_refl now, by simp [undelayed], by simp [given], by simp [once]⟩
  | some t =>
      refine ⟨sound.instant t given, by simp [undelayed], fun t' given' => ?_, by simp [once]⟩
      exact Option.some.inj (given.symm.trans given')

end Modes

/-- **When accepted jobs are scheduled right.** The run time of an accepted request is the one it
asks for, and not in the past, exactly when a delay fits into `int64` nanoseconds and an
expression fires within five years. -/
theorem scheduled_right_iff {cron : CronParser} {fires : String → Time → Prop}
    {horizon : Time → Time} (library : CronLibrary cron fires horizon) {now : Time}
    (clock : zeroTime < now) {req : CreateJobRequest} {queue : Queue} {input : CreateJobInput}
    (builds : buildJobInput cron now req queue = .ok input) :
    (∃ runsAt, input.nextRunAt = some runsAt ∧ ScheduledRight fires now req runsAt) ↔
      WithinReach fires horizon now req := by
  have sound := sound_of_builds builds
  rw [(buildJobInput_schedule builds).2.2]
  have modes : ScheduledRight fires now req (scheduleOf cron now req).2 ↔
      WithinReach fires horizon now req := by
    cases once : req.cronExpr with
    | some expr => exact scheduledRight_recurrence library clock sound once
    | none =>
        cases undelayed : req.delaySeconds with
        | some n => exact scheduledRight_delay sound undelayed
        | none =>
            have both : ScheduledRight fires now req (scheduleOf cron now req).2 ∧
              WithinReach fires horizon now req := scheduledRight_instant sound once undelayed
            exact ⟨fun _ => both.2, fun _ => both.1⟩
  rw [← modes]
  constructor
  · rintro ⟨runsAt, same, right⟩
    cases same
    exact right
  · intro right
    exact ⟨_, rfl, right⟩

/-! ## Long delays -/

/-- A cron parser that knows two expressions: every minute, and the thirtieth of February. -/
def minuteCron : CronParser := fun expr =>
  if expr = "* * * * *" then .ok fun now => (now / 60000000000 + 1) * 60000000000
  else if expr = "0 0 30 2 *" then .ok fun _ => zeroTime
  else .error ("unknown expression: " ++ expr)

/-- The instants of the two expressions. -/
def minuteFires (expr : String) (t : Time) : Prop :=
  expr = "* * * * *" ∧ t % 60000000000 = 0

/-- Five years of 365 days ahead. -/
def fiveYears (now : Time) : Time := now + 157680000000000000

/-- The next full minute lies ahead, and none comes before it. -/
theorem nextMinute_bounds (now : Int) :
    now < (now / 60000000000 + 1) * 60000000000 ∧
      (now / 60000000000 + 1) * 60000000000 ≤ now + 157680000000000000 ∧
      ∀ t, now < t → t % 60000000000 = 0 → (now / 60000000000 + 1) * 60000000000 ≤ t := by
  refine ⟨by omega, by omega, ?_⟩
  intro t later whole
  omega

theorem minuteCron_library : CronLibrary minuteCron minuteFires fiveYears := by
  constructor
  · rintro expr next parsed now ⟨_, _, _, rfl, _⟩
    simp only [minuteCron, if_pos] at parsed
    cases parsed
    obtain ⟨ahead, _, least⟩ := nextMinute_bounds now
    constructor
    · exact ⟨ahead, rfl, Int.mul_emod_left _ _⟩
    · rintro t ⟨later, _, whole⟩
      exact least t later whole
  · intro expr next parsed now never
    unfold minuteCron at parsed
    split at parsed
    next minute =>
      subst minute
      obtain ⟨ahead, soon, _⟩ := nextMinute_bounds now
      exact absurd ⟨_, ahead, soon, rfl, Int.mul_emod_left _ _⟩ never
    next =>
      split at parsed
      · cases parsed
        rfl
      · cases parsed

/-- A request for a recurring job. -/
def minuteRequest : CreateJobRequest :=
  { Scenario.request none with cronExpr := some "* * * * *" }

theorem minuteRequest_right :
    ∃ input, buildJobInput minuteCron 1000 minuteRequest (Scenario.queue 3) = .ok input ∧
      ∃ runsAt, input.nextRunAt = some runsAt ∧
        ScheduledRight minuteFires 1000 minuteRequest runsAt := by
  refine ⟨_, rfl, (scheduled_right_iff minuteCron_library (by decide) rfl).mpr ⟨?_, ?_⟩⟩
  · rintro n ⟨⟩
  · rintro expr ⟨⟩
    exact ⟨60000000000, by decide, by decide, rfl, by decide⟩

/-- A delay of some 292 years. -/
def longDelayRequest : CreateJobRequest :=
  { Scenario.request none with delaySeconds := some 9223372037 }

/-- The longest delays end up in the past. -/
theorem long_delay_in_the_past :
    ¬ ∀ (cron : CronParser) (fires : String → Time → Prop) (horizon : Time → Time),
      CronLibrary cron fires horizon → ∀ now : Time, zeroTime < now →
      ∀ (req : CreateJobRequest) (queue : Queue) (input : CreateJobInput),
      buildJobInput cron now req queue = .ok input →
        ∃ runsAt, input.nextRunAt = some runsAt ∧ ScheduledRight fires now req runsAt := by
  intro always
  obtain ⟨runsAt, same, right⟩ := always minuteCron minuteFires fiveYears minuteCron_library 1000
    (by decide) longDelayRequest (Scenario.queue 3) _ rfl
  cases same
  exact absurd right.notPast (by decide)

end JobScheduler
