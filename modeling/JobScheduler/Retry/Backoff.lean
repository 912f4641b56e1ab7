import Mathlib.Algebra.Ring.Int.Defs
import Mathlib.Algebra.Ring.Nat
import JobScheduler.Domain.Models

/-!
# Retry backoff

`NextDelay` and `NextRunAt` (`pkg/retry/backoff.go`). Durations are `int64` nanoseconds:
products wrap modulo `2 ^ 64`. The exponential strategy goes through `float64`, whose
scaling by a power of two is exact; a result outside `int64` converts to `-2 ^ 63`, as on
amd64.
-/

set_option autoImplicit false

namespace JobScheduler

/-- Reduction to the range of `int64`. -/
def wrap64 (n : Int) : Int := (n + 2 ^ 63) % 2 ^ 64 - 2 ^ 63

/-- A magnitude rounded to 53 significant bits, to nearest, ties to even. -/
def roundToFloat53 (magnitude : Nat) : Nat :=
  let unit := 2 ^ (magnitude.log2 + 1 - 53)
  let quotient := magnitude / unit
  let remainder := magnitude % unit
  if unit < 2 * remainder ∨ 2 * remainder = unit ∧ quotient % 2 = 1 then (quotient + 1) * unit
  else quotient * unit

/-- `float64(n)` for an `int64`. -/
def float64OfInt (n : Int) : Int :=
  n.sign * roundToFloat53 n.natAbs

/-- `time.Duration(float64(base) * math.Pow(2, float64(attempt-1)))`. From `2 ^ 1024` on
the power is infinite, and no product with it converts to a number in range. -/
def exponentialDelay (base attempt : Int) : Int :=
  let scaled := float64OfInt base * 2 ^ (attempt - 1).toNat
  if attempt - 1 < 1024 ∧ -2 ^ 63 ≤ scaled ∧ scaled < 2 ^ 63 then scaled else -2 ^ 63

/-- The name of a strategy in `strategy::text`. -/
def RetryStrategy.text : RetryStrategy → String
  | .fixed => "fixed"
  | .linear => "linear"
  | .exponential => "exponential"

/-- The delay before the cap, for an attempt that is at least `1`. -/
def uncappedDelay (strategy : String) (base attempt : Int) : Int :=
  if strategy = "fixed" then base
  else if strategy = "linear" then wrap64 (base * attempt)
  else if strategy = "exponential" then exponentialDelay base attempt
  else base

/-- The delay before jitter. -/
def cappedDelay (strategy : String) (base maxDelay attempt : Int) : Int :=
  let d := uncappedDelay strategy base (max attempt 1)
  if 0 < maxDelay ∧ maxDelay < d then maxDelay else d

/-- `rand.Int64N(n)` coming out as `draw`: possible for `0 ≤ draw < n`. For `n ≤ 0` the
call panics and nothing comes out. -/
def int64N (n draw : Int) : Option Int :=
  if 0 ≤ draw ∧ draw < n then some draw else none

/-- `NextDelay` when the random source, if it is asked, comes out as `draw`. -/
def nextDelay (strategy : String) (base maxDelay attempt : Int) (jitter : Bool) (draw : Int) :
    Option Int :=
  let d := cappedDelay strategy base maxDelay attempt
  if jitter ∧ 0 < d then (int64N (d.tdiv 2) draw).map fun extra => wrap64 (d + extra)
  else some d

/-- `NextRunAt`. -/
def nextRunAt (now : Time) (strategy : String) (base maxDelay attempt : Int) (jitter : Bool)
    (draw : Int) : Option Time :=
  (nextDelay strategy base maxDelay attempt jitter draw).map fun delay => now + delay

/-- Without jitter, or if it is not positive, a delay comes out as it is. -/
theorem nextDelay_plain {strategy : String} {base maxDelay attempt d : Int}
    (capped : cappedDelay strategy base maxDelay attempt = d) (jitter : Bool)
    (plain : jitter = false ∨ d ≤ 0) (draw : Int) :
    nextDelay strategy base maxDelay attempt jitter draw = some d := by
  have unjittered : ¬ (jitter = true ∧ 0 < d) := by
    rcases plain with off | small
    · simp [off]
    · omega
  unfold nextDelay
  simp only [capped, if_neg unjittered]

/-! ## The jitter of whole microseconds

An `INTERVAL` counts microseconds, so no policy leads to a delay of one nanosecond, the only
positive one whose half the random source cannot be asked for. -/

theorem eq_one_of_roundToFloat53 {magnitude : Nat} (one : roundToFloat53 magnitude = 1) :
    magnitude = 1 := by
  have divides : 2 ^ (magnitude.log2 + 1 - 53) ∣ roundToFloat53 magnitude := by
    unfold roundToFloat53
    dsimp only
    split
    · exact Nat.dvd_mul_left _ _
    · exact Nat.dvd_mul_left _ _
  rw [one, Nat.dvd_one] at divides
  simp only [roundToFloat53, divides, Nat.div_one, Nat.mod_one, Nat.mul_one] at one
  simpa using one

theorem exponentialDelay_ne_one {base : Int} (whole : 1000 ∣ base) (attempt : Int) :
    exponentialDelay base attempt ≠ 1 := by
  intro one
  have scaled : float64OfInt base * 2 ^ (attempt - 1).toNat = 1 := by
    unfold exponentialDelay at one
    dsimp only at one
    split at one
    · exact one
    · omega
  have unit : (float64OfInt base).natAbs = 1 := by
    have product := congrArg Int.natAbs scaled
    rw [Int.natAbs_mul] at product
    exact Nat.eq_one_of_mul_eq_one_right product
  rw [float64OfInt, Int.natAbs_mul, Int.natAbs_natCast] at unit
  have rounded := eq_one_of_roundToFloat53 (Nat.eq_one_of_mul_eq_one_left unit)
  omega

theorem cappedDelay_ne_one {base maxDelay : Int} (wholeBase : 1000 ∣ base)
    (wholeMax : 1000 ∣ maxDelay) (attempt : Int) :
    cappedDelay "exponential" base maxDelay attempt ≠ 1 := by
  unfold cappedDelay
  dsimp only
  split
  · omega
  · exact exponentialDelay_ne_one wholeBase _

/-- The random source can always come out. -/
theorem exists_nextRunAt (now : Time) (strategy : String) {base maxDelay : Int}
    (wholeBase : 1000 ∣ base) (wholeMax : 1000 ∣ maxDelay) (attempt : Int) :
    ∃ instant, nextRunAt now strategy base maxDelay attempt (strategy = "exponential") 0 =
      some instant := by
  have delays : ∃ delay, nextDelay strategy base maxDelay attempt (strategy = "exponential") 0 =
      some delay := by
    unfold nextDelay
    dsimp only
    split
    next asked =>
      have exponential : strategy = "exponential" := of_decide_eq_true asked.1
      subst exponential
      have more := cappedDelay_ne_one wholeBase wholeMax attempt
      have half : 0 < (cappedDelay "exponential" base maxDelay attempt).tdiv 2 := by
        have positive := asked.2
        rw [Int.tdiv_eq_ediv_of_nonneg (Int.le_of_lt positive)]
        omega
      exact ⟨_, by rw [int64N, if_pos ⟨Int.le_refl 0, half⟩, Option.map_some]⟩
    · exact ⟨_, rfl⟩
  obtain ⟨delay, delays⟩ := delays
  exact ⟨now + delay, by rw [nextRunAt, delays, Option.map_some]⟩

end JobScheduler
