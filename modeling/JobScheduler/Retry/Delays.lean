import JobScheduler.Retry.Backoff
import Mathlib.Algebra.Order.Ring.Int

/-!
# Delays and their jitter

What the comment of `NextDelay` promises is arithmetic over the integers: the base, its multiple
by the attempt or by a power of two, capped at the maximum. The program multiplies first and caps
afterwards, so the cap sees a product that has wrapped around or a conversion that is out of
range. The delay is the promised one exactly when the product fits, or wraps to something the cap
still catches (`delay_right_iff`).

The jitter is drawn below half of the delay and added to it. The random source panics when that
half is zero, and the sum wraps around when it passes `2 ^ 63`; otherwise the result lies in the
promised interval (`jitter_safe_iff`).
-/

set_option autoImplicit false

namespace JobScheduler

/-! ## The promised delay -/

/-- The delay of the comment, over the integers and before the cap. -/
def idealDelay (strategy : RetryStrategy) (base attempt : Int) : Int :=
  match strategy with
  | .fixed => base
  | .linear => base * attempt
  | .exponential => base * 2 ^ (attempt - 1).toNat

/-- The delay of an attempt, without jitter, is the promised one: exact, positive, at most the
maximum, and no shorter than that of an earlier attempt. -/
def DelayRight (strategy : RetryStrategy) (base maxDelay attempt : Int) : Prop :=
  ∀ draw, ∃ d, nextDelay strategy.text base maxDelay attempt false draw = some d ∧
    d = min (idealDelay strategy base attempt) maxDelay ∧ 0 < d ∧ d ≤ maxDelay ∧
    ∀ earlier d', 1 ≤ earlier → earlier ≤ attempt →
      nextDelay strategy.text base maxDelay earlier false draw = some d' → d' ≤ d

/-- The product fits, or what it turns into is still above the maximum. A base from `2 ^ 53` on
is rounded when it becomes a `float64`. -/
def ProductFits (strategy : RetryStrategy) (base maxDelay attempt : Int) : Prop :=
  match strategy with
  | .fixed => True
  | .linear =>
      base * attempt < 2 ^ 63 ∨
        maxDelay ≤ base * attempt % 2 ^ 64 ∧ base * attempt % 2 ^ 64 < 2 ^ 63
  | .exponential =>
      float64OfInt base * 2 ^ (attempt - 1).toNat < 2 ^ 63 ∧
        (float64OfInt base = base ∨
          maxDelay ≤ min (float64OfInt base) base * 2 ^ (attempt - 1).toNat)

/-! ## Wrapping and rounding -/

/-- Two values that are capped agree when they are equal or both are cut off. -/
theorem min_eq_min_iff {u v cap : Int} :
    min u cap = min v cap ↔ u = v ∨ cap ≤ u ∧ cap ≤ v := by
  omega

/-- `wrap64` with its constants written out, as linear arithmetic reads them. -/
theorem wrap64_eq (n : Int) :
    wrap64 n = (n + 9223372036854775808) % 18446744073709551616 - 9223372036854775808 := rfl

theorem roundToFloat53_pos {magnitude : Nat} (positive : 0 < magnitude) :
    0 < roundToFloat53 magnitude := by
  have unit : 2 ^ (magnitude.log2 + 1 - 53) ≤ magnitude := by
    apply Nat.le_trans (Nat.pow_le_pow_right (by decide) _) (Nat.log2_self_le (by omega))
    omega
  have quotient : 0 < magnitude / 2 ^ (magnitude.log2 + 1 - 53) :=
    Nat.div_pos unit (Nat.two_pow_pos _)
  unfold roundToFloat53
  dsimp only
  split
  · exact Nat.mul_pos (Nat.succ_pos _) (Nat.two_pow_pos _)
  · exact Nat.mul_pos quotient (Nat.two_pow_pos _)

theorem float64OfInt_pos {n : Int} (positive : 0 < n) : 0 < float64OfInt n := by
  rw [float64OfInt, Int.sign_eq_one_of_pos positive, one_mul]
  exact Int.natCast_pos.mpr (roundToFloat53_pos (Int.natAbs_pos.mpr (by omega)))

/-- An integer below `2 ^ 53` is a `float64`. -/
theorem float64OfInt_of_lt {n : Int} (small : n.natAbs < 2 ^ 53) : float64OfInt n = n := by
  have unit : n.natAbs.log2 + 1 - 53 = 0 := by
    by_cases zero : n.natAbs = 0
    · simp [zero]
    · have bits := (Nat.log2_lt zero).mpr small
      omega
  have same : roundToFloat53 n.natAbs = n.natAbs := by
    simp [roundToFloat53, unit, Nat.mod_one]
  rw [float64OfInt, same, Int.sign_mul_natAbs]

theorem two_pow_toNat_pos (n : Int) : 0 < (2 : Int) ^ n.toNat :=
  Int.pow_pos (by decide)

theorem two_pow_toNat_le {m n : Int} (le : m ≤ n) : (2 : Int) ^ m.toNat ≤ 2 ^ n.toNat :=
  pow_le_pow_right₀ (by decide) (Int.toNat_le_toNat le)

/-! ## The product before the cap -/

section Product

variable {base maxDelay attempt : Int}

theorem uncappedDelay_text (strategy : RetryStrategy) (base attempt : Int) :
    uncappedDelay strategy.text base attempt =
      match strategy with
      | .fixed => base
      | .linear => wrap64 (base * attempt)
      | .exponential => exponentialDelay base attempt := by
  cases strategy <;> simp [uncappedDelay, RetryStrategy.text]

/-- The conversion is in range exactly when the product is: a power that is infinite has long
passed `2 ^ 63`. -/
theorem exponentialDelay_eq (positive : 0 < base) :
    exponentialDelay base attempt =
      if float64OfInt base * 2 ^ (attempt - 1).toNat < 2 ^ 63 then
        float64OfInt base * 2 ^ (attempt - 1).toNat
      else -2 ^ 63 := by
  have rounded := float64OfInt_pos positive
  have power := two_pow_toNat_pos (attempt - 1)
  have product := Int.mul_pos rounded power
  unfold exponentialDelay
  dsimp only
  by_cases fits : float64OfInt base * 2 ^ (attempt - 1).toNat < 2 ^ 63
  · have finite : attempt - 1 < 1024 := by
      by_contra infinite
      have large : (2 : Int) ^ 63 ≤ 2 ^ (attempt - 1).toNat :=
        pow_le_pow_right₀ (by decide) (by omega)
      have least := Int.mul_le_mul_of_nonneg_right (Int.add_one_le_iff.mpr rounded) power.le
      omega
    rw [if_pos ⟨finite, by omega, fits⟩, if_pos fits]
  · rw [if_neg fun all => fits all.2.2, if_neg fits]

theorem idealDelay_pos (strategy : RetryStrategy) (positive : 0 < base) (first : 1 ≤ attempt) :
    0 < idealDelay strategy base attempt := by
  cases strategy with
  | fixed => exact positive
  | linear => exact Int.mul_pos positive (by omega)
  | exponential => exact Int.mul_pos positive (two_pow_toNat_pos _)

/-- The capped product is the promised delay exactly when the product fits. -/
theorem min_uncappedDelay_iff (strategy : RetryStrategy) (positive : 0 < base)
    (capped : 0 < maxDelay) (inRange : maxDelay < 2 ^ 63) (first : 1 ≤ attempt) :
    min (uncappedDelay strategy.text base attempt) maxDelay =
        min (idealDelay strategy base attempt) maxDelay ↔
      ProductFits strategy base maxDelay attempt := by
  have ideal := idealDelay_pos strategy positive first
  rw [min_eq_min_iff, uncappedDelay_text]
  cases strategy with
  | fixed => simp [idealDelay, ProductFits]
  | linear =>
      simp only [idealDelay, ProductFits] at ideal ⊢
      rw [wrap64_eq]
      omega
  | exponential =>
      have rounded := float64OfInt_pos positive
      have power := two_pow_toNat_pos (attempt - 1)
      have cut : maxDelay ≤ min (float64OfInt base) base * 2 ^ (attempt - 1).toNat ↔
          maxDelay ≤ float64OfInt base * 2 ^ (attempt - 1).toNat ∧
            maxDelay ≤ base * 2 ^ (attempt - 1).toNat := by
        rw [min_mul_of_nonneg _ _ power.le, le_min_iff]
      have same : float64OfInt base * 2 ^ (attempt - 1).toNat = base * 2 ^ (attempt - 1).toNat ↔
          float64OfInt base = base := mul_left_inj' power.ne'
      simp only [idealDelay, ProductFits] at ideal ⊢
      rw [exponentialDelay_eq positive, cut, ← same]
      split <;> omega

/-- When a capped product is below the maximum and right, the products of earlier attempts are no
longer. -/
theorem uncappedDelay_mono (strategy : RetryStrategy) (positive : 0 < base) {earlier : Int}
    (first : 1 ≤ earlier) (before : earlier ≤ attempt)
    (fits : idealDelay strategy base attempt < 2 ^ 63)
    (same : uncappedDelay strategy.text base attempt = idealDelay strategy base attempt) :
    uncappedDelay strategy.text base earlier ≤ idealDelay strategy base attempt := by
  rw [uncappedDelay_text] at same ⊢
  cases strategy with
  | fixed => exact le_refl base
  | linear =>
      have product : base * earlier ≤ base * attempt :=
        Int.mul_le_mul_of_nonneg_left before positive.le
      have least := Int.mul_pos positive (show 0 < earlier by omega)
      simp only [idealDelay] at fits ⊢
      rw [wrap64_eq]
      omega
  | exponential =>
      have ideal := idealDelay_pos .exponential positive (first.trans before)
      have rounded := float64OfInt_pos positive
      have product : float64OfInt base * 2 ^ (earlier - 1).toNat ≤
          float64OfInt base * 2 ^ (attempt - 1).toNat :=
        Int.mul_le_mul_of_nonneg_left (two_pow_toNat_le (by omega)) rounded.le
      simp only [idealDelay] at fits same ideal ⊢
      rw [exponentialDelay_eq positive] at same ⊢
      split at same
      · split <;> omega
      · omega

end Product

/-! ## The cap -/

section Cap

variable {strategy : String} {base maxDelay attempt : Int}

/-- The cap is a minimum. -/
theorem cappedDelay_eq_min (capped : 0 < maxDelay) (first : 1 ≤ attempt) :
    cappedDelay strategy base maxDelay attempt =
      min (uncappedDelay strategy base attempt) maxDelay := by
  have same : max attempt 1 = attempt := by omega
  unfold cappedDelay
  rw [same]
  dsimp only
  split <;> omega

end Cap

/-- **When the backoff is exact, capped and monotone.** For a positive base and a positive
maximum, the delay of an attempt without jitter is the promised one exactly when the product fits
in `int64`, or wraps to something above the maximum. -/
theorem delay_right_iff (strategy : RetryStrategy) {base maxDelay attempt : Int}
    (positive : 0 < base) (capped : 0 < maxDelay) (inRange : maxDelay < 2 ^ 63)
    (first : 1 ≤ attempt) :
    DelayRight strategy base maxDelay attempt ↔ ProductFits strategy base maxDelay attempt := by
  have ideal := idealDelay_pos strategy positive first
  have computed : ∀ draw, nextDelay strategy.text base maxDelay attempt false draw =
      some (min (uncappedDelay strategy.text base attempt) maxDelay) :=
    fun draw => nextDelay_plain (cappedDelay_eq_min capped first) false (.inl rfl) draw
  rw [← min_uncappedDelay_iff strategy positive capped inRange first]
  constructor
  · intro right
    obtain ⟨d, comes, exact', _⟩ := right 0
    rw [computed] at comes
    rw [← exact', Option.some.inj comes]
  · intro same draw
    refine ⟨_, computed draw, same, by omega, Int.min_le_right _ _, ?_⟩
    intro earlier d' positive' before comes
    rw [nextDelay_plain (cappedDelay_eq_min capped positive') false (.inl rfl) draw] at comes
    have earlierDelay := Option.some.inj comes
    rcases min_eq_min_iff.mp same with uncapped | cut
    · by_cases above : maxDelay ≤ idealDelay strategy base attempt
      · omega
      · have mono := uncappedDelay_mono strategy positive positive' before (by omega) uncapped
        omega
    · omega

/-- The default policy doubles its five seconds for the last time before they overflow. -/
theorem delay_right_default : DelayRight .exponential 5000000000 3600000000000 31 := by
  refine (delay_right_iff .exponential (by decide) (by decide) (by decide) (by decide)).mpr ?_
  rw [ProductFits, float64OfInt_of_lt (by decide)]
  exact ⟨by decide, .inl rfl⟩

/-- The next attempt of the default policy would be due in the past. -/
theorem default_delay_overflows :
    ¬ ∀ (strategy : RetryStrategy) (base maxDelay attempt : Int), 0 < base → base < 2 ^ 63 →
      0 < maxDelay → maxDelay < 2 ^ 63 → 1 ≤ attempt → attempt ≤ 2147483647 →
        DelayRight strategy base maxDelay attempt := by
  intro always
  obtain ⟨d, comes, _, positive, _⟩ := always .exponential 5000000000 3600000000000 32 (by decide)
    (by decide) (by decide) (by decide) (by decide) (by decide) 0
  have wrapped : nextDelay RetryStrategy.exponential.text 5000000000 3600000000000 32 false 0 =
      some (-2 ^ 63) := by
    refine nextDelay_plain ?_ false (.inl rfl) 0
    rw [cappedDelay_eq_min (by decide) (by decide), uncappedDelay_text]
    simp only
    rw [exponentialDelay_eq (by decide), float64OfInt_of_lt (by decide)]
    decide
  rw [wrapped] at comes
  cases comes
  omega

/-! ## Jitter -/

/-- A source of random numbers: below every positive bound it draws one. -/
structure RandomSource where
  draw : Int → Int
  inRange : ∀ n, 0 < n → 0 ≤ draw n ∧ draw n < n

/-- Whatever the random source draws, `NextDelay` with jitter returns, with a delay from `D` on
and below `D + D/2 + 1`, where `D` is the delay before the jitter. -/
def JitterSafe (strategy : String) (base maxDelay attempt : Int) : Prop :=
  let d := cappedDelay strategy base maxDelay attempt
  ∀ source : RandomSource, ∃ r,
    nextDelay strategy base maxDelay attempt true (source.draw (d.tdiv 2)) = some r ∧
      d ≤ r ∧ r < d + d.tdiv 2 + 1

/-- The base times what the strategy multiplies it by; the product of `linear` is taken modulo
`2 ^ 64`. -/
def scaledBase (strategy : String) (base attempt : Int) : Int :=
  if strategy = "fixed" then base
  else if strategy = "linear" then base * attempt % 2 ^ 64
  else if strategy = "exponential" then float64OfInt base * 2 ^ (attempt - 1).toNat
  else base

/-- There is room for jitter: the scaled base and the maximum, if there is one, are more than a
nanosecond, and one of them leaves the sum below `2 ^ 63`. -/
def JitterFits (strategy : String) (base maxDelay attempt : Int) : Prop :=
  let d := scaledBase strategy base (max attempt 1)
  2 ≤ d ∧ (0 < maxDelay → 2 ≤ maxDelay) ∧
    (d + d / 2 ≤ 2 ^ 63 ∨ 0 < maxDelay ∧ maxDelay + maxDelay / 2 ≤ 2 ^ 63)

section Jitter

variable {strategy : String} {base maxDelay attempt : Int}

/-- A positive product is the scaled base. -/
theorem uncappedDelay_eq_scaledBase (positive : 0 < uncappedDelay strategy base attempt) :
    uncappedDelay strategy base attempt = scaledBase strategy base attempt := by
  unfold uncappedDelay scaledBase at *
  split
  · rfl
  next notFixed =>
    rw [if_neg notFixed] at positive
    split
    next linear =>
      rw [if_pos linear, wrap64_eq] at positive
      rw [wrap64_eq]
      omega
    next notLinear =>
      rw [if_neg notLinear] at positive
      split
      next exponential =>
        rw [if_pos exponential] at positive
        unfold exponentialDelay at *
        dsimp only at *
        split at positive
        next fits => rw [if_pos fits]
        · omega
      · rfl

/-- A positive delay is the scaled base, or the maximum if that is smaller. -/
theorem cappedDelay_eq_scaledBase (positive : 0 < cappedDelay strategy base maxDelay attempt) :
    cappedDelay strategy base maxDelay attempt =
      if 0 < maxDelay then min (scaledBase strategy base (max attempt 1)) maxDelay
      else scaledBase strategy base (max attempt 1) := by
  have product : 0 < uncappedDelay strategy base (max attempt 1) := by
    unfold cappedDelay at positive
    dsimp only at positive
    split at positive <;> omega
  have scaled := uncappedDelay_eq_scaledBase product
  unfold cappedDelay
  dsimp only
  split <;> split <;> omega

/-- The largest draw is the one that decides. -/
def largestDraws : RandomSource where
  draw n := n - 1
  inRange n positive := by omega

theorem nextDelay_jitter {d draw : Int} (delay : cappedDelay strategy base maxDelay attempt = d)
    (positive : 0 < d) (low : 0 ≤ draw) (high : draw < d.tdiv 2) :
    nextDelay strategy base maxDelay attempt true draw = some (wrap64 (d + draw)) := by
  unfold nextDelay
  simp [delay, positive, int64N, low, high]

/-- With a delay of one nanosecond the random source panics. -/
theorem nextDelay_panics {draw : Int} (delay : cappedDelay strategy base maxDelay attempt = 1) :
    nextDelay strategy base maxDelay attempt true draw = none := by
  have never : ¬ (0 ≤ draw ∧ draw < 0) := by omega
  unfold nextDelay
  simp [delay, int64N, never]

theorem jitterSafe_iff_delay (positive : 0 < cappedDelay strategy base maxDelay attempt) :
    JitterSafe strategy base maxDelay attempt ↔
      2 ≤ cappedDelay strategy base maxDelay attempt ∧
        cappedDelay strategy base maxDelay attempt +
          cappedDelay strategy base maxDelay attempt / 2 ≤ 2 ^ 63 := by
  unfold JitterSafe
  generalize delay : cappedDelay strategy base maxDelay attempt = d at positive ⊢
  have half : d.tdiv 2 = d / 2 := Int.tdiv_eq_ediv_of_nonneg positive.le
  dsimp only
  constructor
  · intro safe
    obtain ⟨r, comes, low, _⟩ := safe largestDraws
    by_cases one : d = 1
    · rw [one] at delay
      rw [nextDelay_panics delay] at comes
      cases comes
    · have draws := largestDraws.inRange (d.tdiv 2) (by omega)
      rw [nextDelay_jitter delay positive draws.1 draws.2] at comes
      have sum : r = wrap64 (d + (d.tdiv 2 - 1)) := (Option.some.inj comes).symm
      rw [wrap64_eq] at sum
      omega
  · rintro ⟨more, fits⟩ source
    obtain ⟨low, high⟩ := source.inRange (d.tdiv 2) (by omega)
    refine ⟨_, nextDelay_jitter delay positive low high, ?_, ?_⟩
    · rw [wrap64_eq]
      omega
    · rw [wrap64_eq]
      omega

end Jitter

/-- **When jitter is safe and bounded.** For a positive delay before the jitter, `NextDelay`
returns for every draw, within the promised interval, exactly when there is room for jitter. -/
theorem jitter_safe_iff {strategy : String} {base maxDelay attempt : Int}
    (positive : 0 < cappedDelay strategy base maxDelay attempt) :
    JitterSafe strategy base maxDelay attempt ↔ JitterFits strategy base maxDelay attempt := by
  have delay := cappedDelay_eq_scaledBase positive
  rw [jitterSafe_iff_delay positive, JitterFits]
  split at delay <;> omega

theorem jitter_safe_ten_seconds :
    0 < cappedDelay "fixed" 10000000000 3600000000000 1 ∧
      JitterSafe "fixed" 10000000000 3600000000000 1 :=
  ⟨by decide, (jitter_safe_iff (by decide)).mpr (by unfold JitterFits; decide)⟩

/-- A fixed delay of one nanosecond passes the check `d > 0`, and `rand.Int64N(0)` panics. -/
theorem nanosecond_panics :
    ¬ ∀ (strategy : String) (base maxDelay attempt : Int),
      0 < cappedDelay strategy base maxDelay attempt →
        JitterSafe strategy base maxDelay attempt := by
  intro always
  obtain ⟨_, comes, _⟩ := always "fixed" 1 0 1 (by decide) largestDraws
  rw [nextDelay_panics (by decide)] at comes
  cases comes

end JobScheduler
