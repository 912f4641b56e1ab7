import Mathlib.Algebra.Ring.Nat
import Mathlib.Data.Nat.Log

/-!
# Doubles and decimals

The magnitudes of IEEE 754 doubles, counted in units of `2 ^ -1074`: natural numbers with at most 53
significant bits. A decimal is read by rounding it to the nearest of them, ties to even, and from
`limit` on it is infinite. A magnitude is written with as few digits as read back to it
(`ofDecimal_toDecimal`).
-/

set_option autoImplicit false

namespace Binary64

/-- The units in `1`. -/
def scale : Nat := 2 ^ 1074

/-- The units in `2 ^ 1024`. -/
def limit : Nat := 2 ^ 2098

/-- At most 53 bits are significant. -/
def Representable (n : Nat) : Prop := 2 ^ (n.log2 + 1 - 53) ∣ n

/-- A quotient rounded to 53 significant bits, to nearest, ties to even. -/
def roundQuotient (a b : Nat) : Nat :=
  let unit := 2 ^ ((a / b).log2 + 1 - 53)
  let quotient := a / (b * unit)
  let remainder := a % (b * unit)
  if b * unit < 2 * remainder ∨ 2 * remainder = b * unit ∧ quotient % 2 = 1 then
    (quotient + 1) * unit
  else quotient * unit

/-- The magnitude of `mantissa * 10 ^ exponent`. -/
def ofDecimal (mantissa : Nat) (exponent : Int) : Nat :=
  roundQuotient (mantissa * 10 ^ exponent.toNat * scale) (10 ^ (-exponent).toNat)

/-- The multiple of `10 ^ exponent` that is read as this magnitude, if there is one. Of the two next
to it the nearer one is preferred, and the even one of two equally near. -/
def multipleAt (n : Nat) (exponent : Int) : Option Nat :=
  let unit := scale * 10 ^ exponent.toNat
  let below := n * 10 ^ (-exponent).toNat / unit
  let remainder := n * 10 ^ (-exponent).toNat % unit
  let ordered :=
    if unit < 2 * remainder ∨ 2 * remainder = unit ∧ below % 2 = 1 then [below + 1, below]
    else [below, below + 1]
  ordered.find? fun mantissa => ofDecimal mantissa exponent = n

/-- The exponents that the last digit may have, from the highest on: the first one is above all
digits, by `log 2 < 30103 / 100000`, and seventeen digits are enough. The least one of all, at which
every magnitude has a decimal, is there in any case. -/
def exponents (n : Nat) : List Int :=
  let top := ((n.log2 : Int) + 1 - 1074) * 30103 / 100000 + 1
  (List.range 20).map (fun k : Nat => top - (k : Int)) ++ [-1074]

/-- The shortest decimal that is read as this magnitude. -/
def toDecimal (n : Nat) : Nat × Int :=
  if n = 0 then (0, 0)
  else ((exponents n).findSome? fun e => (multipleAt n e).map fun m => (m, e)).getD (0, 0)

/-! ## Rounding -/

/-- A multiple of a power of two with few enough digits. -/
theorem representable_mul_pow {c k : Nat} (few : c < 2 ^ 53) : Representable (c * 2 ^ k) := by
  unfold Representable
  rcases Nat.eq_zero_or_pos c with rfl | positive
  · simp
  · refine Nat.dvd_trans (Nat.pow_dvd_pow 2 ?_) (Nat.dvd_mul_left (2 ^ k) c)
    have nonzero : c * 2 ^ k ≠ 0 :=
      Nat.mul_ne_zero (Nat.ne_of_gt positive) (Nat.ne_of_gt (Nat.two_pow_pos k))
    have bits : (c * 2 ^ k).log2 < 53 + k := by
      rw [Nat.log2_lt nonzero, Nat.pow_add]
      exact Nat.mul_lt_mul_of_pos_right few (Nat.two_pow_pos k)
    omega

theorem representable_roundQuotient (a b : Nat) : Representable (roundQuotient a b) := by
  have few : a / (b * 2 ^ ((a / b).log2 + 1 - 53)) < 2 ^ 53 := by
    rw [← Nat.div_div_eq_div_mul, Nat.div_lt_iff_lt_mul (Nat.two_pow_pos _), ← Nat.pow_add]
    refine Nat.lt_of_lt_of_le (Nat.lt_log2_self (n := a / b)) (Nat.pow_le_pow_right (by decide) ?_)
    omega
  unfold roundQuotient
  dsimp only
  split
  · rcases Nat.lt_or_eq_of_le (Nat.succ_le_of_lt few) with more | full
    · exact representable_mul_pow more
    · -- the carry makes a power of two
      have carry : a / (b * 2 ^ ((a / b).log2 + 1 - 53)) + 1 = 1 * 2 ^ 53 := by omega
      rw [carry, Nat.mul_assoc, ← Nat.pow_add]
      exact representable_mul_pow (by decide)
  · exact representable_mul_pow few

/-- What needs no rounding stays. -/
theorem roundQuotient_mul {n b : Nat} (representable : Representable n) (positive : 0 < b) :
    roundQuotient (n * b) b = n := by
  obtain ⟨c, whole⟩ := representable
  unfold roundQuotient
  rw [Nat.mul_div_cancel n positive]
  have unit := Nat.two_pow_pos (n.log2 + 1 - 53)
  generalize 2 ^ (n.log2 + 1 - 53) = u at whole unit
  have split' : n * b = c * (b * u) := by
    rw [whole, Nat.mul_comm u c, Nat.mul_assoc, Nat.mul_comm u b]
  have step : 0 < b * u := Nat.mul_pos positive unit
  dsimp only
  rw [split', Nat.mul_div_cancel c step, Nat.mul_mod_left, Nat.mul_zero, if_neg, Nat.mul_comm c u,
    whole]
  rintro (more | ⟨tie, _⟩)
  · exact absurd more (Nat.not_lt_zero _)
  · exact absurd tie (Nat.ne_of_lt step)

theorem representable_ofDecimal (mantissa : Nat) (exponent : Int) :
    Representable (ofDecimal mantissa exponent) :=
  representable_roundQuotient _ _

/-! ## Writing and reading back -/

theorem ofDecimal_of_multipleAt {n mantissa : Nat} {exponent : Int}
    (found : multipleAt n exponent = some mantissa) : ofDecimal mantissa exponent = n := by
  unfold multipleAt at found
  dsimp only at found
  have read := List.find?_some found
  exact of_decide_eq_true read

theorem ofDecimal_zero (exponent : Int) : ofDecimal 0 exponent = 0 := by
  unfold ofDecimal roundQuotient
  simp

/-- Every magnitude is a multiple of the least decimal that units have. -/
theorem exists_multipleAt {n k : Nat} (representable : Representable n) (units : scale = 2 ^ k) :
    ∃ mantissa, multipleAt n (-(k : Int)) = some mantissa := by
  have tens : 10 ^ k = 5 ^ k * 2 ^ k := Nat.mul_pow 5 2 k
  have whole : (-(k : Int)).toNat = 0 := by omega
  have digits : (- -(k : Int)).toNat = k := by omega
  have read : ofDecimal (n * 5 ^ k) (-(k : Int)) = n := by
    unfold ofDecimal
    rw [whole, digits, units, Nat.pow_zero, Nat.mul_one, Nat.mul_assoc, ← tens]
    exact roundQuotient_mul representable (Nat.pow_pos (by decide))
  have below : n * 10 ^ k / 2 ^ k = n * 5 ^ k := by
    rw [tens, ← Nat.mul_assoc, Nat.mul_div_cancel _ (Nat.two_pow_pos k)]
  unfold multipleAt
  rw [whole, digits, units, Nat.pow_zero, Nat.mul_one]
  dsimp only
  rw [below]
  refine Option.isSome_iff_exists.mp (List.find?_isSome.mpr ⟨n * 5 ^ k, ?_, decide_eq_true read⟩)
  split <;> simp

/-- **What is written is read back.** -/
theorem ofDecimal_toDecimal {n : Nat} (representable : Representable n) :
    ofDecimal (toDecimal n).1 (toDecimal n).2 = n := by
  unfold toDecimal
  split
  next zero =>
    rw [zero]
    exact ofDecimal_zero 0
  · cases found : (exponents n).findSome? fun e => (multipleAt n e).map fun m => (m, e) with
    | none =>
        obtain ⟨m, last⟩ := exists_multipleAt (k := 1074) representable rfl
        have listed : -((1074 : Nat) : Int) ∈ exponents n :=
          List.mem_append_right _ (List.mem_singleton_self _)
        have missing := List.findSome?_eq_none_iff.mp found _ listed
        rw [last] at missing
        cases missing
    | some decimal =>
        obtain ⟨e, _, read⟩ := List.exists_of_findSome?_eq_some found
        obtain ⟨m, multiple, rfl⟩ := Option.map_eq_some_iff.mp read
        exact ofDecimal_of_multipleAt multiple

end Binary64
