import Mathlib.Algebra.Order.Group.Nat
import Mathlib.Tactic.Common
import Mathlib.Tactic.Linarith
import Mathlib.Tactic.Ring

/-! Arithmetic on nonnegative binary64 values, rounded to nearest with ties to even. A value is the pattern of its
exponent and fraction fields, without the sign; it counts `significand` units of `2 ^ (scale - 1075)`. A result is
the pattern nearest to a ratio of natural numbers, so nothing here is approximate but that last step. -/

namespace Binary64

def fractionSize : Nat := 2 ^ 52

/-- The pattern of infinity, behind those of the finite values. -/
def infinity : Nat := 2047 * fractionSize

/-- The units in the value 1. -/
def unitsInOne : Nat := 2 ^ 1075

/-- The exponent field, where that of the subnormal values stands for the smallest normal exponent. -/
def scale (pattern : Nat) : Nat := max 1 (pattern / fractionSize)

def significand (pattern : Nat) : Nat :=
  if pattern / fractionSize = 0 then pattern else fractionSize + pattern % fractionSize

/-- The integer nearest to a ratio, the even one of two. -/
def roundHalfEven (numerator denominator : Nat) : Nat :=
  let quotient := numerator / denominator
  let twice := 2 * (numerator % denominator)
  if denominator < twice ∨ twice = denominator ∧ quotient % 2 = 1 then quotient + 1 else quotient

/-- The value nearest to a ratio. A significand that is rounded up to the next power of two carries into the exponent
field. -/
def roundRatio (numerator denominator : Nat) : Nat :=
  let units := numerator * unitsInOne
  let exponent := max 1 ((units / denominator).log2 - 52)
  min infinity ((exponent - 1) * fractionSize + roundHalfEven units (denominator * 2 ^ exponent))

def divide (left right : Nat) : Nat :=
  roundRatio (significand left * 2 ^ scale left) (significand right * 2 ^ scale right)

def multiply (left right : Nat) : Nat :=
  roundRatio (significand left * 2 ^ scale left * (significand right * 2 ^ scale right)) (unitsInOne * unitsInOne)

/-- `std::rint`, as the integer that it is. -/
def rint (pattern : Nat) : Nat := roundHalfEven (significand pattern * 2 ^ scale pattern) unitsInOne

section Zero

theorem roundHalfEven_zero (denominator : Nat) : roundHalfEven 0 denominator = 0 := by
  simp [roundHalfEven]

theorem roundRatio_zero (denominator : Nat) : roundRatio 0 denominator = 0 := by
  unfold roundRatio
  dsimp only
  rw [Nat.zero_mul, Nat.zero_div, roundHalfEven_zero, Nat.log2_zero]
  rfl

theorem divide_zero (right : Nat) : divide 0 right = 0 := by
  rw [divide, show significand 0 = 0 from rfl, Nat.zero_mul, roundRatio_zero]

theorem multiply_zero (right : Nat) : multiply 0 right = 0 := by
  rw [multiply, show significand 0 = 0 from rfl, Nat.zero_mul, Nat.zero_mul, roundRatio_zero]

theorem rint_zero : rint 0 = 0 := by
  rw [rint, show significand 0 = 0 from rfl, Nat.zero_mul, roundHalfEven_zero]

end Zero

section Bound

theorem roundHalfEven_le {numerator denominator bound : Nat} (hpositive : 0 < denominator)
    (h : numerator ≤ bound * denominator) : roundHalfEven numerator denominator ≤ bound := by
  have hquotient : numerator / denominator ≤ bound := Nat.div_le_of_le_mul (by rwa [Nat.mul_comm])
  unfold roundHalfEven
  dsimp only
  rcases Nat.lt_or_eq_of_le hquotient with hless | hequal
  · split <;> omega
  · -- nothing is left to round
    have hrest : numerator % denominator = 0 := by
      have hsplit := Nat.div_add_mod numerator denominator
      rw [hequal, Nat.mul_comm] at hsplit
      omega
    rw [hrest, if_neg (by omega)]
    exact hquotient

theorem lt_two_pow_of_significand (pattern : Nat) : significand pattern < 2 ^ 53 := by
  unfold significand fractionSize
  split <;> omega

/-- A pattern counts the significands below the one it stands for. -/
theorem pattern_eq (pattern : Nat) : pattern = (scale pattern - 1) * fractionSize + significand pattern := by
  have hsplit := Nat.div_add_mod pattern fractionSize
  unfold scale significand
  split
  · rename_i hzero
    rw [hzero]
    simp
  · rename_i hnormal
    obtain ⟨exponent, hexponent⟩ := Nat.exists_eq_succ_of_ne_zero hnormal
    rw [hexponent, Nat.mul_succ] at hsplit
    rw [hexponent, Nat.max_eq_right (Nat.succ_le_succ (Nat.zero_le _)), Nat.succ_sub_one, Nat.mul_comm]
    omega

/-- A ratio is not rounded beyond a value that it does not exceed. -/
theorem roundRatio_le {numerator denominator pattern : Nat} (hpositive : 0 < denominator)
    (h : numerator * unitsInOne ≤ significand pattern * 2 ^ scale pattern * denominator) :
    roundRatio numerator denominator ≤ pattern := by
  unfold roundRatio
  dsimp only
  refine Nat.le_trans (Nat.min_le_right _ _) ?_
  generalize hunits : numerator * unitsInOne = units at h
  generalize hexponent : max 1 ((units / denominator).log2 - 52) = exponent
  have hscale : 1 ≤ scale pattern := Nat.le_max_left 1 _
  have hdivided : units / denominator < 2 ^ (53 + scale pattern) := by
    refine (Nat.div_lt_iff_lt_mul hpositive).mpr (Nat.lt_of_le_of_lt h ?_)
    rw [Nat.pow_add]
    exact Nat.mul_lt_mul_of_pos_right
      (Nat.mul_lt_mul_of_pos_right (lt_two_pow_of_significand pattern) (Nat.pow_pos (by decide))) hpositive
  have hlog : (units / denominator).log2 < 53 + scale pattern := by
    by_cases hzero : units / denominator = 0
    · rw [hzero, Nat.log2_zero]
      omega
    · exact (Nat.log2_lt hzero).mpr hdivided
  have hpattern := pattern_eq pattern
  have hfactor : 0 < denominator * 2 ^ exponent := Nat.mul_pos hpositive (Nat.pow_pos (by decide))
  rcases Nat.lt_or_eq_of_le (show exponent ≤ scale pattern by omega) with hless | hequal
  · -- the exponent is smaller, and the significand at most carries into it
    have hsignificand : roundHalfEven units (denominator * 2 ^ exponent) ≤ 2 ^ 53 := by
      refine roundHalfEven_le hfactor ?_
      have hbelow : units / denominator < 2 ^ (53 + exponent) := by
        refine Nat.lt_of_lt_of_le Nat.lt_log2_self ?_
        exact Nat.pow_le_pow_right (by decide) (by omega)
      calc units ≤ 2 ^ (53 + exponent) * denominator := Nat.le_of_lt ((Nat.div_lt_iff_lt_mul hpositive).mp hbelow)
        _ = 2 ^ 53 * (denominator * 2 ^ exponent) := by rw [Nat.pow_add, Nat.mul_assoc, Nat.mul_comm denominator]
    have hnormal : pattern / fractionSize = scale pattern := by
      unfold scale at hless hscale ⊢
      omega
    have hlarge : (exponent + 1) * fractionSize ≤ pattern := by
      calc (exponent + 1) * fractionSize ≤ pattern / fractionSize * fractionSize :=
            Nat.mul_le_mul_right _ (by omega)
        _ ≤ pattern := Nat.div_mul_le_self pattern fractionSize
    have hcarry : (exponent - 1) * fractionSize + 2 ^ 53 = (exponent + 1) * fractionSize := by
      obtain ⟨lower, rfl⟩ := Nat.exists_eq_add_of_le' (show 1 ≤ exponent by omega)
      unfold fractionSize
      rw [Nat.add_sub_cancel]
      omega
    omega
  · rw [← hequal] at h hpattern
    have hsignificand : roundHalfEven units (denominator * 2 ^ exponent) ≤ significand pattern := by
      refine roundHalfEven_le hfactor ?_
      rwa [Nat.mul_comm denominator, ← Nat.mul_assoc]
    omega

end Bound

section Nearest

/-- The units that a pattern counts. -/
def units (pattern : Nat) : Nat := significand pattern * 2 ^ scale pattern

variable {numerator denominator : Nat}

/-- Half a unit is lost at most. -/
theorem roundHalfEven_near (numerator : Nat) (hpositive : 0 < denominator) :
    2 * (roundHalfEven numerator denominator * denominator) ≤ 2 * numerator + denominator ∧
      2 * numerator ≤ 2 * (roundHalfEven numerator denominator * denominator) + denominator := by
  have hsplit := Nat.div_add_mod numerator denominator
  have hrest := Nat.mod_lt numerator hpositive
  unfold roundHalfEven
  dsimp only
  rw [Nat.mul_comm denominator] at hsplit
  split
  · rw [Nat.add_mul, Nat.one_mul]
    omega
  · omega

/-- The integer that is nearer than half a unit. -/
theorem roundHalfEven_eq {nearest : Nat} (hpositive : 0 < denominator)
    (hbelow : 2 * numerator < (2 * nearest + 1) * denominator)
    (habove : 2 * nearest * denominator < 2 * numerator + denominator) :
    roundHalfEven numerator denominator = nearest := by
  obtain ⟨hupper, hlower⟩ := roundHalfEven_near numerator hpositive
  generalize roundHalfEven numerator denominator = rounded at hupper hlower
  have hle : rounded < nearest + 1 := by
    refine Nat.lt_of_mul_lt_mul_right (a := 2 * denominator) ?_
    linarith
  have hge : nearest < rounded + 1 := by
    refine Nat.lt_of_mul_lt_mul_right (a := 2 * denominator) ?_
    linarith
  omega

/-- A significand that has come to the next power of two stands for the exponent behind. -/
theorem units_carried {exponent rounded : Nat} (hexponent : 1 ≤ exponent) (hlower : 2 ^ 52 ≤ rounded)
    (hupper : rounded ≤ 2 ^ 53) : units ((exponent - 1) * fractionSize + rounded) = rounded * 2 ^ exponent := by
  obtain ⟨lower, rfl⟩ := Nat.exists_eq_add_of_le' hexponent
  rw [Nat.add_sub_cancel]
  have hpositive : 0 < fractionSize := Nat.pow_pos (by decide)
  rcases Nat.lt_or_eq_of_le hupper with hless | rfl
  · obtain ⟨fraction, rfl⟩ := Nat.exists_eq_add_of_le hlower
    have hsplit : lower * fractionSize + (2 ^ 52 + fraction) = fraction + fractionSize * (lower + 1) := by
      unfold fractionSize
      ring
    have hfraction : fraction < fractionSize := by
      unfold fractionSize
      omega
    have hdiv : (fraction + fractionSize * (lower + 1)) / fractionSize = lower + 1 := by
      rw [Nat.add_mul_div_left _ _ hpositive, Nat.div_eq_of_lt hfraction, Nat.zero_add]
    have hmod : (fraction + fractionSize * (lower + 1)) % fractionSize = fraction := by
      rw [Nat.add_mul_mod_self_left, Nat.mod_eq_of_lt hfraction]
    rw [hsplit, units, significand, scale, hdiv, hmod, if_neg (Nat.succ_ne_zero lower),
      Nat.max_eq_right (Nat.le_add_left 1 lower)]
    rfl
  · have hsplit : lower * fractionSize + 2 ^ 53 = fractionSize * (lower + 2) := by
      unfold fractionSize
      ring
    have hdiv : fractionSize * (lower + 2) / fractionSize = lower + 2 := Nat.mul_div_cancel_left _ hpositive
    have hmod : fractionSize * (lower + 2) % fractionSize = 0 := Nat.mul_mod_right _ _
    rw [hsplit, units, significand, scale, hdiv, hmod, if_neg (Nat.succ_ne_zero (lower + 1)),
      Nat.max_eq_right (Nat.le_add_left 1 (lower + 1))]
    unfold fractionSize
    ring

/-- A ratio in the middle of the range is off by one part in `2 ^ 53` at most. -/
theorem roundRatio_near (hpositive : 0 < denominator) (hlarge : denominator ≤ 2 ^ 200 * numerator)
    (hsmall : numerator ≤ 2 ^ 200 * denominator) :
    2 ^ 53 * (units (roundRatio numerator denominator) * denominator) ≤ (2 ^ 53 + 1) * (numerator * unitsInOne) ∧
      2 ^ 53 * (numerator * unitsInOne) ≤
        2 ^ 53 * (units (roundRatio numerator denominator) * denominator) + numerator * unitsInOne := by
  have hone : 2 ^ 253 ≤ unitsInOne := by
    unfold unitsInOne
    gcongr <;> decide
  have hnormal : 2 ^ 53 ≤ numerator * unitsInOne / denominator := by
    refine (Nat.le_div_iff_mul_le hpositive).mpr ?_
    calc 2 ^ 53 * denominator ≤ 2 ^ 53 * (2 ^ 200 * numerator) := Nat.mul_le_mul_left _ hlarge
      _ = numerator * 2 ^ 253 := by ring
      _ ≤ numerator * unitsInOne := Nat.mul_le_mul_left _ hone
  obtain ⟨top, htop, hsplit⟩ : ∃ top, top = 200 + 1075 ∧ 2 ^ top = 2 ^ 200 * unitsInOne := by
    refine ⟨200 + 1075, rfl, ?_⟩
    rw [unitsInOne, pow_add]
  have hfinite : numerator * unitsInOne / denominator ≤ 2 ^ top := by
    refine Nat.div_le_of_le_mul ?_
    rw [hsplit, ← Nat.mul_assoc, Nat.mul_comm denominator]
    exact Nat.mul_le_mul_right _ hsmall
  have hnonzero : numerator * unitsInOne / denominator ≠ 0 := by
    intro hzero
    rw [hzero] at hnormal
    exact absurd hnormal (by decide)
  unfold roundRatio
  dsimp only
  generalize numerator * unitsInOne = counted at *
  have hlower := Nat.log2_self_le hnonzero
  have hupper : counted / denominator < 2 ^ ((counted / denominator).log2 + 1) := Nat.lt_log2_self
  have hlog : 53 ≤ (counted / denominator).log2 := (Nat.le_log2 hnonzero).mpr hnormal
  have hlog' : (counted / denominator).log2 < top + 1 :=
    (Nat.log2_lt hnonzero).mpr (Nat.lt_of_le_of_lt hfinite (Nat.pow_lt_pow_succ (by decide)))
  obtain ⟨exponent, hexponent⟩ : ∃ exponent, (counted / denominator).log2 = 52 + exponent :=
    Nat.exists_eq_add_of_le (by omega)
  rw [hexponent] at hlower hupper hlog hlog' ⊢
  rw [Nat.add_sub_cancel_left, Nat.max_eq_right (show 1 ≤ exponent by omega)]
  -- the step between the values around
  have hstep : 0 < denominator * 2 ^ exponent := Nat.mul_pos hpositive (Nat.pow_pos (by decide))
  have hcounted : 2 ^ 52 * (denominator * 2 ^ exponent) ≤ counted := by
    have h := (Nat.le_div_iff_mul_le hpositive).mp hlower
    rw [Nat.pow_add] at h
    linarith
  have hcounted' : counted < 2 ^ 53 * (denominator * 2 ^ exponent) := by
    have h := (Nat.div_lt_iff_lt_mul hpositive).mp hupper
    rw [show 52 + exponent + 1 = 53 + exponent by omega, Nat.pow_add] at h
    linarith
  obtain ⟨hover, hunder⟩ := roundHalfEven_near counted hstep
  have hrounded : roundHalfEven counted (denominator * 2 ^ exponent) ≤ 2 ^ 53 :=
    roundHalfEven_le hstep (Nat.le_of_lt hcounted')
  generalize roundHalfEven counted (denominator * 2 ^ exponent) = rounded at *
  have hrounded' : 2 ^ 52 ≤ rounded := by
    have hless : 2 ^ 53 < 2 * rounded + 2 := by
      refine Nat.lt_of_mul_lt_mul_right (a := denominator * 2 ^ exponent) ?_
      linarith
    omega
  have hbound : (exponent - 1) * fractionSize + rounded ≤ infinity := by
    unfold infinity fractionSize
    omega
  rw [Nat.min_eq_right hbound, units_carried (by omega) hrounded' hrounded,
    show rounded * 2 ^ exponent * denominator = rounded * (denominator * 2 ^ exponent) by ring]
  constructor <;> linarith

end Nearest

end Binary64
