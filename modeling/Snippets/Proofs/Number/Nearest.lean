import Mathlib.Algebra.Order.Field.Rat
import Mathlib.Algebra.Ring.Parity
import Mathlib.Tactic.FieldSimp
import Mathlib.Tactic.Linarith
import Mathlib.Tactic.Positivity
import Snippets.Number.Binary64

/-!
# Nearest whole numbers

Rounding a quotient gives the nearest whole number, the even one of two.  Since this determines
the number, greater quotients have no smaller ones, whichever fractions they are given by.  Whole
numbers with at most as many bits as a floating-point number has significant ones are not changed
when they are turned into one.
-/

namespace Snippets
namespace Number

/-- Whether a whole number is the nearest one to a number, the even one of two. -/
structure IsNearest (number : ℚ) (whole : ℕ) : Prop where
  /-- It is at most a half away. -/
  near : |(whole : ℚ) - number| ≤ 1 / 2
  /-- It is even if it is a half away. -/
  even : |(whole : ℚ) - number| = 1 / 2 → Even whole

/-- A number whose floor is at most a half below it has its floor as nearest whole number, unless
the floor is odd and just a half below. -/
theorem isNearest_floor
    {floor : ℕ}
    {fraction : ℚ}
    (notNegative : 0 ≤ fraction)
    (small : fraction < 1 / 2 ∨ fraction = 1 / 2 ∧ Even floor) :
    IsNearest (floor + fraction) floor := by
  have distance : |(floor : ℚ) - (floor + fraction)| = fraction := by
    rw [sub_add_cancel_left, abs_neg, abs_of_nonneg notNegative]
  refine ⟨?_, fun tie => ?_⟩
  · rw [distance]
    exact small.elim le_of_lt fun half => half.1.le
  · rw [distance] at tie
    exact small.elim (fun less => absurd tie less.ne) And.right

theorem isNearest_succ_floor
    {floor : ℕ}
    {fraction : ℚ}
    (below : fraction < 1)
    (great : 1 / 2 < fraction ∨ fraction = 1 / 2 ∧ ¬Even floor) :
    IsNearest (floor + fraction) (floor + 1) := by
  have distance : |((floor + 1 : ℕ) : ℚ) - (floor + fraction)| = 1 - fraction := by
    rw [Nat.cast_add_one, add_sub_add_left_eq_sub, abs_of_pos (sub_pos.mpr below)]
  refine ⟨?_, fun tie => ?_⟩
  · rw [distance]
    rcases great with more | half <;> linarith
  · rw [distance] at tie
    rcases great with more | half
    · linarith
    · exact Nat.even_add_one.mpr half.2

theorem isNearest_roundHalfEven
    (numerator : ℕ)
    {denominator : ℕ}
    (positive : 0 < denominator) :
    IsNearest (numerator / denominator) (roundHalfEven numerator denominator) := by
  have positiveToo : (0 : ℚ) < denominator := by exact_mod_cast positive
  obtain ⟨fraction, isFraction⟩ :
      ∃ fraction : ℚ, fraction = (numerator % denominator : ℕ) / denominator := ⟨_, rfl⟩
  have parts : (numerator : ℚ) / denominator = (numerator / denominator : ℕ) + fraction := by
    rw [isFraction, div_eq_iff positiveToo.ne', add_mul, div_mul_cancel₀ _ positiveToo.ne']
    exact_mod_cast (Nat.div_add_mod' numerator denominator).symm
  have notNegative : 0 ≤ fraction := by
    rw [isFraction]
    positivity
  have below : fraction < 1 := by
    rw [isFraction, div_lt_one positiveToo]
    exact_mod_cast Nat.mod_lt numerator positive
  have less : fraction < 1 / 2 ↔ 2 * (numerator % denominator) < denominator := by
    rw [isFraction, div_lt_div_iff₀ positiveToo two_pos, one_mul, mul_comm]
    norm_cast
  have more : 1 / 2 < fraction ↔ denominator < 2 * (numerator % denominator) := by
    rw [isFraction, div_lt_div_iff₀ two_pos positiveToo, one_mul, mul_comm]
    norm_cast
  rw [parts]
  unfold roundHalfEven
  dsimp only
  split
  · rename_i isLess
    exact isNearest_floor notNegative (.inl (less.mpr isLess))
  · rename_i notLess
    split
    · rename_i isMore
      exact isNearest_succ_floor below (.inl (more.mpr isMore))
    · rename_i notMore
      have half : fraction = 1 / 2 :=
        le_antisymm (not_lt.mp (more.not.mpr notMore)) (not_lt.mp (less.not.mpr notLess))
      split
      · rename_i even
        exact isNearest_floor notNegative (.inr ⟨half, Nat.even_iff.mpr even⟩)
      · rename_i odd
        exact isNearest_succ_floor below (.inr ⟨half, Nat.even_iff.not.mpr odd⟩)

/-- The nearest whole number of a greater number is no smaller. -/
theorem IsNearest.le
    {first second : ℚ}
    {whole wholeToo : ℕ}
    (nearest : IsNearest first whole)
    (nearestToo : IsNearest second wholeToo)
    (le : first ≤ second) :
    whole ≤ wholeToo := by
  by_contra notLe
  -- Two neighbours would be the nearest ones of one number that is a half away from both.
  have next : (wholeToo : ℚ) + 1 ≤ whole := by exact_mod_cast Nat.lt_of_not_le notLe
  obtain ⟨-, above⟩ := abs_le.mp nearest.near
  obtain ⟨below, -⟩ := abs_le.mp nearestToo.near
  have even : Even whole := nearest.even (by rw [abs_of_nonneg] <;> linarith)
  have evenToo : Even wholeToo := nearestToo.even (by rw [abs_of_nonpos] <;> linarith)
  have same : whole = wholeToo + 1 := by
    have equal : (whole : ℚ) = wholeToo + 1 := by linarith
    exact_mod_cast equal
  rw [same, Nat.even_add_one] at even
  exact even evenToo

theorem IsNearest.eq
    {number : ℚ}
    {whole wholeToo : ℕ}
    (nearest : IsNearest number whole)
    (nearestToo : IsNearest number wholeToo) :
    whole = wholeToo :=
  le_antisymm (nearest.le nearestToo le_rfl) (nearestToo.le nearest le_rfl)

/-- A whole number is its own nearest one. -/
theorem isNearest_cast (whole : ℕ) : IsNearest whole whole := by
  constructor <;> simp

theorem roundHalfEven_mul_right
    (whole : ℕ)
    {denominator : ℕ}
    (positive : 0 < denominator) :
    roundHalfEven (whole * denominator) denominator = whole := by
  have nearest := isNearest_roundHalfEven (whole * denominator) positive
  have notZero : (denominator : ℚ) ≠ 0 := by exact_mod_cast positive.ne'
  rw [Nat.cast_mul, mul_div_cancel_right₀ _ notZero] at nearest
  exact nearest.eq (isNearest_cast whole)

namespace Binary64

theorem one_eq : one = 2 ^ 1074 := by decide +kernel

theorem one_pos : 0 < one := by decide +kernel

theorem le_bound : 2 ^ (precision + 1074) ≤ bound := by decide +kernel

/-- A whole number with at most 53 bits is not changed when it is rounded. -/
theorem ofRatio_of_lt
    (negative : Bool)
    {whole : ℕ}
    (small : whole < 2 ^ precision) :
    ofRatio negative whole 1 = finite negative (whole * one) := by
  obtain ⟨units, isUnits⟩ : ∃ units, units = whole * one := ⟨_, rfl⟩
  have few : units < 2 ^ (precision + 1074) := by
    rw [isUnits, one_eq, pow_add]
    exact Nat.mul_lt_mul_of_pos_right small (by positivity)
  -- The last significant bit of the number counts for no more than one.
  obtain ⟨step, isStep⟩ : ∃ step, step = Nat.log2 units + 1 - precision := ⟨_, rfl⟩
  have le : step ≤ 1074 := by
    have size : Nat.log2 units < precision + 1074 := by
      by_cases zero : units = 0
      · rw [zero]
        decide
      · exact (Nat.log2_lt zero).mpr few
    omega
  have positive : 0 < 2 ^ step := by positivity
  have multiple : units = whole * 2 ^ (1074 - step) * 2 ^ step := by
    rw [mul_assoc, ← pow_add, Nat.sub_add_cancel le, isUnits, one_eq]
  have enough : units < bound := few.trans_le le_bound
  have rounded : roundHalfEven units (2 ^ step) * 2 ^ step = units := by
    conv_lhs => rw [multiple, roundHalfEven_mul_right _ positive]
    exact multiple.symm
  unfold ofRatio
  dsimp only
  rw [← isUnits, Nat.div_one, ← isStep, one_mul, Nat.pow_eq, rounded, if_pos enough]

end Binary64
end Number
end Snippets
