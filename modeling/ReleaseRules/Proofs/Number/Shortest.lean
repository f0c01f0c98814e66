import Mathlib.Algebra.Order.Field.Power
import Mathlib.Data.Rat.Cast.Order
import Mathlib.Tactic.NormNum
import Mathlib.Tactic.Positivity
import Mathlib.Tactic.Linarith
import Mathlib.Tactic.Ring
import Mathlib.Tactic.GCongr
import ReleaseRules.Number.Shortest

/-!
Contract: floating-point numbers of 64 bits have a shortest decimal text.

Owns:
- the numbers that 64 bits hold, and that rounding gives no others;
- the search for the shortest digits of such a number, which always finds some.

Does not own: the text of the digits.
-/

namespace ReleaseRules.Number

/-! ## Powers -/

theorem cast_twoTo (exponent : Nat) : (twoTo exponent : ℚ) = 2 ^ (exponent : ℤ) := by
  simp [twoTo]

theorem cast_tenTo (exponent : Nat) : (tenTo exponent : ℚ) = 10 ^ (exponent : ℤ) := by
  simp [tenTo]

theorem twoTo_pos (exponent : Nat) : 0 < twoTo exponent := Nat.pow_pos (by decide)

theorem tenTo_pos (exponent : Nat) : 0 < tenTo exponent := Nat.pow_pos (by decide)

namespace Binary64

/-- Whether 64 bits hold a number: its mantissa and its exponent are in range. -/
def fits (number : Binary64) : Bool :=
  decide (number.mantissa < twoTo 53) && decide (leastExponent ≤ number.exponent) &&
    decide (number.exponent ≤ greatestExponent)

theorem fits_iff (number : Binary64) :
    number.fits = true ↔ number.mantissa < twoTo 53 ∧ leastExponent ≤ number.exponent ∧
      number.exponent ≤ greatestExponent := by
  simp [fits, and_assoc]

theorem fits_zero (negative : Bool) : (zero negative).fits = true := by
  cases negative <;> decide

theorem fits_negate {number : Binary64} (held : number.fits = true) :
    number.negate.fits = true := held

/-! ## Rounding -/

/-- Whether the integer part of a scaled quotient has at most so many bits. -/
theorem scaledQuotient_lt_iff {numerator denominator : Nat} (positive : 0 < denominator)
    (exponent : Int) (bits : Nat) :
    (scaledQuotient numerator denominator exponent).1 /
        (scaledQuotient numerator denominator exponent).2 < twoTo bits ↔
      (numerator : ℚ) < denominator * 2 ^ (exponent + bits) := by
  rw [zpow_add₀ (by norm_num), ← cast_twoTo]
  unfold scaledQuotient
  by_cases upwards : 0 ≤ exponent
  · rw [if_pos upwards, Nat.div_lt_iff_lt_mul (Nat.mul_pos positive (twoTo_pos _)),
      ← Nat.cast_lt (α := ℚ)]
    push_cast
    rw [cast_twoTo exponent.toNat, Int.toNat_of_nonneg upwards]
    ring_nf
  · have downwards : (0 : ℚ) < 2 ^ (-exponent) := by positivity
    rw [if_neg upwards, Nat.div_lt_iff_lt_mul positive, ← Nat.cast_lt (α := ℚ)]
    push_cast
    rw [cast_twoTo (-exponent).toNat, Int.toNat_of_nonneg (by omega),
      ← mul_lt_mul_iff_of_pos_right downwards (b := (numerator : ℚ))]
    have cancelled : (2 : ℚ) ^ exponent * 2 ^ (-exponent) = 1 := by
      rw [← zpow_add₀ (by norm_num), add_neg_cancel, zpow_zero]
    have right : (denominator : ℚ) * (2 ^ exponent * twoTo bits) * 2 ^ (-exponent) =
        twoTo bits * denominator := by
      rw [mul_assoc, mul_right_comm, cancelled, one_mul, mul_comm]
    rw [right]

/-- The chosen exponent leaves an integer part of at most 53 bits. -/
theorem scaledQuotient_quotientExponent_lt {numerator denominator : Nat}
    (positive : 0 < denominator) :
    (scaledQuotient numerator denominator (quotientExponent numerator denominator)).1 /
      (scaledQuotient numerator denominator (quotientExponent numerator denominator)).2 <
        twoTo 53 := by
  rw [scaledQuotient_lt_iff positive]
  have widen : ∀ {small large : Int}, small ≤ large →
      (denominator : ℚ) * 2 ^ small ≤ denominator * 2 ^ large := fun le =>
    mul_le_mul_of_nonneg_left (zpow_le_zpow_right₀ (by norm_num) le) (by positivity)
  have above : (numerator : ℚ) < 2 ^ ((Nat.log2 numerator : Int) + 1) := by
    have bound : numerator < 2 ^ (Nat.log2 numerator + 1) := Nat.lt_log2_self
    exact_mod_cast bound
  have below : (2 : ℚ) ^ (Nat.log2 denominator : Int) ≤ denominator := by
    have bound : 2 ^ Nat.log2 denominator ≤ denominator :=
      Nat.log2_self_le (Nat.ne_of_gt positive)
    exact_mod_cast bound
  have estimated : (numerator : ℚ) <
      denominator * 2 ^ ((Nat.log2 numerator : Int) - Nat.log2 denominator - 53 + 1 + 53) := by
    have split : (Nat.log2 numerator : Int) + 1 =
        Nat.log2 denominator +
          ((Nat.log2 numerator : Int) - Nat.log2 denominator - 53 + 1 + 53) := by
      ring
    rw [split, zpow_add₀ (by norm_num)] at above
    exact above.trans_le (mul_le_mul_of_nonneg_right below (by positivity))
  unfold quotientExponent
  dsimp only
  split
  · rename_i small
    exact ((scaledQuotient_lt_iff positive _ 53).mp small).trans_le
      (widen (Int.add_le_add_right (le_max_left _ _) _))
  · exact estimated.trans_le (widen (Int.add_le_add_right (le_max_left _ _) _))

theorem roundQuotient_le (numerator denominator : Nat) :
    roundQuotient numerator denominator ≤ numerator / denominator + 1 := by
  unfold roundQuotient
  dsimp only
  split
  · exact Nat.le_refl _
  · split
    · exact Nat.le_refl _
    · exact Nat.le_succ _

/-- Every rounded quotient is held by 64 bits. -/
theorem fits_of_ofQuotient {negative : Bool} {numerator denominator : Nat} {number : Binary64}
    (rounded : ofQuotient negative numerator denominator = some number) :
    number.fits = true := by
  unfold ofQuotient at rounded
  split at rounded
  · exact Option.some.inj rounded ▸ fits_zero negative
  · have short : (scaledQuotient numerator denominator
          (quotientExponent numerator denominator)).1 /
        (scaledQuotient numerator denominator (quotientExponent numerator denominator)).2 <
          twoTo 53 := by
      rcases Nat.eq_zero_or_pos denominator with rfl | positive
      · have vanishes : ∀ exponent, (scaledQuotient numerator 0 exponent).2 = 0 := by
          intro exponent
          unfold scaledQuotient
          split <;> simp
        rw [vanishes, Nat.div_zero]
        exact twoTo_pos 53
      · exact scaledQuotient_quotientExponent_lt positive
    have least : leastExponent ≤ quotientExponent numerator denominator := le_max_right _ _
    have bound := (roundQuotient_le _ _).trans (Nat.succ_le_of_lt short)
    dsimp only at rounded
    generalize roundQuotient _ _ = mantissa at rounded bound
    generalize quotientExponent numerator denominator = exponent at rounded least
    by_cases full : mantissa = twoTo 53
    · rw [if_pos full] at rounded
      split at rounded
      · cases rounded
      · rename_i small
        obtain rfl := Option.some.inj rounded
        dsimp only at small
        exact (fits_iff _).mpr ⟨(by decide : twoTo 52 < twoTo 53), by dsimp only; omega,
          by dsimp only; omega⟩
    · rw [if_neg full] at rounded
      split at rounded
      · cases rounded
      · rename_i small
        obtain rfl := Option.some.inj rounded
        dsimp only at small
        exact (fits_iff _).mpr ⟨Nat.lt_of_le_of_ne bound full, least, by dsimp only; omega⟩

theorem fits_of_multiply {left right number : Binary64}
    (product : left.multiply right = some number) : number.fits = true :=
  fits_of_ofQuotient product

theorem fits_of_divide {left right number : Binary64}
    (quotient : left.divide right = some number) : number.fits = true :=
  fits_of_ofQuotient quotient

theorem fits_of_ofNat {value : Nat} {number : Binary64} (rounded : ofNat value = some number) :
    number.fits = true :=
  fits_of_ofQuotient rounded

end Binary64

/-! ## The search for digits -/

namespace RoundingInterval

/-- The multiple of a grid below the middle of an interval, or on it. -/
def multipleBelow (interval : RoundingInterval) (exponent : Int) : Nat :=
  if 0 ≤ exponent then interval.middle / (interval.denominator * tenTo exponent.toNat)
  else interval.middle * tenTo (-exponent).toNat / interval.denominator

/-- What lies on a grid is one of the two multiples around the middle. -/
theorem onGrid_cases (interval : RoundingInterval) (exponent : Int) :
    (interval.onGrid exponent = some (interval.multipleBelow exponent) ∧
        interval.multipleBelow exponent ≠ 0) ∨
      interval.onGrid exponent = some (interval.multipleBelow exponent + 1) ∨
      interval.onGrid exponent = none ∧
        interval.admits (interval.multipleBelow exponent + 1) exponent = false := by
  have quotient : (if 0 ≤ exponent then interval.middle
        else interval.middle * tenTo (-exponent).toNat) /
      (if 0 ≤ exponent then interval.denominator * tenTo exponent.toNat
        else interval.denominator) = interval.multipleBelow exponent := by
    unfold multipleBelow
    split <;> rfl
  unfold onGrid
  dsimp only
  rw [quotient]
  generalize (if 0 ≤ exponent then interval.denominator * tenTo exponent.toNat
    else interval.denominator) = denominator
  generalize (if 0 ≤ exponent then interval.middle
    else interval.middle * tenTo (-exponent).toNat) % denominator = remainder
  split
  · rename_i chosen
    simp only [Bool.and_eq_true, bne_iff_ne] at chosen
    exact .inl ⟨rfl, chosen.1.2⟩
  · split
    · exact .inr (.inl rfl)
    · rename_i outside
      exact .inr (.inr ⟨rfl, Bool.eq_false_iff.mpr outside⟩)

theorem ne_zero_of_onGrid {interval : RoundingInterval} {exponent : Int} {significand : Nat}
    (found : interval.onGrid exponent = some significand) : significand ≠ 0 := by
  rcases interval.onGrid_cases exponent with ⟨below, nonzero⟩ | above | ⟨missing, -⟩
  · exact Option.some.inj (below.symm.trans found) ▸ nonzero
  · exact Option.some.inj (above.symm.trans found) ▸ Nat.succ_ne_zero _
  · cases missing.symm.trans found

/-- The next multiple of a step above a number is not further away than the step. -/
private theorem next_multiple {step : Nat} (positive : 0 < step) (number : Nat) :
    number < (number / step + 1) * step ∧ (number / step + 1) * step ≤ number + step := by
  refine ⟨?_, ?_⟩
  · rw [Nat.mul_comm]
    exact Nat.lt_mul_div_succ number positive
  · rw [Nat.add_mul, Nat.one_mul]
    exact Nat.add_le_add_right (Nat.div_mul_le_self number step) step

/-- A grid that is finer than the upper half of the interval has a member in it: the next multiple
above the middle. -/
theorem isSome_onGrid_of_fine {interval : RoundingInterval} {exponent : Int}
    (ordered : interval.lower ≤ interval.middle) (positive : 0 < interval.denominator)
    (fine : (interval.middle : ℚ) + interval.denominator * 10 ^ exponent < interval.upper) :
    (interval.onGrid exponent).isSome = true := by
  have admitted : ∀ {low value high : Nat}, low < value → value < high →
      (if interval.closed then decide (low ≤ value) && decide (value ≤ high)
        else decide (low < value) && decide (value < high)) = true := by
    intro low value high above below
    split
    · simp [above.le, below.le]
    · simp [above, below]
  have member : interval.admits (interval.multipleBelow exponent + 1) exponent = true := by
    unfold admits multipleBelow
    by_cases upwards : 0 ≤ exponent
    · have narrow : interval.middle + interval.denominator * tenTo exponent.toNat <
          interval.upper := by
        rw [← Int.toNat_of_nonneg upwards, ← cast_tenTo] at fine
        exact_mod_cast fine
      obtain ⟨above, close⟩ := next_multiple
        (Nat.mul_pos positive (tenTo_pos exponent.toNat)) interval.middle
      simp only [if_pos upwards, Nat.mul_one]
      rw [Nat.mul_assoc, Nat.mul_comm (tenTo _)]
      exact admitted (ordered.trans_lt above) (close.trans_lt narrow)
    · have narrow : interval.middle * tenTo (-exponent).toNat + interval.denominator <
          interval.upper * tenTo (-exponent).toNat := by
        have power : (0 : ℚ) < 10 ^ (-exponent) := by positivity
        have scaled := mul_lt_mul_of_pos_right fine power
        rw [add_mul, mul_assoc (interval.denominator : ℚ), ← zpow_add₀ (by norm_num),
          add_neg_cancel, zpow_zero, mul_one, ← Int.toNat_of_nonneg (by omega : 0 ≤ -exponent),
          ← cast_tenTo] at scaled
        exact_mod_cast scaled
      obtain ⟨above, close⟩ := next_multiple positive
        (interval.middle * tenTo (-exponent).toNat)
      simp only [if_neg upwards]
      exact admitted ((Nat.mul_le_mul_right _ ordered).trans_lt above) (close.trans_lt narrow)
  rcases interval.onGrid_cases exponent with ⟨below, -⟩ | above | ⟨-, outside⟩
  · rw [below]
    rfl
  · rw [above]
    rfl
  · cases member.symm.trans outside

/-- A search that comes upon a grid with a member of the interval gives digits. -/
theorem significand_search_ne_zero {interval : RoundingInterval} {remaining : Nat}
    {exponent : Int} {steps : Nat} (reached : steps < remaining)
    (member : (interval.onGrid (exponent - steps)).isSome = true) :
    (interval.search remaining exponent).significand ≠ 0 := by
  induction remaining generalizing exponent steps with
  | zero => exact absurd reached (Nat.not_lt_zero _)
  | succ less inductionHypothesis =>
      rw [search]
      split
      · rename_i significand found
        exact ne_zero_of_onGrid found
      · rename_i missing
        cases steps with
        | zero =>
            rw [Nat.cast_zero, Int.sub_zero, missing] at member
            cases member
        | succ before =>
            refine inductionHypothesis (Nat.lt_of_succ_lt_succ reached) ?_
            have same : exponent - 1 - (before : Int) = exponent - (before + 1 : Nat) := by
              push_cast
              ring
            rw [same]
            exact member

end RoundingInterval

namespace Binary64

/-- A grid is fine enough if its step is less than half of the distance to the next number. -/
theorem isSome_onGrid {number : Binary64} {exponent : Int}
    (fine : 2 * (10 : ℚ) ^ exponent < 2 ^ number.exponent) :
    (number.roundingInterval.onGrid exponent).isSome = true := by
  have scaled : ∃ scale denominator : Nat, 0 < denominator ∧
      number.roundingInterval.lower ≤ 4 * number.mantissa * scale ∧
      number.roundingInterval.middle = 4 * number.mantissa * scale ∧
      number.roundingInterval.upper = (4 * number.mantissa + 2) * scale ∧
      number.roundingInterval.denominator = 4 * denominator ∧
      (2 : ℚ) ^ number.exponent * denominator = scale := by
    refine ⟨_, _, ?_, Nat.mul_le_mul_right _ (Nat.sub_le _ _), rfl, rfl, rfl, ?_⟩
    · split
      · exact Nat.one_pos
      · exact twoTo_pos _
    · split
      · rename_i upwards
        rw [cast_twoTo, Int.toNat_of_nonneg upwards, Nat.cast_one, mul_one]
      · rw [cast_twoTo, Int.toNat_of_nonneg (by omega), ← zpow_add₀ (by norm_num),
          add_neg_cancel, zpow_zero, Nat.cast_one]
  obtain ⟨scale, denominator, positive, lower, middle, upper, isDenominator, power⟩ := scaled
  have cast : (0 : ℚ) < denominator := by exact_mod_cast positive
  refine RoundingInterval.isSome_onGrid_of_fine (middle ▸ lower) (by omega) ?_
  rw [middle, upper, isDenominator]
  push_cast
  have half := mul_lt_mul_of_pos_right fine cast
  rw [power] at half
  linarith

private theorem pow_ten_le (exponent : Nat) :
    10 ^ exponent ≤ 2 ^ (10 * (exponent / 3) + 4 * (exponent % 3)) := by
  have split : 10 ^ exponent = (10 ^ 3) ^ (exponent / 3) * 10 ^ (exponent % 3) := by
    rw [← pow_mul, ← pow_add, Nat.div_add_mod]
  rw [split, pow_add, pow_mul, pow_mul]
  exact Nat.mul_le_mul (Nat.pow_le_pow_left (by decide) _) (Nat.pow_le_pow_left (by decide) _)

private theorem le_pow_ten (exponent : Nat) :
    2 ^ (33 * (exponent / 10) + 3 * (exponent % 10)) ≤ 10 ^ exponent := by
  have split : 10 ^ exponent = (10 ^ 10) ^ (exponent / 10) * 10 ^ (exponent % 10) := by
    rw [← pow_mul, ← pow_add, Nat.div_add_mod]
  rw [split, pow_add, pow_mul, pow_mul]
  exact Nat.mul_le_mul (Nat.pow_le_pow_left (by decide) _) (Nat.pow_le_pow_left (by decide) _)

/-- Twenty-four grids are enough for a number that 64 bits hold: three decimal digits are worth at
most ten bits, and ten decimal digits at least 33. -/
theorem fine_of_fits {number : Binary64} (held : number.fits = true)
    (nonzero : number.mantissa ≠ 0) :
    2 * (10 : ℚ) ^ (number.decimalMagnitude - 23) < 2 ^ number.exponent := by
  obtain ⟨short, least, greatest⟩ := (fits_iff number).mp held
  have bits : Nat.log2 number.mantissa < 53 := (Nat.log2_lt nonzero).mpr short
  simp only [leastExponent, greatestExponent] at least greatest
  have magnitude : number.decimalMagnitude =
      if 0 ≤ (Nat.log2 number.mantissa : Int) + number.exponent + 1 then
        ((Nat.log2 number.mantissa : Int) + number.exponent + 1) * 30103 / 100000 + 1
      else -(-((Nat.log2 number.mantissa : Int) + number.exponent + 1) * 30102 / 100000) + 1 := rfl
  generalize grid : number.decimalMagnitude - 23 = exponent
  rcases Int.le_total 0 exponent with upwards | downwards
  · obtain ⟨power, rfl⟩ := Int.eq_ofNat_of_zero_le upwards
    have bounded : (10 : ℚ) ^ power ≤ 2 ^ (10 * (power / 3) + 4 * (power % 3)) := by
      exact_mod_cast pow_ten_le power
    have fewer : ((10 * (power / 3) + 4 * (power % 3) : Nat) : Int) + 1 < number.exponent := by
      split at magnitude <;> omega
    calc 2 * (10 : ℚ) ^ (power : Int)
        ≤ 2 * 2 ^ (10 * (power / 3) + 4 * (power % 3)) := by
          rw [zpow_natCast]
          exact mul_le_mul_of_nonneg_left bounded (by norm_num)
      _ = 2 ^ (((10 * (power / 3) + 4 * (power % 3) : Nat) : Int) + 1) := by
          rw [zpow_add₀ (by norm_num), zpow_natCast, zpow_one, mul_comm]
      _ < 2 ^ number.exponent := zpow_lt_zpow_right₀ (by norm_num) fewer
  · obtain ⟨power, isPower⟩ := Int.eq_ofNat_of_zero_le (Int.neg_nonneg_of_nonpos downwards)
    have bounded : (2 : ℚ) ^ (33 * (power / 10) + 3 * (power % 10)) ≤ 10 ^ power := by
      exact_mod_cast le_pow_ten power
    have more : 1 - number.exponent < ((33 * (power / 10) + 3 * (power % 10) : Nat) : Int) := by
      split at magnitude <;> omega
    have wide : (2 : ℚ) ^ (1 - number.exponent) < 10 ^ power :=
      (zpow_lt_zpow_right₀ (by norm_num) more).trans_le (by rw [zpow_natCast]; exact bounded)
    have inverse : exponent = -(power : Int) := by omega
    rw [inverse, zpow_neg, zpow_natCast, ← div_eq_mul_inv, div_lt_iff₀ (by positivity)]
    calc (2 : ℚ) = 2 ^ number.exponent * 2 ^ (1 - number.exponent) := by
          rw [← zpow_add₀ (by norm_num), add_sub_cancel, zpow_one]
      _ < 2 ^ number.exponent * 10 ^ power := mul_lt_mul_of_pos_left wide (by positivity)

/-- The shortest digits of a number other than zero are not zero. -/
theorem significand_shortestDigits_ne_zero {number : Binary64} (held : number.fits = true)
    (nonzero : number.mantissa ≠ 0) : number.shortestDigits.significand ≠ 0 := by
  rw [shortestDigits, if_neg nonzero]
  have reached : 23 < 24 := by decide
  exact RoundingInterval.significand_search_ne_zero reached
    (isSome_onGrid (fine_of_fits held nonzero))

end Binary64

end ReleaseRules.Number
