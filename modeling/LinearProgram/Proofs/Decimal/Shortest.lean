import LinearProgram.Decimal.Shortest
import LinearProgram.Proofs.Rounding.Powers

/-!
# Shortest decimals round to their doubles

The shortest decimal of a double is found on some grid of seventeen digits or fewer, lies
between the midpoints around the double and hence is rounded to it, and has an exponent
within the range of the doubles.
-/

namespace LinearProgram.Decimal

open Double

/-! ## Scientific decimals -/

namespace Scientific

def value (decimal : Scientific) : ℚ :=
  decimal.coefficient * 10 ^ decimal.exponent

variable (coefficient : ℕ) (exponent : ℤ)

theorem trimmed_value : (trimmed coefficient exponent).value = coefficient * 10 ^ exponent := by
  fun_induction trimmed coefficient exponent with
  | case1 coefficient exponent ends induction =>
      have whole : (coefficient : ℚ) = (coefficient / 10 : ℕ) * 10 := by
        exact_mod_cast (Nat.div_mul_cancel (Nat.dvd_of_mod_eq_zero ends.2)).symm
      rw [induction, whole, zpow_add_one₀ (by norm_num)]
      ring
  | case2 => rfl

theorem trimmed_le : (trimmed coefficient exponent).coefficient ≤ coefficient := by
  fun_induction trimmed coefficient exponent with
  | case1 coefficient exponent ends induction => exact induction.trans (Nat.div_le_self _ _)
  | case2 => exact le_rfl

theorem le_trimmed : exponent ≤ (trimmed coefficient exponent).exponent := by
  fun_induction trimmed coefficient exponent with
  | case1 coefficient exponent ends induction => omega
  | case2 => exact le_rfl

theorem trimmed_pos {coefficient : ℕ} (positive : 0 < coefficient) :
    0 < (trimmed coefficient exponent).coefficient := by
  fun_induction trimmed coefficient exponent with
  | case1 coefficient exponent ends induction => exact induction (by omega)
  | case2 => exact positive

end Scientific

/-! ## Leading digits -/

theorem digits_bounds {number : ℕ} (positive : 0 < number) :
    10 ^ ((Nat.toDigits 10 number).length - 1) ≤ number ∧
      number < 10 ^ (Nat.toDigits 10 number).length := by
  have some : 0 < (Nat.toDigits 10 number).length := Nat.length_toDigits_pos
  refine ⟨?_, (Nat.length_toDigits_le_iff (by decide) some).mp le_rfl⟩
  rcases Nat.eq_zero_or_pos ((Nat.toDigits 10 number).length - 1) with single | more
  · rwa [single, pow_zero]
  · by_contra small
    have := (Nat.length_toDigits_le_iff (by decide) more).mpr (not_le.mp small)
    omega

theorem leading_bounds {num den : ℕ} (positive : 0 < num) (positive' : 0 < den) :
    (10 : ℚ) ^ leadingExponentOf num den ≤ num / den ∧
      (num / den : ℚ) < 10 ^ (leadingExponentOf num den + 1) := by
  have size : (0 : ℚ) < den := Nat.cast_pos.mpr positive'
  unfold leadingExponentOf
  split_ifs with large
  · obtain ⟨lower, upper⟩ := digits_bounds (Nat.div_pos large positive')
    have count : (((Nat.toDigits 10 (num / den)).length - 1 : ℕ) : ℤ) + 1 =
        (Nat.toDigits 10 (num / den)).length := by
      have : 0 < (Nat.toDigits 10 (num / den)).length := Nat.length_toDigits_pos
      omega
    rw [count, zpow_natCast, zpow_natCast, le_div_iff₀ size, div_lt_iff₀ size]
    exact ⟨by exact_mod_cast (Nat.le_div_iff_mul_le positive').mp lower,
      by exact_mod_cast (Nat.div_lt_iff_lt_mul positive').mp upper⟩
  · have small : num ≤ den - 1 := by omega
    obtain ⟨lower, upper⟩ := digits_bounds (Nat.div_pos small positive)
    have some : 0 < (Nat.toDigits 10 ((den - 1) / num)).length := Nat.length_toDigits_pos
    generalize (Nat.toDigits 10 ((den - 1) / num)).length = length at *
    have next : -(length : ℤ) + 1 = -((length - 1 : ℕ) : ℤ) := by omega
    have isUpper := (Nat.div_lt_iff_lt_mul positive).mp upper
    have isLower := (Nat.le_div_iff_mul_le positive).mp lower
    rw [next, zpow_neg, zpow_neg, zpow_natCast, zpow_natCast,
      inv_le_iff_one_le_mul₀ (by positivity), div_mul_eq_mul_div, one_le_div size, ← one_div,
      div_lt_div_iff₀ size (by positivity)]
    constructor
    · exact_mod_cast (show den ≤ num * 10 ^ length by rw [mul_comm]; omega)
    · exact_mod_cast (show num * 10 ^ (length - 1) < 1 * den by rw [mul_comm, one_mul]; omega)

theorem pow_to_nat {base : ℚ} (nonzero : base ≠ 0) (exponent : ℤ) :
    base ^ exponent.toNat / base ^ (-exponent).toNat = base ^ exponent := by
  rw [← zpow_natCast, ← zpow_natCast, ← zpow_sub₀ nonzero]
  congr 1
  omega

theorem scale_pos (binary decimal : ℤ) :
    0 < (scale binary decimal).1 ∧ 0 < (scale binary decimal).2 :=
  ⟨Nat.mul_pos (Nat.pow_pos two_pos) (Nat.pow_pos (by decide)),
    Nat.mul_pos (Nat.pow_pos two_pos) (Nat.pow_pos (by decide))⟩

theorem scale_value (binary decimal : ℤ) :
    ((scale binary decimal).1 / (scale binary decimal).2 : ℚ) = 2 ^ binary / 10 ^ decimal := by
  rw [← pow_to_nat two_ne_zero binary, ← pow_to_nat (by norm_num : (10 : ℚ) ≠ 0) decimal]
  simp only [scale, Nat.pow_eq]
  push_cast
  field_simp

/-! ## Grids and intervals -/

namespace Interval

variable {tie : Tie} {interval : Interval} {binary decimal : ℤ} {coefficient : ℕ}

/-- The multiple of `den / num` lies in the interval. -/
def Between (interval : Interval) (num den coefficient : ℕ) : Prop :=
  if interval.closed then
    interval.low * num ≤ coefficient * den ∧ coefficient * den ≤ interval.high * num
  else interval.low * num < coefficient * den ∧ coefficient * den < interval.high * num

/-- The center lies above the one midpoint and below the other. -/
def Ordered (interval : Interval) : Prop :=
  interval.low < interval.center ∧ interval.center < interval.high

theorem div_around (num : ℕ) {den : ℕ} (positive : 0 < den) :
    num / den * den ≤ num ∧ num < (num / den + 1) * den :=
  ⟨Nat.div_mul_le_self _ _, Nat.lt_mul_of_div_lt (Nat.lt_succ_self _) positive⟩

section

variable {num den : ℕ} (positive : 0 < num) (positive' : 0 < den) (ordered : interval.Ordered)
include positive positive' ordered

theorem between_below : interval.Between num den (interval.center * num / den) ↔
    (if interval.closed then decide (interval.low * num ≤ interval.center * num / den * den)
      else decide (interval.low * num < interval.center * num / den * den)) = true := by
  have around := div_around (interval.center * num) positive'
  have less := Nat.mul_lt_mul_of_pos_right ordered.2 positive
  unfold Between
  split_ifs <;> rw [decide_eq_true_iff] <;> omega

theorem between_above : interval.Between num den (interval.center * num / den + 1) ↔
    (if interval.closed then
      decide ((interval.center * num / den + 1) * den ≤ interval.high * num)
      else decide ((interval.center * num / den + 1) * den < interval.high * num)) = true := by
  have around := div_around (interval.center * num) positive'
  have less := Nat.mul_lt_mul_of_pos_right ordered.1 positive
  unfold Between
  split_ifs <;> rw [decide_eq_true_iff] <;> omega

end

/-- What is found is a neighbour of the center, and lies in the interval. -/
theorem on_grid_between (ordered : interval.Ordered)
    (found : interval.onGrid tie binary decimal = some coefficient) :
    interval.Between (scale binary decimal).1 (scale binary decimal).2 coefficient ∧
      (coefficient = interval.center * (scale binary decimal).1 / (scale binary decimal).2 ∨
        coefficient = interval.center * (scale binary decimal).1 / (scale binary decimal).2 + 1) := by
  obtain ⟨positive, positive'⟩ := scale_pos binary decimal
  have below := between_below positive positive' ordered
  have above := between_above positive positive' ordered
  unfold onGrid at found
  generalize scale binary decimal = scaled at *
  obtain ⟨num, den⟩ := scaled
  simp only at *
  split at found
  · split_ifs at found <;> cases found
    · exact ⟨above.mpr ‹_›, .inr rfl⟩
    · exact ⟨below.mpr ‹_›, .inl rfl⟩
  · cases found
    exact ⟨below.mpr ‹_›, .inl rfl⟩
  · cases found
    exact ⟨above.mpr ‹_›, .inr rfl⟩
  · cases found

/-- A grid finer than the interval is wide has a hit. -/
theorem on_grid_fine (ordered : interval.Ordered)
    (fine : (scale binary decimal).2 < (interval.high - interval.low) * (scale binary decimal).1) :
    ∃ coefficient, interval.onGrid tie binary decimal = some coefficient := by
  obtain ⟨positive, positive'⟩ := scale_pos binary decimal
  have below := between_below positive positive' ordered
  have above := between_above positive positive' ordered
  unfold onGrid
  generalize scale binary decimal = scaled at *
  obtain ⟨num, den⟩ := scaled
  simp only at *
  split
  · split_ifs <;> exact ⟨_, rfl⟩
  · exact ⟨_, rfl⟩
  · exact ⟨_, rfl⟩
  · rename_i noBelow noAbove
    rw [noBelow] at below
    rw [noAbove] at above
    -- Neither neighbour is inside, so one step of the grid spans the whole interval.
    rw [Nat.sub_mul] at fine
    have next : (interval.center * num / den + 1) * den = interval.center * num / den * den + den :=
      Nat.succ_mul _ _
    have around := div_around (interval.center * num) positive'
    have less := Nat.mul_lt_mul_of_pos_right ordered.1 positive
    have more := Nat.mul_lt_mul_of_pos_right ordered.2 positive
    simp only [Bool.false_eq_true, iff_false, Between] at below above
    split_ifs at below above <;> omega

/-- The same over the rationals: between the midpoints, or on one that is included. -/
theorem Between.quarters {num den : ℕ} (positive : 0 < num)
    (between : interval.Between num den coefficient) :
    (interval.low : ℚ) ≤ coefficient * (den / num) ∧
      coefficient * (den / num) ≤ (interval.high : ℚ) ∧
      ((interval.low : ℚ) = coefficient * (den / num) ∨
        coefficient * (den / num) = (interval.high : ℚ) → interval.closed = true) := by
  have size : (0 : ℚ) < num := Nat.cast_pos.mpr positive
  rw [← mul_div_assoc, le_div_iff₀ size, div_le_iff₀ size, eq_div_iff size.ne', div_eq_iff size.ne']
  norm_cast
  unfold Between at between
  split_ifs at between with closed
  · exact ⟨between.1, between.2, fun _ => closed⟩
  · exact ⟨between.1.le, between.2.le, fun same => by omega⟩

end Interval

/-! ## The interval of a double -/

section

variable {rank : ℕ}

/-- The interval of the double of a rank. -/
def intervalAt (rank : ℕ) : Interval :=
  .of (significandAt rank) ((levelAt rank : ℤ) - 1074)

/-- How many quarters lie between a double and the midpoint below it. -/
def stepsAt (rank : ℕ) : ℕ :=
  stepsBelow (significandAt rank) ((levelAt rank : ℤ) - 1074)

/-- A quarter of the gap above a double. -/
def quarterAt (rank : ℕ) : ℚ :=
  2 ^ ((levelAt rank : ℤ) - 1074 - 2)

theorem gap_eq (rank : ℕ) : gapAt rank = 4 * quarterAt rank := by
  rw [gapAt, quarterAt, zpow_sub₀ (by norm_num) _ 2]
  norm_num
  ring

theorem value_quarters (rank : ℕ) : valueAt rank = 4 * significandAt rank * quarterAt rank := by
  rw [valueAt, gap_eq]
  ring

/-- The gap below a double. -/
theorem gap_below (rank : ℕ) : gapAt rank = 2 * stepsAt (rank + 1) * quarterAt (rank + 1) := by
  unfold stepsAt stepsBelow
  split_ifs with lowest
  · obtain ⟨isLeast, raised⟩ := lowest
    have isLevel : levelAt (rank + 1) = levelAt rank + 1 := by
      have : significandAt (rank + 1) = binade := isLeast
      have : 0 < levelAt (rank + 1) := by
        simp only [Binary.leastExponent] at raised
        omega
      unfold significandAt levelAt binade at *
      omega
    have exponent : ((levelAt rank + 1 : ℕ) : ℤ) - 1074 - 2 =
        ((levelAt rank : ℤ) - 1074 - 2) + 1 := by
      push_cast
      ring
    rw [gap_eq, quarterAt, quarterAt, isLevel, exponent, zpow_add_one₀ (by norm_num)]
    push_cast
    ring
  · have isLevel : levelAt (rank + 1) = levelAt rank := by
      have isHigher : ¬(significandAt (rank + 1) = binade ∧ 0 < levelAt (rank + 1)) := by
        rintro ⟨isLeast, raised⟩
        refine lowest ⟨isLeast, ?_⟩
        simp only [Binary.leastExponent]
        omega
      unfold significandAt levelAt binade at *
      omega
    rw [gap_eq, quarterAt, quarterAt, isLevel]
    norm_num

theorem significand_pos (positive : 0 < rank) : 0 < significandAt rank := by
  unfold significandAt levelAt binade
  omega

theorem even_of_closed (closed : (intervalAt rank).closed = true) : Even rank := by
  have even : Even (significandAt rank) := Nat.even_iff.mpr (eq_of_beq closed)
  rw [rank_eq rank]
  exact even.add (binade_even.mul_left _)

theorem steps_at_bounds (rank : ℕ) : 0 < stepsAt rank ∧ stepsAt rank ≤ 2 := by
  unfold stepsAt stepsBelow
  split_ifs <;> decide

theorem low_eq (positive : 0 < rank) :
    ((intervalAt rank).low : ℚ) = 4 * significandAt rank - stepsAt rank := by
  have steps := steps_at_bounds rank
  have some := significand_pos positive
  change ((4 * significandAt rank - stepsAt rank : ℕ) : ℚ) = _
  rw [Nat.cast_sub (by omega), Nat.cast_mul, Nat.cast_ofNat]

theorem high_eq (rank : ℕ) : ((intervalAt rank).high : ℚ) = 4 * significandAt rank + 2 := by
  simp only [intervalAt, Interval.of]
  push_cast
  rfl

/-- What lies in the interval of a double is rounded to it. -/
theorem nearest_of_quarters {quarters : ℚ} (positive : 0 < rank)
    (low : (intervalAt rank).low ≤ quarters) (high : quarters ≤ (intervalAt rank).high)
    (tie : ((intervalAt rank).low : ℚ) = quarters ∨ quarters = (intervalAt rank).high →
      (intervalAt rank).closed = true) :
    Nearest (quarters * quarterAt rank) rank := by
  have size : 0 < quarterAt rank := zpow_pos (by norm_num) _
  rw [low_eq positive] at low tie
  rw [high_eq] at high tie
  have value := value_quarters rank
  have above : valueAt rank + valueAt (rank + 1) =
      2 * ((4 * significandAt rank + 2) * quarterAt rank) := by
    rw [value_at_succ, gap_eq, value]
    ring
  have below : ∀ lower, rank = lower + 1 → valueAt lower + valueAt rank =
      2 * ((4 * significandAt rank - stepsAt rank) * quarterAt rank) := by
    rintro lower rfl
    have isLower : valueAt lower = valueAt (lower + 1) - gapAt lower := by rw [value_at_succ]; ring
    rw [isLower, gap_below, value]
    ring
  constructor
  · intro lower isNext
    rw [below lower isNext]
    exact mul_le_mul_of_nonneg_left (mul_le_mul_of_nonneg_right low size.le) two_pos.le
  · rw [above]
    exact mul_le_mul_of_nonneg_left (mul_le_mul_of_nonneg_right high size.le) two_pos.le
  · intro lower isNext same
    rw [below lower isNext] at same
    have isLow := mul_right_cancel₀ size.ne' (mul_left_cancel₀ two_ne_zero same)
    exact even_of_closed (tie (.inl isLow.symm))
  · intro same
    rw [above] at same
    have isHigh := mul_right_cancel₀ size.ne' (mul_left_cancel₀ two_ne_zero same)
    exact even_of_closed (tie (.inr isHigh))

theorem interval_ordered (positive : 0 < rank) : (intervalAt rank).Ordered := by
  have some := significand_pos positive
  have steps := steps_at_bounds rank
  simp only [Interval.Ordered, intervalAt, Interval.of]
  unfold stepsAt at steps
  omega

theorem interval_width (positive : 0 < rank) : (intervalAt rank).high - (intervalAt rank).low =
    2 + stepsAt rank := by
  have steps := steps_at_bounds rank
  have some := significand_pos positive
  simp only [intervalAt, Interval.of]
  unfold stepsAt at *
  omega

variable {tie : Tie} {place : ℤ} {coefficient : ℕ}

/-- The scale from quarters to a grid. -/
theorem scale_quarters (rank : ℕ) (place : ℤ) :
    ((scale ((levelAt rank : ℤ) - 1074 - 2) place).1 /
      (scale ((levelAt rank : ℤ) - 1074 - 2) place).2 : ℚ) = quarterAt rank / 10 ^ place :=
  scale_value _ _

theorem on_grid_nearest (positive : 0 < rank)
    (found : (intervalAt rank).onGrid tie ((levelAt rank : ℤ) - 1074 - 2) place =
      some coefficient) :
    Nearest (coefficient * 10 ^ place) rank := by
  have ordered := interval_ordered positive
  obtain ⟨low, high, tie⟩ := (Interval.on_grid_between ordered found).1.quarters (scale_pos _ _).1
  have nearest := nearest_of_quarters positive low high tie
  have size : quarterAt rank ≠ 0 := (zpow_pos (by norm_num) _).ne'
  rw [← inv_div, scale_quarters, inv_div, mul_assoc, div_mul_cancel₀ _ size] at nearest
  exact nearest

/-- A hit has as many digits as the grid, up to one more. -/
theorem on_grid_size (positive : 0 < rank) {further : ℕ} (lower : 10 ^ place ≤ valueAt rank)
    (upper : valueAt rank < 10 ^ (place + further))
    (found : (intervalAt rank).onGrid tie ((levelAt rank : ℤ) - 1074 - 2) place =
      some coefficient) :
    0 < coefficient ∧ coefficient ≤ 10 ^ further := by
  obtain ⟨scalePos, scalePos'⟩ := scale_pos ((levelAt rank : ℤ) - 1074 - 2) place
  have isScale := scale_quarters rank place
  have near := (Interval.on_grid_between (interval_ordered positive) found).2
  generalize scale ((levelAt rank : ℤ) - 1074 - 2) place = scaled at *
  have size : (0 : ℚ) < scaled.2 := Nat.cast_pos.mpr scalePos'
  have power : (0 : ℚ) < 10 ^ place := zpow_pos (by norm_num) _
  have center : ((intervalAt rank).center * scaled.1 : ℚ) / scaled.2 =
      valueAt rank / 10 ^ place := by
    rw [mul_div_assoc, isScale, value_quarters, mul_div_assoc]
    simp only [intervalAt, Interval.of]
    push_cast
    rfl
  have large : scaled.2 ≤ (intervalAt rank).center * scaled.1 := by
    have : (1 : ℚ) ≤ (intervalAt rank).center * scaled.1 / scaled.2 := by
      rwa [center, one_le_div power]
    rw [one_le_div size] at this
    exact_mod_cast this
  have small : (intervalAt rank).center * scaled.1 < 10 ^ further * scaled.2 := by
    have : ((intervalAt rank).center * scaled.1 : ℚ) / scaled.2 < 10 ^ further := by
      rw [center, div_lt_iff₀ power, ← zpow_natCast, ← zpow_add₀ (by norm_num), add_comm]
      exact upper
    rw [div_lt_iff₀ size] at this
    exact_mod_cast this
  have some := Nat.div_pos large scalePos'
  have few := (Nat.div_lt_iff_lt_mul scalePos').mpr small
  omega

theorem on_grid_found (positive : 0 < rank)
    (fine : (10 : ℚ) ^ place < (2 + stepsAt rank) * quarterAt rank) :
    ∃ coefficient, (intervalAt rank).onGrid tie ((levelAt rank : ℤ) - 1074 - 2) place =
      some coefficient := by
  refine Interval.on_grid_fine (interval_ordered positive) ?_
  rw [interval_width positive]
  obtain ⟨scalePos, scalePos'⟩ := scale_pos ((levelAt rank : ℤ) - 1074 - 2) place
  have isScale := scale_quarters rank place
  generalize scale ((levelAt rank : ℤ) - 1074 - 2) place = scaled at *
  have size : (0 : ℚ) < scaled.2 := Nat.cast_pos.mpr scalePos'
  have power : (0 : ℚ) < 10 ^ place := zpow_pos (by norm_num) _
  rw [div_eq_div_iff size.ne' power.ne'] at isScale
  have wide : (scaled.2 * 10 ^ place : ℚ) < (2 + stepsAt rank) * scaled.1 * 10 ^ place := by
    rw [mul_assoc _ (scaled.1 : ℚ), isScale, mul_comm (scaled.2 : ℚ), ← mul_assoc]
    exact mul_lt_mul_of_pos_right fine size
  exact_mod_cast lt_of_mul_lt_mul_right wide power.le

/-- Seventeen digits tell any two doubles apart. -/
theorem fine_last (rank : ℕ) {leading : ℤ} (lower : 10 ^ leading ≤ valueAt rank) :
    (10 : ℚ) ^ (leading - 16) < (2 + stepsAt rank) * quarterAt rank := by
  have size : 0 < quarterAt rank := zpow_pos (by norm_num) _
  have short : 4 * significandAt rank < 10 ^ 16 * (2 + stepsAt rank) := by
    have bound := significand_lt rank
    unfold stepsAt stepsBelow
    split_ifs with lowest
    · rw [lowest.1]
      decide
    · unfold binade at bound
      omega
  have cast : (4 * significandAt rank : ℚ) < 10 ^ 16 * (2 + stepsAt rank) := by
    exact_mod_cast short
  rw [zpow_sub₀ (by norm_num), div_lt_iff₀ (by positivity)]
  calc (10 : ℚ) ^ leading ≤ 4 * significandAt rank * quarterAt rank := by
        rwa [← value_quarters]
    _ < 10 ^ 16 * (2 + stepsAt rank) * quarterAt rank := mul_lt_mul_of_pos_right cast size
    _ = _ := by
        rw [show (10 : ℚ) ^ (16 : ℤ) = 10 ^ 16 from zpow_natCast 10 16]
        ring

theorem ten_least : (10 : ℚ) ^ (-324 : ℤ) < 3 * 2 ^ (-1076 : ℤ) := by
  have less : 2 ^ 1076 < 3 * 10 ^ 324 := by decide +kernel
  have isTwo : (2 : ℚ) ^ (-1076 : ℤ) = ((2 ^ 1076 : ℕ) : ℚ)⁻¹ := by
    rw [Nat.cast_pow, Nat.cast_two, ← zpow_natCast, ← zpow_neg]
    rfl
  have isTen : (10 : ℚ) ^ (-324 : ℤ) = ((10 ^ 324 : ℕ) : ℚ)⁻¹ := by
    rw [Nat.cast_pow, Nat.cast_ofNat, ← zpow_natCast, ← zpow_neg]
    rfl
  rw [isTwo, isTen]
  have two : 0 < 2 ^ 1076 := pow_pos two_pos 1076
  have ten : 0 < 10 ^ 324 := pow_pos (by decide) 324
  generalize 2 ^ 1076 = two' at *
  generalize 10 ^ 324 = ten' at *
  rw [← one_div, ← div_eq_mul_inv, div_lt_div_iff₀ (Nat.cast_pos.mpr ten) (Nat.cast_pos.mpr two),
    one_mul]
  exact_mod_cast less

/-- The grid below the least double is finer than any interval. -/
theorem fine_least (rank : ℕ) :
    (10 : ℚ) ^ (-324 : ℤ) < (2 + stepsAt rank) * quarterAt rank := by
  have steps := steps_at_bounds rank
  have wide : (3 : ℚ) ≤ 2 + stepsAt rank := by
    exact_mod_cast (show 3 ≤ 2 + stepsAt rank by omega)
  have least : (2 : ℚ) ^ (-1076 : ℤ) ≤ quarterAt rank :=
    zpow_le_zpow_right₀ (by norm_num) (by omega)
  exact ten_least.trans_le (mul_le_mul wide least (by positivity) (by positivity))

end

/-- The first hit of a search comes no later than any hit. -/
theorem find_some_range {α : Type} {search : ℕ → Option α} {count index : ℕ}
    (inside : index < count) (hit : (search index).isSome) : ∃ first ≤ index, ∃ value, search first = some value ∧
      (List.range count).findSome? search = some value := by
  have found : ((List.range count).findSome? search).isSome :=
    List.findSome?_isSome_iff.mpr ⟨index, List.mem_range.mpr inside, hit⟩
  obtain ⟨value, isValue⟩ := Option.isSome_iff_exists.mp found
  obtain ⟨before, first, after, isRange, isFirst, none⟩ := List.findSome?_eq_some_iff.mp isValue
  refine ⟨first, ?_, value, isFirst, isValue⟩
  have member : index ∈ before ++ first :: after := isRange ▸ List.mem_range.mpr inside
  have sorted : (before ++ first :: after).Pairwise (· < ·) := isRange ▸ List.pairwise_lt_range
  rcases List.mem_append.mp member with early | late
  · rw [none index early] at hit
    cases hit
  · rcases List.mem_cons.mp late with rfl | later
    · exact le_rfl
    · exact (List.rel_of_pairwise_cons (List.pairwise_append.mp sorted).2.1 later).le

/-- A decimal of few digits that is rounded to the double of a rank. -/
structure Denotes (decimal : Scientific) (rank : ℕ) : Prop where
  positive : 0 < decimal.coefficient
  short : decimal.coefficient ≤ 10 ^ 17
  lower : -324 ≤ decimal.exponent
  upper : decimal.exponent ≤ 308
  nearest : Nearest decimal.value rank

theorem ten_top : valueAt top < 10 ^ (309 : ℤ) := by
  have less : 2 ^ 1024 < 10 ^ 309 := by decide +kernel
  have isTwo : (2 : ℚ) ^ (1024 : ℤ) = (2 ^ 1024 : ℕ) := by
    rw [Nat.cast_pow, Nat.cast_two]
    exact zpow_natCast 2 1024
  have isTen : (10 : ℚ) ^ (309 : ℤ) = (10 ^ 309 : ℕ) := by
    rw [Nat.cast_pow, Nat.cast_ofNat]
    exact zpow_natCast 10 309
  rw [value_top, isTwo, isTen]
  exact Nat.cast_lt.mpr less

section

variable {rank : ℕ}

theorem leading_value (positive : 0 < rank) :
    (10 : ℚ) ^ leadingExponentOf (significandAt rank * (scale ((levelAt rank : ℤ) - 1074) 0).1)
        (scale ((levelAt rank : ℤ) - 1074) 0).2 ≤ valueAt rank ∧
      valueAt rank <
        10 ^ (leadingExponentOf (significandAt rank * (scale ((levelAt rank : ℤ) - 1074) 0).1)
          (scale ((levelAt rank : ℤ) - 1074) 0).2 + 1) := by
  obtain ⟨scalePos, scalePos'⟩ := scale_pos ((levelAt rank : ℤ) - 1074) 0
  have bounds := leading_bounds (Nat.mul_pos (significand_pos positive) scalePos) scalePos'
  have value : ((significandAt rank * (scale ((levelAt rank : ℤ) - 1074) 0).1 : ℕ) /
      (scale ((levelAt rank : ℤ) - 1074) 0).2 : ℚ) = valueAt rank := by
    rw [Nat.cast_mul, mul_div_assoc, scale_value, zpow_zero, div_one]
    rfl
  rwa [value] at bounds

theorem least_leading {leading : ℤ} (positive : 0 < rank)
    (upper : valueAt rank < 10 ^ (leading + 1)) : -324 ≤ leading := by
  have some : (1 : ℚ) ≤ significandAt rank := by exact_mod_cast significand_pos positive
  have steps : (stepsAt rank : ℚ) ≤ 2 := by exact_mod_cast (steps_at_bounds rank).2
  have size : 0 < quarterAt rank := zpow_pos (by norm_num) _
  have least : (10 : ℚ) ^ (-324 : ℤ) < 10 ^ (leading + 1) :=
    calc (10 : ℚ) ^ (-324 : ℤ) < _ := fine_least rank
      _ ≤ 4 * significandAt rank * quarterAt rank :=
        mul_le_mul_of_nonneg_right (by linarith) size.le
      _ = valueAt rank := (value_quarters rank).symm
      _ < 10 ^ (leading + 1) := upper
  have := (zpow_lt_zpow_iff_right₀ (by norm_num : (1 : ℚ) < 10)).mp least
  omega

theorem greatest_exponent {decimal : Scientific} (positive : 0 < decimal.coefficient)
    (finite : rank < top) (nearest : Nearest decimal.value rank) : decimal.exponent ≤ 308 := by
  by_contra large
  have one_le : (1 : ℚ) ≤ decimal.coefficient := by exact_mod_cast positive
  have power : (10 : ℚ) ^ (309 : ℤ) ≤ decimal.value :=
    calc (10 : ℚ) ^ (309 : ℤ) ≤ 10 ^ decimal.exponent :=
          zpow_le_zpow_right₀ (by norm_num) (by omega)
      _ ≤ decimal.value := le_mul_of_one_le_left (by positivity) one_le
  exact absurd (nearest.le_of_value_lt (ten_top.trans_le power)) (by omega)

/-- The search for the shortest decimal, on the grid of one number of digits. -/
def decimalAt (tie : Tie) (rank : ℕ) (leading : ℤ) (further : ℕ) : Option Scientific :=
  ((intervalAt rank).onGrid tie ((levelAt rank : ℤ) - 1074 - 2) (leading - further)).map
    fun coefficient => Scientific.trimmed coefficient (leading - further)

variable {tie : Tie} {leading : ℤ}

theorem decimal_denotes {decimal : Scientific} {further : ℕ} (positive : 0 < rank)
    (finite : rank < top) (lower : 10 ^ leading ≤ valueAt rank)
    (upper : valueAt rank < 10 ^ (leading + 1)) (few : further < maxDigits)
    (least : -324 ≤ leading - further) (found : decimalAt tie rank leading further = some decimal) :
    Denotes decimal rank := by
  obtain ⟨coefficient, onGrid, rfl⟩ := Option.map_eq_some_iff.mp found
  have nearest := on_grid_nearest positive onGrid
  rw [← Scientific.trimmed_value] at nearest
  have within : valueAt rank < 10 ^ (leading - further + (further + 1 : ℕ)) := by
    rwa [show leading - (further : ℤ) + ((further + 1 : ℕ) : ℤ) = leading + 1 by push_cast; ring]
  have beyond : (10 : ℚ) ^ (leading - further) ≤ valueAt rank :=
    (zpow_le_zpow_right₀ (by norm_num) (by omega)).trans lower
  obtain ⟨some, small⟩ := on_grid_size positive beyond within onGrid
  have trimmed := Scientific.trimmed_pos (leading - further) some
  refine ⟨trimmed, ?_, least.trans (Scientific.le_trimmed _ _),
    greatest_exponent trimmed finite nearest, nearest⟩
  calc _ ≤ coefficient := Scientific.trimmed_le _ _
    _ ≤ 10 ^ (further + 1) := small
    _ ≤ 10 ^ 17 := Nat.pow_le_pow_right (by decide) (by unfold maxDigits at few; omega)

theorem decimal_at_fine {further : ℕ} (positive : 0 < rank)
    (fine : (10 : ℚ) ^ (leading - further) < (2 + stepsAt rank) * quarterAt rank) :
    (decimalAt tie rank leading further).isSome := by
  obtain ⟨coefficient, found⟩ := @on_grid_found _ tie _ positive fine
  rw [decimalAt, found]
  rfl

/-- The last grid of all has a hit, or that of the least doubles if it comes first. -/
theorem decimal_found (positive : 0 < rank) (lower : 10 ^ leading ≤ valueAt rank)
    (upper : valueAt rank < 10 ^ (leading + 1)) : ∃ further : ℕ, further < maxDigits ∧
      -324 ≤ leading - further ∧ (decimalAt tie rank leading further).isSome := by
  have least := least_leading positive upper
  rcases le_or_gt (leading + 324) 16 with tiny | ordinary
  · have isLeast : leading - ((leading + 324).toNat : ℤ) = -324 := by omega
    exact ⟨(leading + 324).toNat, by unfold maxDigits; omega, isLeast.ge,
      decimal_at_fine positive (isLeast ▸ fine_least rank)⟩
  · exact ⟨16, by decide, by push_cast; omega, decimal_at_fine positive (fine_last rank lower)⟩

theorem shortest_denotes (tie : Tie) (positive : 0 < rank) (finite : rank < top) :
    Denotes (shortest tie (significandAt rank) ((levelAt rank : ℤ) - 1074)) rank := by
  obtain ⟨lower, upper⟩ := leading_value positive
  unfold shortest
  rw [if_neg (significand_pos positive).ne']
  simp only
  generalize leadingExponentOf _ _ = leading at *
  obtain ⟨further, few, least, hit⟩ := decimal_found positive lower upper
  obtain ⟨first, early, decimal, isFirst, found⟩ := find_some_range few hit
  have denotes : Denotes decimal rank :=
    decimal_denotes positive finite lower upper (by omega) (by omega) isFirst
  change Denotes (((List.range maxDigits).findSome? (decimalAt tie rank leading)).getD ⟨0, 0⟩) rank
  rwa [found]

end

end LinearProgram.Decimal
