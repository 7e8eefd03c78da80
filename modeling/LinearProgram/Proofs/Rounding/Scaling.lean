import LinearProgram.Proofs.Rounding.Powers

/-!
# Scaling by a power of ten

A significand is multiplied or divided by a power of ten, in two steps when the power is
too large to be a double. Every step is one rounding, and so is each of the two
operands; together they move the result by two ranks at most.
-/

namespace LinearProgram.Double

open Document (powerOfTen scaleDown scaleUp scaled greatestPower)

/-- The significand of the greatest power of ten. -/
def greatestSignificand : ℕ :=
  0x11CCF385EBC8A0

theorem greatest_power_value :
    valueAt (rank (powerOfTen 308)) = greatestSignificand * 2 ^ (971 : ℤ) := by
  have isRank : rank (powerOfTen 308) = greatestSignificand + 2045 * binade := by decide +kernel
  rw [isRank, value_at_add (by decide) (.inl (by decide))]
  rfl

/-- The greatest power of ten is nearer to its double than a rounding has to be. -/
def powerError : ℚ :=
  1 + 1 / (20 * binade)

theorem greatest_power_close :
    Close powerError (10 ^ 308) (valueAt (rank (powerOfTen 308))) := by
  have isValue : valueAt (rank (powerOfTen 308)) = (greatestSignificand * 2 ^ 971 : ℕ) := by
    rw [greatest_power_value, Nat.cast_mul, Nat.cast_pow, Nat.cast_two]
    exact congrArg _ (zpow_natCast 2 971)
  have isPower : (10 : ℚ) ^ 308 = (10 ^ 308 : ℕ) := by rw [Nat.cast_pow, Nat.cast_ofNat]
  have lower : 10 ^ 308 ≤ greatestSignificand * 2 ^ 971 := by decide +kernel
  have upper : greatestSignificand * 2 ^ 971 * (20 * binade) ≤ (20 * binade + 1) * 10 ^ 308 := by
    decide +kernel
  rw [isValue, isPower]
  generalize greatestSignificand * 2 ^ 971 = value at *
  generalize 10 ^ 308 = power at *
  have room : (0 : ℚ) < 20 * binade := by norm_num [binade]
  have above : (power : ℚ) ≤ value := by exact_mod_cast lower
  have below : (value : ℚ) * (20 * binade) ≤ (20 * binade + 1) * power := by exact_mod_cast upper
  have isError : powerError * (20 * binade) = 20 * binade + 1 := by
    rw [powerError, add_mul, one_mul, div_mul_cancel₀ _ room.ne']
  have one_le : 1 ≤ powerError := by norm_num [powerError, binade]
  constructor
  · exact above.trans (le_mul_of_one_le_left (Nat.cast_nonneg value) one_le)
  · refine le_of_mul_le_mul_right ?_ room
    calc (value : ℚ) * (20 * binade) ≤ (20 * binade + 1) * power := below
      _ = powerError * power * (20 * binade) := by rw [← isError]; ring

/-- Two ranks that are at most two apart. -/
def Beside (left right : ℕ) : Prop :=
  left ≤ right + 2 ∧ right ≤ left + 2

theorem Nearest.beside {number other factor : ℚ} {place place' : ℕ}
    (first : Nearest number place) (second : Nearest other place')
    (close : Close factor number other) (positive : 0 ≤ factor)
    (tight : (factor - 1) * (2 * significandAt place + 1) < 4)
    (tight' : (factor - 1) * (2 * significandAt place' + 1) < 4) : Beside place' place :=
  ⟨first.le_add_two second close.ge positive tight,
    second.le_add_two first close.le positive tight'⟩

/-- Both operands rounded. -/
def scalingError : ℚ :=
  roundoff * roundoff

theorem scaling_error_tight (place : ℕ) :
    (scalingError - 1) * (2 * significandAt place + 1) < 4 := by
  have inside : (significandAt place : ℚ) ≤ 2 * binade - 1 := by
    have := significand_lt place
    rw [le_sub_iff_add_le]
    exact_mod_cast this
  have error : 0 ≤ scalingError - 1 := by norm_num [scalingError, roundoff, binade]
  calc (scalingError - 1) * (2 * significandAt place + 1)
      ≤ (scalingError - 1) * (2 * (2 * binade - 1) + 1) :=
        mul_le_mul_of_nonneg_left (by linarith) error
    _ < 4 := by norm_num [scalingError, roundoff, binade]

theorem scaling_error_beside {number other : ℚ} {place place' : ℕ}
    (first : Nearest number place) (second : Nearest other place')
    (close : Close scalingError number other) : Beside place' place :=
  first.beside second close (by norm_num [scalingError, roundoff, binade])
    (scaling_error_tight _) (scaling_error_tight _)

theorem Proper.not_infinite {value : Float} (proper : Proper value) : value.isInf = false := by
  obtain ⟨inside, isValue⟩ := unpack_rank proper.1 proper.2
  change (unpacked value).isInf = false
  rw [isValue]
  rfl

theorem Proper.ne_zero {value : Float} (proper : Proper value) : (value == 0) = false := by
  obtain ⟨inside, isValue⟩ := unpack_rank proper.1 proper.2
  change ((unpacked value).compare (unpacked 0) == some .eq) = false
  rw [isValue, unpacked_zero]
  rfl

theorem Whole.proper {number : ℕ} (whole : Whole number) : Proper (Float.ofNat number) :=
  ⟨(Nat.zero_le binade).trans_lt whole.normal, whole.finite⟩

theorem Whole.close {number : ℕ} (whole : Whole number) :
    Close roundoff number (valueAt (rank (Float.ofNat number))) :=
  whole.nearest.close_normal whole.normal

theorem power_proper {places : ℕ} (small : places ≤ 308) : Proper (powerOfTen places) :=
  ⟨(Nat.zero_le binade).trans_lt (power_close small).1, (power_close small).2.1⟩

/-- A double that stands for the number of a rank, and is exact under a condition. -/
structure Reaches (short : Prop) (value : Float) (place : ℕ) : Prop where
  finite : rank value < top
  beside : Beside (rank value) place
  exact : short → rank value = place

/-- What an operation gives is no overflow when the rank it should give is far from it. -/
theorem reaches_of_beside {short : Prop} {value : Float} {place other : ℕ}
    (isRank : rank value = min other top) (beside : Beside other place) (fits : place + 2 < top)
    (exact : short → other = place) : Reaches short value place := by
  have same : rank value = other := by
    rw [isRank]
    exact min_eq_left (beside.1.trans fits.le)
  exact ⟨same ▸ beside.1.trans_lt fits, same ▸ beside, fun isShort => same ▸ exact isShort⟩

section

variable {significand places place : ℕ}

/-! ### In one step -/

/-- A multiplication. -/
theorem scaled_up (positive : 0 < significand) (small : significand < 2 ^ 64)
    (few : places ≤ 308) (nearest : Nearest (significand * 10 ^ places) place)
    (fits : place + 2 < top) : ∃ value, scaleUp (Float.ofNat significand) places = .ok value ∧
      Reaches (significand < 2 ^ 53 ∧ places ≤ 22) value place := by
  have whole := of_nat_rank positive small
  have power := power_close few
  obtain ⟨other, nearest', isRank⟩ := mul_rank whole.proper (power_proper few) power.1.le
  have close : Close scalingError _ _ := whole.close.mul power.2.2 (by positivity)
    (by positivity) (value_nonneg _) (value_nonneg _)
  have reaches : Reaches (significand < 2 ^ 53 ∧ places ≤ 22)
      (Float.ofNat significand * powerOfTen places) place := by
    refine reaches_of_beside isRank (scaling_error_beside nearest nearest' close) fits ?_
    rintro ⟨short, low⟩
    rw [whole.exact short, (power_rank low).1] at nearest'
    exact nearest'.unique nearest
  have present : 3 ≤ place := by
    refine nearest.le_of_value_lt (lt_of_lt_of_le (b := 1) ?_ ?_)
    · rw [← value_one]
      exact value_strict_mono ((show 3 < binade by decide).trans (power_rank (Nat.zero_le 22)).2.1)
    · exact_mod_cast Nat.mul_pos positive (Nat.pow_pos (show 0 < 10 by decide))
  have proper : Proper (Float.ofNat significand * powerOfTen places) := by
    refine ⟨?_, reaches.finite⟩
    have := reaches.beside.2
    omega
  refine ⟨_, ?_, reaches⟩
  simp only [scaleUp, greatestPower, if_pos few, proper.not_infinite, Bool.false_eq_true, if_false]

/-- A division. -/
theorem scaled_down (positive : 0 < significand) (small : significand < 2 ^ 64)
    (few : places ≤ 308) (nearest : Nearest (significand / 10 ^ places) place)
    (fits : place + 2 < top) :
    Reaches (significand < 2 ^ 53 ∧ places ≤ 22) (scaleDown (Float.ofNat significand) places)
      place := by
  have whole := of_nat_rank positive small
  have power := power_close few
  have large := value_pos (power_proper few).1
  obtain ⟨other, nearest', isRank⟩ := div_rank whole.proper (power_proper few)
  have close : Close scalingError _ _ := whole.close.mul (power.2.2.inv (by positivity) large)
    (by positivity) (by positivity) (value_nonneg _) (by positivity)
  rw [← div_eq_mul_inv, ← div_eq_mul_inv] at close
  rw [scaleDown, greatestPower, if_pos few]
  refine reaches_of_beside isRank (scaling_error_beside nearest nearest' close) fits ?_
  rintro ⟨short, low⟩
  rw [whole.exact short, (power_rank low).1] at nearest'
  exact nearest'.unique nearest

/-! ### In two steps -/

theorem value_subnormal {place : ℕ} (low : place ≤ 2 * binade) :
    valueAt place = place / (2 ^ 1074 : ℕ) := by
  have same := @value_at_add place 0 low (.inr rfl)
  have exponent : ((0 : ℕ) : ℤ) - 1074 = -(1074 : ℕ) := rfl
  rw [zero_mul, add_zero, exponent, zpow_neg, zpow_natCast, ← div_eq_mul_inv] at same
  rw [same, Nat.cast_pow, Nat.cast_two]

theorem ten_pow_pos (places : ℕ) : 0 < 10 ^ places :=
  Nat.pow_pos (by decide)

theorem ratio_lt {left right base base' : ℕ} (positive : 0 < base) (positive' : 0 < base')
    (less : left * base' < right * base) : (left / base : ℚ) < right / base' :=
  (div_lt_div_iff₀ (Nat.cast_pos.mpr positive) (Nat.cast_pos.mpr positive')).mpr
    (by exact_mod_cast less)

/-- What the first division leaves, as a factor. -/
theorem first_close {factor : ℚ}
    (close : Close factor significand (valueAt (rank (Float.ofNat significand)))) :
    Close (factor * powerError) (significand / (10 ^ 308 : ℕ))
      (valueAt (rank (Float.ofNat significand)) / valueAt (rank (powerOfTen 308))) := by
  have large := value_pos (power_proper (le_refl 308)).1
  rw [div_eq_mul_inv, div_eq_mul_inv, Nat.cast_pow, Nat.cast_ofNat]
  exact close.mul (greatest_power_close.inv (by positivity) large) (Nat.cast_nonneg _)
    (by positivity) (value_nonneg _) (inv_nonneg.mpr large.le)

/-- The first division leaves a rank as far up as the significand allows. -/
theorem first_lower {quotient : ℚ} {count : ℕ} (low : count ≤ 2 * binade)
    (close : Close (roundoff * powerError) (significand / (10 ^ 308 : ℕ)) quotient)
    (room : 11 * count * 10 ^ 308 < 10 * significand * 2 ^ 1074) :
    valueAt count < quotient := by
  have less := ratio_lt (pow_pos two_pos 1074) (ten_pow_pos 308) room
  rw [Nat.cast_mul, mul_div_assoc, Nat.cast_mul, mul_div_assoc, ← value_subnormal low,
    Nat.cast_ofNat, Nat.cast_ofNat] at less
  have factor : roundoff * powerError ≤ 11 / 10 := by norm_num [roundoff, powerError, binade]
  generalize (significand : ℚ) / (10 ^ 308 : ℕ) = number at *
  refine close.lt_of_mul_lt ?_ factor (value_nonneg _) (by linarith)
  norm_num [roundoff, powerError, binade]

theorem first_finite {quotient : ℚ} (small : significand < 2 ^ 64)
    (close : Close (roundoff * powerError) (significand / (10 ^ 308 : ℕ)) quotient) :
    quotient < valueAt (top - 1) := by
  have factor : roundoff * powerError ≤ 2 := by norm_num [roundoff, powerError, binade]
  refine close.lt_of_lt_mul factor (by positivity) (lt_of_le_of_lt ?_ (lt_value_top_pred small))
  rw [← mul_div_assoc, div_le_iff₀ (Nat.cast_pos.mpr (ten_pow_pos _)), mul_comm]
  exact mul_le_mul_of_nonneg_left (Nat.cast_le.mpr (show 2 ≤ 10 ^ 308 by decide +kernel))
    (Nat.cast_nonneg _)

/-- The second division is by a power of ten that is a double. -/
theorem second_close {first rest : ℕ} {factor : ℚ}
    (close : Close factor (significand / (10 ^ 308 : ℕ)) (valueAt first)) :
    Close factor (significand / 10 ^ (308 + rest)) (valueAt first / 10 ^ rest) := by
  have scaled := close.mul (Close.refl ((10 ^ rest)⁻¹ : ℚ)) (by positivity) (by positivity)
    (value_nonneg _) (by positivity)
  rw [pow_add, ← div_div, div_eq_mul_inv _ (10 ^ rest), div_eq_mul_inv _ (10 ^ rest)]
  rwa [mul_one, Nat.cast_pow, Nat.cast_ofNat] at scaled

/-- Below this rank the least of the normal doubles lies some binades away. -/
def lowRank : ℕ :=
  2 ^ 50

/-- What the two least significands give, at most. -/
def lowBound : ℚ :=
  (2 : ℕ) / (10 ^ 309 : ℕ)

theorem rank_low {number : ℚ} (tiny : number ≤ 2 * lowBound) (nearest : Nearest number place) :
    place ≤ lowRank := by
  refine nearest.le_of_lt_value ?_
  have less : ((2 * 2 : ℕ) / (10 ^ 309 : ℕ) : ℚ) < lowRank / (2 ^ 1074 : ℕ) :=
    ratio_lt (ten_pow_pos 309) (pow_pos two_pos 1074) (by decide +kernel)
  rw [Nat.cast_mul, mul_div_assoc, Nat.cast_ofNat] at less
  rw [value_subnormal (by decide)]
  exact tiny.trans_lt less

/-- A first quotient below the normal doubles is less exact. -/
def lowError : ℚ :=
  powerError * (1 + 1 / (2 * lowRank))

theorem low_error_tight (low : place ≤ lowRank) :
    (lowError - 1) * (2 * significandAt place + 1) < 4 := by
  have inside : (significandAt place : ℚ) ≤ lowRank := by
    exact_mod_cast (Nat.sub_le _ _).trans low
  have small : lowError - 1 ≤ 1 / lowRank := by
    norm_num [lowError, lowRank, powerError, binade]
  calc (lowError - 1) * (2 * significandAt place + 1)
      ≤ 1 / lowRank * (2 * lowRank + 1) := by gcongr
    _ < 4 := by norm_num [lowRank]

theorem low_error_beside {number other : ℚ} {place' : ℕ} (first : Nearest number place)
    (second : Nearest other place') (close : Close lowError number other) (nonneg : 0 ≤ number)
    (tiny : number ≤ lowBound) : Beside place' place := by
  have factor : lowError ≤ 2 := by norm_num [lowError, lowRank, powerError, binade]
  have error : 0 ≤ lowError := by norm_num [lowError, lowRank, powerError, binade]
  have widened := mul_le_mul_of_nonneg_right factor nonneg
  exact first.beside second close error (low_error_tight (rank_low (by linarith) first))
    (low_error_tight (rank_low (by linarith [close.ge]) second))

/-- The two least significands are exact, but what is left of them has few bits. -/
theorem low_close (positive : 0 < significand) (low : significand < 3) {first : ℕ}
    (nearest : Nearest (valueAt (rank (Float.ofNat significand)) /
      valueAt (rank (powerOfTen 308))) first) (large : lowRank < first) (rest : ℕ) :
    Close lowError (significand / 10 ^ (308 + rest)) (valueAt first / 10 ^ rest) := by
  have exact : Close 1 significand (valueAt (rank (Float.ofNat significand))) := by
    rw [(of_nat_rank positive (low.trans (by decide))).exact (low.trans (by decide))]
    exact Close.refl _
  have close := first_close exact
  rw [one_mul] at close
  exact second_close (close.trans (nearest.close (by decide) large (by decide))
    (by norm_num [powerError, binade]) (by norm_num [lowRank]))

theorem low_tiny (low : significand < 3) {rest : ℕ} (some : 0 < rest) :
    (significand / 10 ^ (308 + rest) : ℚ) ≤ lowBound := by
  have two : (significand : ℚ) ≤ (2 : ℕ) := Nat.cast_le.mpr (by omega)
  have base : ((10 ^ 309 : ℕ) : ℚ) ≤ 10 ^ (308 + rest) := by
    rw [Nat.cast_pow, Nat.cast_ofNat]
    exact pow_le_pow_right₀ (by norm_num) (by omega)
  exact div_le_div₀ (Nat.cast_nonneg _) two (Nat.cast_pos.mpr (ten_pow_pos _)) base

/-- The significand of a first quotient, when its dividend has a lesser significand than the
greatest power of ten. -/
theorem first_significand {dividend first : ℕ} (normal : binade ≤ dividend)
    (less : significandAt dividend < greatestSignificand) (raised : 1024 ≤ levelAt dividend)
    (nearest : Nearest (valueAt dividend / valueAt (rank (powerOfTen 308))) first) :
    7 * 2 ^ 50 < significandAt first := by
  obtain ⟨level, isLevel⟩ := Nat.exists_eq_add_of_le raised
  have unit : (0 : ℚ) < 2 ^ ((level : ℤ) - 1074) := zpow_pos (by norm_num) _
  -- At this level the quotient lies inside one binade, in its upper quarter.
  have size : (0 : ℚ) < greatestSignificand := by norm_num [greatestSignificand]
  have isQuotient : valueAt dividend / valueAt (rank (powerOfTen 308)) =
      (significandAt dividend * 2 ^ 53 : ℕ) / greatestSignificand * 2 ^ ((level : ℤ) - 1074) := by
    have exponent : ((1024 + level : ℕ) : ℤ) - 1074 = ((level : ℤ) - 1074) + 53 + 971 := by
      push_cast
      ring
    rw [greatest_power_value, value_eq, isLevel, exponent, zpow_add₀ (by norm_num),
      zpow_add₀ (by norm_num)]
    field_simp
    norm_num
  rw [isQuotient] at nearest
  have lower : 7 * 2 ^ 50 + 1 + level * binade ≤ first := by
    refine nearest.le_of_value_lt ?_
    rw [value_at_add (by decide) (.inl (by decide))]
    refine mul_lt_mul_of_pos_right ?_ unit
    rw [lt_div_iff₀ size]
    have bits := significand_normal normal
    have less' : (7 * 2 ^ 50 + 1) * greatestSignificand < significandAt dividend * 2 ^ 53 := by
      unfold greatestSignificand binade at *
      omega
    exact_mod_cast less'
  have upper : first ≤ 2 * binade - 1 + level * binade := by
    refine nearest.le_of_lt_value ?_
    rw [value_at_add (by decide) (.inl (by decide))]
    refine mul_lt_mul_of_pos_right ?_ unit
    rw [div_lt_iff₀ size]
    have less' : significandAt dividend * 2 ^ 53 < (2 * binade - 1) * greatestSignificand := by
      unfold greatestSignificand binade at *
      omega
    exact_mod_cast less'
  unfold significandAt levelAt binade at *
  omega

/-- A significand of three or more, as a double, unless its own bits are many. -/
theorem level_of_several (several : 3 ≤ significand) (whole : Whole significand)
    (less : significandAt (rank (Float.ofNat significand)) < greatestSignificand) :
    1024 ≤ levelAt (rank (Float.ofNat significand)) := by
  by_contra low
  have gap : gapAt (rank (Float.ofNat significand)) ≤ 2 ^ (-51 : ℤ) :=
    zpow_le_zpow_right₀ (by norm_num) (by omega)
  have bits : (significandAt (rank (Float.ofNat significand)) : ℚ) ≤ greatestSignificand := by
    exact_mod_cast less.le
  have value : valueAt (rank (Float.ofNat significand)) ≤ greatestSignificand * 2 ^ (-51 : ℤ) :=
    mul_le_mul bits gap (gap_pos _).le (Nat.cast_nonneg _)
  have bound := mul_le_mul_of_nonneg_left value (zero_le_one.trans one_le_roundoff)
  have few : roundoff * (greatestSignificand * 2 ^ (-51 : ℤ)) < 3 := by
    norm_num [roundoff, binade, greatestSignificand]
  have three : (3 : ℚ) ≤ significand := by exact_mod_cast several
  linarith [whole.close.le]

/-- A normal quotient of the first step, with three errors that are small together. -/
theorem first_normal {first : ℕ} (several : 3 ≤ significand) (small : significand < 2 ^ 64)
    (nearest : Nearest (valueAt (rank (Float.ofNat significand)) /
      valueAt (rank (powerOfTen 308))) first) (normal : binade < first) :
    Close scalingError (significand / (10 ^ 308 : ℕ)) (valueAt first) := by
  have whole := of_nat_rank (Nat.zero_lt_of_lt several) small
  -- Of the dividend and the quotient, one has a significand well above the start of its binade.
  rcases lt_or_ge (significandAt (rank (Float.ofNat significand))) greatestSignificand with
    less | more
  · have raised := level_of_several several whole less
    have isLarge := first_significand whole.normal.le less raised nearest
    refine ((first_close whole.close).trans (nearest.close_significand (by decide) isLarge)
      ?_ ?_).mono ?_ (by positivity) (value_nonneg _)
    · norm_num [roundoff, powerError, binade]
    · norm_num
    · norm_num [scalingError, roundoff, powerError, binade]
  · have error := @Nearest.close_significand _ _ (greatestSignificand - 1) whole.nearest (by decide)
      (by unfold greatestSignificand at *; omega)
    refine ((first_close error).trans (nearest.close_normal normal) ?_ ?_).mono ?_ (by positivity)
      (value_nonneg _)
    · norm_num [greatestSignificand, powerError, binade]
    · norm_num [roundoff, binade]
    · norm_num [scalingError, greatestSignificand, roundoff, powerError, binade]

/-- The quotient of the first step. -/
theorem first_quotient (positive : 0 < significand) (small : significand < 2 ^ 64) :
    ∃ first, rank (Float.ofNat significand / powerOfTen 308) = first ∧ lowRank < first ∧
      first < top ∧ (3 ≤ significand → binade < first) ∧
        Nearest (valueAt (rank (Float.ofNat significand)) / valueAt (rank (powerOfTen 308)))
          first := by
  have whole := of_nat_rank positive small
  have close := first_close whole.close
  obtain ⟨first, nearest, isFirst⟩ := div_rank whole.proper (power_proper (le_refl 308))
  have finite : first < top :=
    (nearest.le_of_lt_value (first_finite small close)).trans_lt (by decide)
  refine ⟨first, isFirst.trans (min_eq_left finite.le), ?_, finite, fun several => ?_, nearest⟩
  · refine Nat.lt_of_succ_le (nearest.le_of_value_lt (first_lower (by decide) close ?_))
    exact lt_of_lt_of_le (b := 10 * 1 * 2 ^ 1074) (by decide +kernel)
      (Nat.mul_le_mul_right _ (Nat.mul_le_mul_left _ positive))
  · refine Nat.lt_of_succ_le (nearest.le_of_value_lt (first_lower (by decide) close ?_))
    exact lt_of_lt_of_le (b := 10 * 3 * 2 ^ 1074) (by decide +kernel)
      (Nat.mul_le_mul_right _ (Nat.mul_le_mul_left _ several))

/-- Two divisions. -/
theorem scaled_twice {rest : ℕ} (positive : 0 < significand) (small : significand < 2 ^ 64)
    (some : 0 < rest) (few : rest ≤ 22)
    (nearest : Nearest (significand / 10 ^ (308 + rest)) place) (fits : place + 2 < top) :
    Reaches False (scaleDown (Float.ofNat significand) (308 + rest)) place := by
  have whole := of_nat_rank positive small
  obtain ⟨first, isFirst, large, finite, normal, nearestFirst⟩ := first_quotient positive small
  have proper : Proper (Float.ofNat significand / powerOfTen 308) :=
    ⟨isFirst ▸ Nat.zero_lt_of_lt large, isFirst ▸ finite⟩
  obtain ⟨other, nearest', isRank⟩ := div_rank proper (@power_proper rest (by omega))
  rw [isFirst, (power_rank few).1] at nearest'
  have isDown : scaleDown (Float.ofNat significand) (308 + rest) =
      Float.ofNat significand / powerOfTen 308 / powerOfTen rest := by
    rw [scaleDown, greatestPower, if_neg (by omega), whole.proper.ne_zero,
      if_neg Bool.false_ne_true, Nat.add_sub_cancel_left, scaleDown, greatestPower,
      if_pos (by omega)]
  rw [isDown]
  refine reaches_of_beside isRank ?_ fits False.elim
  -- One and two may leave a subnormal quotient, but they are doubles themselves.
  rcases Nat.lt_or_ge significand 3 with low | several
  · exact low_error_beside nearest nearest' (low_close positive low nearestFirst large rest)
      (by positivity) (low_tiny low some)
  · exact scaling_error_beside nearest nearest'
      (second_close (first_normal several small nearestFirst (normal several)))

/-- A significand of 64 bits, scaled, comes next to the rank that is nearest to the product. -/
theorem scaled_near {exponent : ℤ} (positive : 0 < significand) (small : significand < 2 ^ 64)
    (lower : -324 ≤ exponent) (upper : exponent ≤ 308)
    (nearest : Nearest (significand * 10 ^ exponent) place) (fits : place + 2 < top) :
    ∃ value, scaled significand exponent = .ok value ∧
      Reaches (significand < 2 ^ 53 ∧ exponent.natAbs ≤ 22) value place := by
  rcases exponent.eq_nat_or_neg with ⟨places, rfl | rfl⟩
  · rw [zpow_natCast] at nearest
    obtain ⟨value, isValue, reaches⟩ := scaled_up positive small (by omega) nearest fits
    exact ⟨value, by simpa [scaled] using isValue, by simpa using reaches⟩
  · rcases Nat.eq_zero_or_pos places with rfl | some
    · rw [Nat.cast_zero, neg_zero, zpow_zero, ← pow_zero 10] at nearest
      obtain ⟨value, isValue, reaches⟩ := scaled_up positive small (Nat.zero_le _) nearest fits
      exact ⟨value, by simpa [scaled] using isValue, by simpa using reaches⟩
    · rw [zpow_neg, zpow_natCast, ← div_eq_mul_inv] at nearest
      refine ⟨scaleDown (Float.ofNat significand) places, ?_, ?_⟩
      · simp only [scaled, if_neg (show ¬(0 : ℤ) ≤ -places by omega), neg_neg, Int.toNat_natCast]
      · rw [Int.natAbs_neg, Int.natAbs_natCast]
        rcases le_or_gt places 308 with few | many
        · exact scaled_down positive small few nearest fits
        · obtain ⟨rest, rfl⟩ := Nat.exists_eq_add_of_le many.le
          have reaches := scaled_twice positive small (by omega) (by omega) nearest fits
          exact ⟨reaches.finite, reaches.beside, fun short => by omega⟩

end

end LinearProgram.Double
