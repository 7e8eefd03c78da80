import LinearProgram.Document.Number
import LinearProgram.Proofs.Rounding.Operations

/-!
# Whole numbers and powers of ten

The two kinds of doubles from which a decimal is computed: a significand of 64 bits and
a power of ten. Each is a rounding away from its number at most, and the small ones are
exact.
-/

namespace LinearProgram.Double

open Document (powerOfTen)
open Float.Model Float.Model.UnpackedFloat

/-- A number shifted until it fills a significand. -/
theorem exists_shift {number : ℕ} (positive : 0 < number) (small : number < 2 * binade) :
    ∃ shift, number.log2 + shift = 52 ∧ binade ≤ number * 2 ^ shift ∧
      number * 2 ^ shift ≤ 2 * binade := by
  have short : number.log2 < 53 :=
    (Nat.log2_lt positive.ne').mpr (by simpa [binade] using small)
  have isBinade : binade = 2 ^ number.log2 * 2 ^ (52 - number.log2) := by
    rw [← pow_add, binade]
    congr 1
    omega
  refine ⟨52 - number.log2, by omega, ?_, ?_⟩
  · rw [isBinade]
    exact Nat.mul_le_mul_right _ (Nat.log2_self_le positive.ne')
  · rw [isBinade, ← mul_assoc, ← pow_succ']
    exact Nat.mul_le_mul_right _ Nat.lt_log2_self.le

/-- What fits into a significand is the value of a rank. -/
theorem exists_value {number : ℕ} (positive : 0 < number) (small : number < 2 * binade)
    {exponent : ℤ} (normal : -1022 ≤ exponent) :
    ∃ place, valueAt place = number * 2 ^ exponent := by
  obtain ⟨shift, isShift, lower, upper⟩ := exists_shift positive small
  obtain ⟨level, isLevel⟩ : ∃ level : ℕ, exponent - shift + 1074 = level :=
    ⟨_, (Int.toNat_of_nonneg (by omega)).symm⟩
  refine ⟨number * 2 ^ shift + level * binade, ?_⟩
  rw [value_at_add upper (.inl lower), ← isLevel, add_sub_cancel_right, zpow_sub₀ (by norm_num),
    zpow_natCast]
  push_cast
  field_simp

theorem scientific_rank {significand places : ℕ} (positive : 0 < significand)
    (slow : ¬(significand < 2 ^ 53 ∧ places ≤ 22)) (small : places ≤ 2 ^ 11) :
    ∃ place, Nearest (significand * 10 ^ places) place ∧
      rank (Float.ofScientific significand false places) = min place top := by
  have isScientific : (Float.ofScientific significand false places).toModel =
      Float.Model.pack (.ofScientific .binary64 significand places) := by
    rw [Float.ofScientific, dif_neg slow]
    rfl
  have scaled : significand <<< Format.binary64.mantissaBits = significand * 2 ^ 53 :=
    Nat.shiftLeft_eq _ _
  have long : binade ≤ significand * 2 ^ 53 * 10 ^ places :=
    calc binade ≤ 1 * 2 ^ 53 * 1 := by decide
      _ ≤ significand * 2 ^ 53 * 10 ^ places := by
        gcongr
        · exact positive
        · exact Nat.one_le_pow _ _ (by norm_num)
  obtain ⟨place, nearest, packed⟩ := exact_rank (target_ready long (-53 + 0)) (by positivity)
  refine ⟨place, ?_, ?_⟩
  · have value : ((significand * 2 ^ 53 * 10 ^ places : ℕ) : ℚ) * 2 ^ (-53 + 0 : ℤ) =
        significand * 10 ^ places := by
      rw [add_zero, zpow_neg]
      norm_num
      ring
    rwa [value] at nearest
  · have notLarge : ¬(places : ℤ) > 2 ^ Format.binary64.exponentBits := by
      change ¬(places : ℤ) > 2 ^ 11
      have : (places : ℤ) ≤ 2 ^ 11 := by exact_mod_cast small
      omega
    have notTiny :
        ¬(places : ℤ) < -((2 ^ Format.binary64.exponentBits : ℤ) + significand.log2) := by
      change ¬(places : ℤ) < -((2 ^ 11 : ℤ) + significand.log2)
      omega
    rw [rank_of_model isScientific, UnpackedFloat.ofScientific, dif_neg positive.ne',
      if_neg notLarge, if_neg notTiny, if_pos (Int.natCast_nonneg _)]
    simp only [UnpackedFloat.mul, scaled, Int.toNat_natCast]
    exact packed

theorem value_lt_of_lt {place : ℕ} {other : ℕ} (less : valueAt place < valueAt other) :
    place < other :=
  value_strict_mono.lt_iff_lt.mp less

theorem value_top : valueAt top = 2 ^ (1024 : ℤ) := by
  have isTop : top = binade + 2046 * binade := by decide
  have isBinade : (binade : ℚ) = 2 ^ (52 : ℤ) := by norm_num [binade]
  rw [isTop, value_at_add (by decide) (.inl le_rfl), isBinade, ← zpow_add₀ (by norm_num)]
  rfl

/-- Small natural numbers are doubles. -/
theorem integer_rank {number : ℕ} (positive : 0 < number) (small : number < 2 ^ 53) :
    valueAt (rank number.toUInt64.toFloat) = number := by
  have isNumber : number.toUInt64.toNat = number :=
    UInt64.toNat_ofNat_of_lt' (show number < 2 ^ 64 by omega)
  have isInteger : (number.toUInt64.toFloat).toModel = Float.Model.pack
      (UnpackedFloat.round .binary64 .positive number 0) := by
    change Float.Model.pack
      (UnpackedFloat.normalize .binary64 ((number.toUInt64.toNat : ℕ) : ℤ) 0 .positive) = _
    have order : compare (number : ℤ) 0 = .gt :=
      compare_gt_iff_gt.mpr (by exact_mod_cast positive)
    rw [isNumber, UnpackedFloat.normalize, order]
    rfl
  have inside : number < 2 * binade := by unfold binade; omega
  obtain ⟨shift, isShift, long, upper⟩ := exists_shift positive inside
  have isTarget : Format.targetExponent .binary64 (totalExponent number 0) = -(shift : ℤ) := by
    change max ((number.log2 : ℤ) + 1 + 0 - 53) (-1074) = _
    omega
  obtain ⟨place, nearest, packed⟩ := exact_rank (target_ready long (-(shift : ℤ))) (by positivity)
  have value : ((number * 2 ^ shift : ℕ) : ℚ) * 2 ^ (-(shift : ℤ)) = number := by
    rw [zpow_neg, zpow_natCast]
    push_cast
    field_simp
  rw [value] at nearest
  obtain ⟨own, isOwn⟩ := exists_value positive inside (show (-1022 : ℤ) ≤ 0 by norm_num)
  rw [zpow_zero, mul_one] at isOwn
  obtain rfl : place = own := nearest.unique (isOwn ▸ Nearest.of_value own)
  have finite : place < top := by
    apply value_lt_of_lt
    rw [isOwn, value_top]
    calc (number : ℚ) < 2 ^ 53 := by exact_mod_cast small
      _ = 2 ^ (53 : ℤ) := (zpow_natCast 2 53).symm
      _ ≤ 2 ^ (1024 : ℤ) := zpow_le_zpow_right₀ (by norm_num) (by norm_num)
  have isRank : rank number.toUInt64.toFloat = place := by
    rw [rank_of_model isInteger]
    simp only [UnpackedFloat.round, isTarget, decreaseExponent, Nat.shiftLeft_eq]
    rw [show ((0 : ℤ) - -(shift : ℤ)).toNat = shift by omega,
      show (0 : ℤ) - (shift : ℤ) = -(shift : ℤ) by omega, packed]
    omega
  rw [isRank, isOwn]

/-- The powers of ten that are doubles. -/
theorem power_rank {places : ℕ} (small : places ≤ 22) :
    valueAt (rank (powerOfTen places)) = 10 ^ places ∧
      binade < rank (powerOfTen places) ∧ rank (powerOfTen places) < top := by
  have table : ∀ places < 23, 1022 ≤ levelAt (rank (powerOfTen places)) ∧
      significandAt (rank (powerOfTen places)) * 2 ^ (levelAt (rank (powerOfTen places)) - 1022) =
          10 ^ places * binade ∧
        binade < rank (powerOfTen places) ∧ rank (powerOfTen places) < top := by
    decide +kernel
  obtain ⟨high, same, normal, finite⟩ := table places (by omega)
  refine ⟨?_, normal, finite⟩
  obtain ⟨steps, isLevel⟩ := Nat.exists_eq_add_of_le high
  rw [isLevel, Nat.add_sub_cancel_left] at same
  have scaled : (significandAt (rank (powerOfTen places)) : ℚ) * 2 ^ steps =
      10 ^ places * binade := by exact_mod_cast same
  have exponent : ((1022 + steps : ℕ) : ℤ) - 1074 = steps - 52 := by push_cast; ring
  rw [value_eq, isLevel, exponent, zpow_sub₀ (by norm_num), zpow_natCast, ← mul_div_assoc, scaled]
  norm_num [binade]

theorem value_one : valueAt (rank (powerOfTen 0)) = 1 := by
  simpa using (power_rank (Nat.zero_le 22)).1

theorem value_top_pred : valueAt (top - 1) = ((2 * binade - 1) * 2 ^ 971 : ℕ) := by
  have isPlace : top - 1 = (2 * binade - 1) + 2045 * binade := by decide
  have exponent : ((2045 : ℕ) : ℤ) - 1074 = (971 : ℕ) := rfl
  rw [isPlace, value_at_add (Nat.sub_le _ _) (.inl (by decide)), exponent, zpow_natCast,
    Nat.cast_mul, Nat.cast_pow, Nat.cast_ofNat]

theorem power_close {places : ℕ} (small : places ≤ 308) :
    binade < rank (powerOfTen places) ∧ rank (powerOfTen places) < top ∧
      Close roundoff (10 ^ places) (valueAt (rank (powerOfTen places))) := by
  rcases le_or_gt places 22 with exact | large
  · obtain ⟨value, normal, finite⟩ := power_rank exact
    rw [value]
    exact ⟨normal, finite, (Close.refl _).mono one_le_roundoff (by positivity) (by positivity)⟩
  · obtain ⟨place, nearest, isRank⟩ := @scientific_rank 1 places one_pos (by omega) (by omega)
    rw [Nat.cast_one, one_mul] at nearest
    have normal : binade < place := by
      refine (power_rank (Nat.zero_le 22)).2.1.trans_le (nearest.le_of_value_lt ?_)
      rw [value_one]
      exact one_lt_pow₀ (by norm_num) (by omega)
    have finite : place ≤ top - 1 := by
      refine nearest.le_of_lt_value ?_
      have bound : 10 ^ 308 < (2 * binade - 1) * 2 ^ 971 := by decide +kernel
      rw [value_top_pred]
      calc (10 : ℚ) ^ places ≤ 10 ^ 308 := pow_le_pow_right₀ (by norm_num) small
        _ = (10 ^ 308 : ℕ) := by rw [Nat.cast_pow, Nat.cast_ofNat]
        _ < ((2 * binade - 1) * 2 ^ 971 : ℕ) := Nat.cast_lt.mpr bound
    have same : rank (powerOfTen places) = place := by
      rw [powerOfTen, isRank]
      unfold top binade at *
      omega
    rw [same]
    exact ⟨normal, by unfold top binade at *; omega, nearest.close_normal normal⟩

/-- What a significand of 64 bits gives as a double. -/
structure Whole (number : ℕ) : Prop where
  normal : binade < rank (Float.ofNat number)
  finite : rank (Float.ofNat number) < top
  nearest : Nearest number (rank (Float.ofNat number))
  exact : number < 2 ^ 53 → valueAt (rank (Float.ofNat number)) = number

theorem rank_mul_one {value : Float} (proper : Proper value) :
    rank (value * powerOfTen 0) = rank value := by
  obtain ⟨isOne, normal, finite⟩ := power_rank (Nat.zero_le 22)
  obtain ⟨place, nearest, isRank⟩ :=
    mul_rank proper ⟨(Nat.zero_le binade).trans_lt normal, finite⟩ normal.le
  rw [value_one, mul_one] at nearest
  have same := nearest.unique (.of_value _)
  rw [isRank, same]
  exact min_eq_left proper.2.le

theorem normal_of_one_le {place : ℕ} (large : 1 ≤ valueAt place) : binade < place := by
  rw [← value_one] at large
  exact (power_rank (Nat.zero_le 22)).2.1.trans_le (value_strict_mono.le_iff_le.mp large)

theorem lt_value_top_pred {number : ℕ} (small : number < 2 ^ 64) :
    (number : ℚ) < valueAt (top - 1) := by
  have bound : 2 ^ 64 < (2 * binade - 1) * 2 ^ 971 := by decide +kernel
  rw [value_top_pred]
  exact Nat.cast_lt.mpr (small.trans bound)

theorem of_nat_rank {number : ℕ} (positive : 0 < number) (small : number < 2 ^ 64) :
    Whole number := by
  have one_le : (1 : ℚ) ≤ number := by exact_mod_cast positive
  rcases lt_or_ge number (2 ^ 53) with short | long
  · have value := integer_rank positive short
    have normal : binade < rank number.toUInt64.toFloat := normal_of_one_le (value ▸ one_le)
    have finite : rank number.toUInt64.toFloat < top := by
      refine (value_lt_of_lt ?_).trans (show top - 1 < top by decide)
      rw [value]
      exact lt_value_top_pred small
    have isProduct : Float.ofNat number = number.toUInt64.toFloat * powerOfTen 0 := by
      have isOne : Float.ofBits 0x3FF0000000000000 = powerOfTen 0 := by decide +kernel
      rw [← isOne]
      change Float.ofScientific number false 0 = _
      rw [Float.ofScientific, dif_pos ⟨short, by norm_num⟩]
      rfl
    have same : rank (Float.ofNat number) = rank number.toUInt64.toFloat := by
      rw [isProduct]
      exact rank_mul_one ⟨(Nat.zero_le binade).trans_lt normal, finite⟩
    refine ⟨same ▸ normal, same ▸ finite, ?_, fun _ => same ▸ value⟩
    rw [same, ← value]
    exact Nearest.of_value _
  · obtain ⟨place, nearest, isRank⟩ := @scientific_rank number 0 positive (by omega) (by omega)
    rw [pow_zero, mul_one] at nearest
    have normal : binade < place := by
      refine (power_rank (Nat.zero_le 22)).2.1.trans_le (nearest.le_of_value_lt ?_)
      rw [value_one]
      exact_mod_cast (show 1 < number by omega)
    have finite : place ≤ top - 1 := nearest.le_of_lt_value (lt_value_top_pred small)
    have same : rank (Float.ofNat number) = place := by
      change rank (Float.ofScientific number false 0) = place
      rw [isRank]
      unfold top binade at *
      omega
    refine ⟨same ▸ normal, ?_, same ▸ nearest, fun short => by omega⟩
    rw [same]
    unfold top binade at *
    omega

end LinearProgram.Double
