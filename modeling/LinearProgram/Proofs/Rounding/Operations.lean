import LinearProgram.Proofs.Doubles
import LinearProgram.Proofs.Rounding.Ladder

/-!
# Operations give the nearest double

What the arithmetic on doubles does to a mantissa with a remainder: the remainder is
carried along while bits are shifted out, so that the rounded mantissa is the natural
number nearest to the quotient. A rank is that mantissa plus its level, whether or not
the mantissa carries into the next binade.
-/

namespace LinearProgram.Double

open Float.Model Float.Model.UnpackedFloat

/-! ## Rounding a quotient -/

/-- The natural number nearest to a quotient, an even one at an exact half. -/
structure NearestQuotient (num den result : ℕ) : Prop where
  below : 2 * (result * den) ≤ 2 * num + den
  above : 2 * num ≤ 2 * (result * den) + den
  tie : 2 * (result * den) = 2 * num + den ∨ 2 * num = 2 * (result * den) + den → Even result

/-- The mantissa and the two remaining bits of a quotient. -/
structure Holds (num den : ℕ) (extended : ExtendedMantissa) : Prop where
  mantissa : extended.mantissa = num / den
  roundBit : extended.roundBit = true ↔ den ≤ 2 * (num % den)
  stickyBit : extended.stickyBit = true ↔ num % den ≠ 0 ∧ 2 * (num % den) ≠ den

theorem holds_fraction (num : ℕ) {den : ℕ} (positive : 0 < den) :
    Holds num den (.ofMantissaAndAccuracy (num / den) (accuracyOfFraction (num % den) den)) := by
  unfold accuracyOfFraction
  split_ifs with exact
  · refine ⟨rfl, ?_, ?_⟩ <;> simp [ExtendedMantissa.ofMantissaAndAccuracy] <;> omega
  · cases order : compare (2 * (num % den)) den with
    | lt =>
        have less := Nat.compare_eq_lt.mp order
        refine ⟨rfl, ?_, ?_⟩ <;> simp [ExtendedMantissa.ofMantissaAndAccuracy] <;> omega
    | eq =>
        have same := Nat.compare_eq_eq.mp order
        refine ⟨rfl, ?_, ?_⟩ <;> simp [ExtendedMantissa.ofMantissaAndAccuracy] <;> omega
    | gt =>
        have more := Nat.compare_eq_gt.mp order
        refine ⟨rfl, ?_, ?_⟩ <;> simp [ExtendedMantissa.ofMantissaAndAccuracy] <;> omega

theorem holds_shifted {num den : ℕ} {extended : ExtendedMantissa} (positive : 0 < den)
    (holds : Holds num den extended) : Holds num (den * 2) extended.shiftRightOne := by
  have small := Nat.mod_lt num positive
  have rest : num % (den * 2) = num % den + den * (num / den % 2) := Nat.mod_mul
  have quotient : num / (den * 2) = num / den / 2 := (Nat.div_div_eq_div_mul num den 2).symm
  have sticky : (extended.roundBit || extended.stickyBit) = true ↔ num % den ≠ 0 := by
    rw [Bool.or_eq_true, holds.roundBit, holds.stickyBit]
    omega
  refine ⟨by rw [ExtendedMantissa.shiftRightOne, holds.mantissa, quotient], ?_, ?_⟩
  · rw [ExtendedMantissa.shiftRightOne, holds.mantissa, rest, bne_iff_ne]
    rcases Nat.mod_two_eq_zero_or_one (num / den) with even | odd
    · rw [even]
      omega
    · rw [odd]
      omega
  · rw [ExtendedMantissa.shiftRightOne, sticky, rest]
    rcases Nat.mod_two_eq_zero_or_one (num / den) with even | odd
    · rw [even]
      omega
    · rw [odd]
      omega

theorem holds_shift {num den : ℕ} {extended : ExtendedMantissa} (positive : 0 < den)
    (holds : Holds num den extended) (count : ℕ) :
    Holds num (den * 2 ^ count) (extended >>> count) := by
  induction count with
  | zero => rwa [pow_zero, mul_one]
  | succ count induction =>
      rw [pow_succ, ← mul_assoc]
      exact holds_shifted (by positivity) induction

theorem nearest_of_holds {num den : ℕ} {extended : ExtendedMantissa} (positive : 0 < den)
    (holds : Holds num den extended) : NearestQuotient num den extended.roundedMantissa := by
  obtain ⟨mantissa, roundBit, stickyBit⟩ := extended
  obtain ⟨rfl, isRound, isSticky⟩ := holds
  have small := Nat.mod_lt num positive
  have split := Nat.div_add_mod num den
  have up : (num / den + 1) * den = den * (num / den) + den := by ring
  have same : num / den * den = den * (num / den) := by ring
  cases roundBit <;> cases stickyBit <;> simp at isRound isSticky <;>
    simp only [ExtendedMantissa.roundedMantissa, ExtendedMantissa.accuracy,
      Accuracy.roundToNearestEven]
  · exact ⟨by omega, by omega, by omega⟩
  · exact ⟨by omega, by omega, by omega⟩
  · rcases Nat.mod_two_eq_zero_or_one (num / den) with even | odd
    · rw [even, Nat.add_zero]
      exact ⟨by omega, by omega, fun _ => Nat.even_iff.mpr even⟩
    · rw [odd]
      exact ⟨by omega, by omega, fun _ => Nat.even_iff.mpr (by omega)⟩
  · exact ⟨by omega, by omega, by omega⟩

/-! ## The rank of a rounded mantissa -/

theorem rounded_mantissa_bounds {num den result bound : ℕ}
    (nearest : NearestQuotient num den result) (positive : 0 < den) :
    (num < bound * den → result ≤ bound) ∧ (bound * den ≤ num → bound ≤ result) := by
  constructor
  · intro small
    by_contra large
    have : (bound + 1) * den ≤ result * den := Nat.mul_le_mul_right den (by omega)
    have below := nearest.below
    rw [Nat.add_mul, Nat.one_mul] at this
    omega
  · intro large
    by_contra small
    have : (result + 1) * den ≤ bound * den := Nat.mul_le_mul_right den (by omega)
    have above := nearest.above
    rw [Nat.add_mul, Nat.one_mul] at this
    omega

theorem nearest_quotient_half {num den result : ℕ} (nearest : NearestQuotient num den result)
    (positive : 0 < den) :
    2 * (num / den : ℚ) ≤ 2 * result + 1 ∧ 2 * (result : ℚ) ≤ 2 * (num / den) + 1 ∧
      (2 * (num / den : ℚ) = 2 * result + 1 ∨ 2 * (result : ℚ) = 2 * (num / den) + 1 →
        Even result) := by
  have size : (0 : ℚ) < den := by exact_mod_cast positive
  have quotient : (num / den : ℚ) * den = num := div_mul_cancel₀ _ size.ne'
  have below : 2 * ((result : ℚ) * den) ≤ 2 * num + den := by exact_mod_cast nearest.below
  have above : 2 * (num : ℚ) ≤ 2 * (result * den) + den := by exact_mod_cast nearest.above
  generalize (num / den : ℚ) = ratio at *
  refine ⟨?_, ?_, ?_⟩
  · refine le_of_mul_le_mul_right ?_ size
    linarith
  · refine le_of_mul_le_mul_right ?_ size
    linarith
  · rintro (isTie | isTie)
    · refine nearest.tie (.inr ?_)
      have scaled : 2 * (num : ℚ) = 2 * (result * den) + den := by
        rw [← quotient]
        linear_combination (den : ℚ) * isTie
      exact_mod_cast scaled
    · refine nearest.tie (.inl ?_)
      have scaled : 2 * ((result : ℚ) * den) = 2 * num + den := by
        rw [← quotient]
        linear_combination (den : ℚ) * isTie
      exact_mod_cast scaled

/-- A quotient, rounded at the level of its binade, has the nearest rank. -/
theorem nearest_rank {num den result level : ℕ} (nearest : NearestQuotient num den result)
    (positive : 0 < den) (upper : num < 2 * binade * den)
    (lower : level = 0 ∨ binade * den ≤ num) :
    Nearest ((num : ℚ) / den * 2 ^ ((level : ℤ) - 1074)) (result + level * binade) := by
  have small := (rounded_mantissa_bounds nearest positive).1 upper
  have placed : binade ≤ result ∨ level = 0 :=
    lower.symm.imp_left (rounded_mantissa_bounds nearest positive).2
  have even : Even (result + level * binade) ↔ Even result := by
    have levels : Even (level * binade) := binade_even.mul_left level
    simp [Nat.even_add, levels]
  have here := value_at_add small placed
  have before {rank : ℕ} := @value_before rank result level small placed
  have after := value_after small placed
  have size : (0 : ℚ) < den := by exact_mod_cast positive
  have inside : (num / den : ℚ) < (2 * binade : ℕ) := by
    rw [div_lt_iff₀ size]
    exact_mod_cast upper
  have start : level ≠ 0 → (binade : ℚ) ≤ num / den := fun raised => by
    rw [le_div_iff₀ size]
    exact_mod_cast lower.resolve_left raised
  obtain ⟨above, below, tie⟩ := nearest_quotient_half nearest positive
  have gap : (0 : ℚ) < 2 ^ ((level : ℤ) - 1074) := zpow_pos (by norm_num) _
  generalize (2 : ℚ) ^ ((level : ℤ) - 1074) = unit at *
  generalize (num / den : ℚ) = ratio at *
  refine ⟨fun {rank} next => ?_, ?_, fun {rank} next isTie => ?_, fun isTie => ?_⟩
  · rw [here]
    rcases before next with isLess | ⟨⟨rfl, raised⟩, isLess⟩
    · rw [isLess]
      nlinarith
    · nlinarith [start raised]
  · rw [here]
    rcases after with isMore | ⟨rfl, isMore⟩
    · rw [isMore]
      nlinarith
    · nlinarith
  · rw [here] at isTie
    rcases before next with isLess | ⟨⟨rfl, raised⟩, isLess⟩
    · rw [isLess] at isTie
      refine even.mpr (tie (.inr ?_))
      refine mul_right_cancel₀ gap.ne' ?_
      linarith
    · nlinarith [start raised]
  · rw [here] at isTie
    rcases after with isMore | ⟨rfl, isMore⟩
    · rw [isMore] at isTie
      refine even.mpr (tie (.inl ?_))
      refine mul_right_cancel₀ gap.ne' ?_
      linarith
    · nlinarith

/-! ## Packing -/

theorem pack_components_to_nat (sign : Sign) (exponent : BitVec 11) (mantissa : BitVec 52) :
    (packComponents .binary64 sign exponent mantissa).toNat =
      sign.toBitVec.toNat * 2 ^ 63 + exponent.toNat * binade + mantissa.toNat := by
  unfold packComponents
  rw [BitVec.toNat_append, BitVec.toNat_append, ← Nat.shiftLeft_add_eq_or_of_lt exponent.isLt,
    ← Nat.shiftLeft_add_eq_or_of_lt mantissa.isLt, Nat.shiftLeft_eq, Nat.shiftLeft_eq]
  unfold binade
  ring

theorem pack_signed (sign : Sign) {significand level : ℕ} (positive : 0 < significand)
    (upper : significand < 2 * binade) (lower : binade ≤ significand ∨ level = 0) :
    (UnpackedFloat.pack .binary64 (.finite sign significand ((level : ℤ) - 1074) positive)).toNat =
      sign.toBitVec.toNat * 2 ^ 63 + min (significand + level * binade) top := by
  have biased : ((level : ℤ) - 1074 + (Format.binary64.exponentBias : ℤ) +
      (Format.binary64.mantissaBitsWithoutImplicit : ℤ)).toNat = level + 1 := by
    change ((level : ℤ) - 1074 + 1023 + 52).toNat = _
    omega
  simp only [UnpackedFloat.pack, biased]
  split_ifs with overflow normal
  · have large : 2 ^ 11 ≤ level + 1 + 1 := overflow
    rw [packedInfinity, pack_components_to_nat]
    unfold top binade at *
    change sign.toBitVec.toNat * 2 ^ 63 + 2047 * 2 ^ 52 + 0 = _
    omega
  · have isNormal : binade ≤ significand := by
      have := (Nat.log2_eq_iff positive.ne').mp (Nat.succ.inj normal)
      exact this.1
    have small : ¬2 ^ 11 ≤ level + 1 + 1 := overflow
    rw [pack_components_to_nat, BitVec.toNat_ofNat, BitVec.toNat_ofNat]
    change sign.toBitVec.toNat * 2 ^ 63 + (level + 1) % 2 ^ 11 * binade + significand % 2 ^ 52 = _
    unfold top binade at *
    omega
  · have isSubnormal : significand < binade := by
      by_contra isNormal
      refine normal (congrArg Nat.succ ((Nat.log2_eq_iff positive.ne').mpr ?_))
      unfold binade at *
      exact ⟨by omega, by omega⟩
    rw [pack_components_to_nat, BitVec.toNat_ofNat]
    change sign.toBitVec.toNat * 2 ^ 63 + 0 * binade + significand % 2 ^ 52 = _
    unfold top binade at *
    omega

theorem pack_rank {significand level : ℕ} (positive : 0 < significand)
    (upper : significand < 2 * binade) (lower : binade ≤ significand ∨ level = 0) :
    (UnpackedFloat.pack .binary64
      (.finite .positive significand ((level : ℤ) - 1074) positive)).toNat =
        min (significand + level * binade) top := by
  rw [pack_signed .positive positive upper lower]
  exact Nat.zero_add _

theorem shift_again {result level : ℕ} (upper : result < 2 * binade) :
    shiftToTargetExponent .binary64 result ((level : ℤ) - 1074) .exact =
      (⟨result, false, false⟩, (level : ℤ) - 1074) := by
  have short : result.log2 ≤ 52 := by
    by_cases zero : result = 0
    · simp [zero]
    · have := (Nat.log2_lt zero).mpr (show result < 2 ^ 53 by simpa [binade] using upper)
      omega
  have ready : (Format.targetExponent .binary64 (totalExponent result ((level : ℤ) - 1074)) -
      ((level : ℤ) - 1074)).toNat = 0 := by
    change (max ((result.log2 : ℤ) + 1 + ((level : ℤ) - 1074) - 53) (-1074) - _).toNat = 0
    omega
  simp only [shiftToTargetExponent, shiftToExponent, ready]
  simp [ExtendedMantissa.ofMantissaAndAccuracy]
  rfl

theorem shift_carry (level : ℕ) :
    shiftToTargetExponent .binary64 (2 * binade) ((level : ℤ) - 1074) .exact =
      (⟨binade, false, false⟩, ((level + 1 : ℕ) : ℤ) - 1074) := by
  have long : (2 * binade).log2 = 53 := by
    unfold binade
    exact Nat.log2_two_pow (n := 53)
  have ready : (Format.targetExponent .binary64 (totalExponent (2 * binade) ((level : ℤ) - 1074)) -
      ((level : ℤ) - 1074)).toNat = 1 := by
    rw [Format.targetExponent, totalExponent, long]
    change (max ((53 : ℤ) + 1 + ((level : ℤ) - 1074) - 53) (-1074) - _).toNat = 1
    omega
  simp only [shiftToTargetExponent, shiftToExponent, ready]
  refine Prod.ext ?_ ?_
  · change (⟨2 * binade / 2, 2 * binade % 2 != 0, false⟩ : ExtendedMantissa) = _
    rw [Nat.mul_div_cancel_left _ two_pos, Nat.mul_mod_right]
    rfl
  · change ((level : ℤ) - 1074) + 1 = _
    push_cast
    ring

theorem packed_zero (sign : Sign) : (UnpackedFloat.pack .binary64 (.zero sign)).toNat =
    sign.toBitVec.toNat * 2 ^ 63 := by
  change (packComponents .binary64 sign 0 0).toNat = _
  rw [pack_components_to_nat]
  simp

/-- The second shift only undoes a carry. -/
theorem rounded_rank {mantissa level : ℕ} {exponent : ℤ} {accuracy : Accuracy}
    {extended : ExtendedMantissa}
    (shifted : shiftToTargetExponent .binary64 mantissa exponent accuracy =
      (extended, (level : ℤ) - 1074))
    (upper : extended.roundedMantissa ≤ 2 * binade)
    (lower : binade ≤ extended.roundedMantissa ∨ level = 0) :
    (UnpackedFloat.pack .binary64
      (roundWithAccuracy .binary64 .positive mantissa exponent accuracy)).toNat =
        min (extended.roundedMantissa + level * binade) top := by
  simp only [roundWithAccuracy, shifted]
  rcases upper.lt_or_eq with inside | isEnd
  · simp only [shift_again inside]
    split_ifs with isZero
    · have isLevel : level = 0 := lower.resolve_left (by rw [isZero]; decide)
      rw [packed_zero, isZero, isLevel]
      rfl
    · exact pack_rank (Nat.pos_of_ne_zero isZero) inside lower
  · simp only [isEnd, shift_carry]
    rw [dif_neg (by decide), pack_rank (by decide) (by decide) (.inl le_rfl)]
    congr 1
    ring

theorem target_level (mantissa : ℕ) (exponent : ℤ) : ∃ level : ℕ,
    Format.targetExponent .binary64 (totalExponent mantissa exponent) = (level : ℤ) - 1074 ∧
      mantissa.log2 + exponent ≤ level - 1022 ∧
      (level = 0 ∨ mantissa.log2 + exponent = level - 1022) := by
  have isTarget : Format.targetExponent .binary64 (totalExponent mantissa exponent) =
      max ((mantissa.log2 : ℤ) + 1 + exponent - 53) (-1074) := rfl
  refine ⟨(Format.targetExponent .binary64 (totalExponent mantissa exponent) + 1074).toNat, ?_⟩
  rw [isTarget]
  omega

/-- The rank of a mantissa with a remainder, once rounded. -/
theorem round_rank {num den : ℕ} {exponent : ℤ} (positive : 0 < den)
    (ready : exponent ≤ Format.targetExponent .binary64 (totalExponent (num / den) exponent))
    (present : 0 < num / den ∨ exponent ≤ -1074) :
    ∃ rank, Nearest ((num : ℚ) / den * 2 ^ exponent) rank ∧
      (UnpackedFloat.pack .binary64 (roundWithAccuracy .binary64 .positive (num / den) exponent
        (accuracyOfFraction (num % den) den))).toNat = min rank top := by
  obtain ⟨level, isTarget, upper, lower⟩ := target_level (num / den) exponent
  rw [isTarget] at ready
  obtain ⟨count, isCount⟩ : ∃ count : ℕ, (level : ℤ) - 1074 - exponent = count :=
    ⟨_, (Int.toNat_of_nonneg (by omega)).symm⟩
  have wide : 0 < den * 2 ^ count := by positivity
  have shifted : shiftToTargetExponent .binary64 (num / den) exponent
      (accuracyOfFraction (num % den) den) =
        (ExtendedMantissa.ofMantissaAndAccuracy (num / den)
          (accuracyOfFraction (num % den) den) >>> count,
          (level : ℤ) - 1074) := by
    simp only [shiftToTargetExponent, shiftToExponent, isTarget, isCount, Int.toNat_natCast]
    rw [← isCount]
    simp
  have nearest := nearest_of_holds wide (holds_shift positive (holds_fraction num positive) count)
  have below : num < 2 * binade * (den * 2 ^ count) := by
    have short : num / den < 2 ^ (53 + count) :=
      Nat.lt_log2_self.trans_le (Nat.pow_le_pow_right two_pos (by omega))
    have := (Nat.div_lt_iff_lt_mul positive).mp short
    calc num < 2 ^ (53 + count) * den := this
      _ = 2 * binade * (den * 2 ^ count) := by rw [pow_add, binade]; ring
  have above : level = 0 ∨ binade * (den * 2 ^ count) ≤ num := by
    rcases lower with isLeast | isLog
    · exact .inl isLeast
    · by_cases isZero : num / den = 0
      · left
        have := present.resolve_left (by omega)
        rw [isZero, Nat.log2_zero] at isLog
        omega
      · right
        have long : 2 ^ (52 + count) ≤ num / den := by
          have isLength : (num / den).log2 = 52 + count := by omega
          rw [← isLength]
          exact Nat.log2_self_le isZero
        calc binade * (den * 2 ^ count) = 2 ^ (52 + count) * den := by rw [pow_add, binade]; ring
          _ ≤ num := (Nat.le_div_iff_mul_le positive).mp long
  have small := (rounded_mantissa_bounds nearest wide).1 below
  have placed := above.symm.imp_left (rounded_mantissa_bounds nearest wide).2
  refine ⟨_, ?_, rounded_rank shifted small placed⟩
  have value : (num : ℚ) / den * 2 ^ exponent =
      num / ((den * 2 ^ count : ℕ) : ℚ) * 2 ^ ((level : ℤ) - 1074) := by
    have size : (den : ℚ) ≠ 0 := by exact_mod_cast positive.ne'
    rw [show (level : ℤ) - 1074 = exponent + count by omega, zpow_add₀ (by norm_num), zpow_natCast]
    push_cast
    field_simp
  rw [value]
  exact nearest_rank nearest wide below above

/-! ## Doubles as ranks -/

/-- The bit pattern of a double; of one without a sign, its place on the ladder. -/
def rank (value : Float) : ℕ :=
  value.toBits.toNat

theorem rank_of_model {value : Float} {result : UnpackedFloat}
    (isResult : value.toModel = Float.Model.pack result) :
    rank value = (UnpackedFloat.pack .binary64 result).toNat := by
  change value.toModel.toBits.toNat = _
  rw [isResult]
  rfl

section

variable (bits : BitVec 64)

theorem unpack_exponent_to_nat :
    (@unpackExponent .binary64 bits).toNat = bits.toNat / binade % 2 ^ 11 := by
  change ((bits.extractLsb 62 52).cast _).toNat = _
  simp [BitVec.extractLsb_toNat, Nat.shiftRight_eq_div_pow, binade]

theorem unpack_mantissa_to_nat : (@unpackMantissa .binary64 bits).toNat = bits.toNat % binade := by
  change ((bits.extractLsb 51 0).cast _).toNat = _
  simp [BitVec.extractLsb_toNat, binade]

theorem unpack_sign_to_nat : (@unpackSign .binary64 bits).toNat = bits.toNat / 2 ^ 63 % 2 := by
  change ((bits.extractLsb 63 63).cast _).toNat = _
  simp [BitVec.extractLsb_toNat, Nat.shiftRight_eq_div_pow]

end

theorem finite_congr {sign sign' : Sign} {significand significand' : ℕ} {exponent exponent' : ℤ}
    {positive : 0 < significand} (sameSign : sign = sign') (same : significand = significand')
    (sameExponent : exponent = exponent') :
    ∃ positive', UnpackedFloat.finite sign significand exponent positive =
      .finite sign' significand' exponent' positive' := by
  subst sameSign same sameExponent
  exact ⟨positive, rfl⟩

/-- The sign of a double, and its place among those without a sign. -/
theorem unpack_place {value : Float} {place : ℕ} (isPlace : rank value % 2 ^ 63 = place)
    (positive : 0 < place) (finite : place < top) :
    ∃ inside, unpacked value = .finite (if 2 ^ 63 ≤ rank value then .negative else .positive)
      (significandAt place) ((levelAt place : ℤ) - 1074) inside := by
  have exponent := unpack_exponent_to_nat value.toBits.toBitVec
  have mantissa := unpack_mantissa_to_nat value.toBits.toBitVec
  have sign := unpack_sign_to_nat value.toBits.toBitVec
  have isExponent : rank value / binade % 2 ^ 11 = place / binade := by
    unfold binade
    omega
  have isMantissa : rank value % binade = place % binade := by
    unfold binade
    omega
  rw [show value.toBits.toBitVec.toNat / binade % 2 ^ 11 = place / binade from isExponent]
    at exponent
  rw [show value.toBits.toBitVec.toNat % binade = place % binade from isMantissa] at mantissa
  have isSign : Sign.ofBitVec (@unpackSign .binary64 value.toBits.toBitVec) =
      if 2 ^ 63 ≤ rank value then .negative else .positive := by
    have bound : rank value < 2 ^ 64 := value.toBits.toNat_lt
    change _ = rank value / 2 ^ 63 % 2 at sign
    split_ifs with negative
    · have isOne : @unpackSign .binary64 value.toBits.toBitVec = 1#1 := by
        apply BitVec.eq_of_toNat_eq
        rw [sign, BitVec.toNat_ofNat]
        omega
      rw [isOne]
      rfl
    · have isZero : @unpackSign .binary64 value.toBits.toBitVec = 0#1 := by
        apply BitVec.eq_of_toNat_eq
        rw [sign, BitVec.toNat_ofNat]
        omega
      rw [isZero]
      rfl
  have isFinite : @unpackExponent .binary64 value.toBits.toBitVec ≠ -1#11 := by
    intro isTop
    have := congrArg BitVec.toNat isTop
    rw [exponent] at this
    unfold top binade at *
    simp at this
    omega
  change ∃ inside, UnpackedFloat.unpack .binary64 value.toBits.toBitVec = _
  rcases lt_or_ge place binade with subnormal | normal
  · have isZero : @unpackExponent .binary64 value.toBits.toBitVec = 0#11 := by
      apply BitVec.eq_of_toNat_eq
      rw [exponent, Nat.div_eq_of_lt subnormal]
      rfl
    have isSignificand : significandAt place = place := by
      simp [significandAt, level_eq_zero subnormal]
    rw [Nat.mod_eq_of_lt subnormal] at mantissa
    have present : @unpackMantissa .binary64 value.toBits.toBitVec ≠ 0#52 := by
      intro none
      rw [none] at mantissa
      simp at mantissa
      omega
    simp only [UnpackedFloat.unpack]
    rw [if_neg isFinite, if_pos isZero, dif_neg present, isZero]
    refine finite_congr isSign (mantissa.trans isSignificand.symm) ?_
    rw [level_eq_zero subnormal]
    rfl
  · have field : place / binade = levelAt place + 1 := by
      unfold levelAt binade at *
      omega
    have isNormal : @unpackExponent .binary64 value.toBits.toBitVec ≠ 0#11 := by
      intro isZero
      rw [isZero, field] at exponent
      simp at exponent
    simp only [UnpackedFloat.unpack]
    rw [if_neg isFinite, if_neg isNormal]
    refine finite_congr isSign ?_ ?_
    · rw [BitVec.toNat_append, ← Nat.shiftLeft_add_eq_or_of_lt (BitVec.isLt _), Nat.shiftLeft_eq,
        mantissa]
      change 1 * 2 ^ 52 + place % binade = _
      unfold significandAt levelAt binade at *
      omega
    · rw [exponent, field]
      change ((levelAt place + 1 : ℕ) : ℤ) - (1023 + 52) = _
      push_cast
      ring

theorem unpack_rank {value : Float} (positive : 0 < rank value) (finite : rank value < top) :
    ∃ inside, unpacked value = .finite .positive (significandAt (rank value))
      ((levelAt (rank value) : ℤ) - 1074) inside := by
  have bound : rank value < 2 ^ 63 := finite.trans (by decide)
  have isValue := unpack_place (Nat.mod_eq_of_lt bound) positive finite
  rwa [if_neg (not_le.mpr bound)] at isValue

/-! ## Operations -/

/-- A positive double that is not infinite. -/
def Proper (value : Float) : Prop :=
  0 < rank value ∧ rank value < top

theorem exact_rank {mantissa : ℕ} {exponent : ℤ}
    (ready : exponent ≤ Format.targetExponent .binary64 (totalExponent mantissa exponent))
    (positive : 0 < mantissa) :
    ∃ place, Nearest ((mantissa : ℚ) * 2 ^ exponent) place ∧
      (UnpackedFloat.pack .binary64
        (roundWithAccuracy .binary64 .positive mantissa exponent .exact)).toNat =
          min place top := by
  have whole : mantissa / 1 = mantissa := Nat.div_one mantissa
  obtain ⟨place, nearest, packed⟩ := @round_rank mantissa 1 exponent one_pos (by rwa [whole])
    (.inl (by rwa [whole]))
  rw [Nat.cast_one, div_one] at nearest
  rw [whole, Nat.mod_one] at packed
  exact ⟨place, nearest, packed⟩

theorem target_ready {mantissa : ℕ} (long : binade ≤ mantissa) (exponent : ℤ) :
    exponent ≤ Format.targetExponent .binary64 (totalExponent mantissa exponent) := by
  have isLong : 52 ≤ mantissa.log2 := (Nat.le_log2 (by unfold binade at long; omega)).mpr long
  change exponent ≤ max ((mantissa.log2 : ℤ) + 1 + exponent - 53) (-1074)
  omega

theorem value_eq (place : ℕ) :
    valueAt place = significandAt place * 2 ^ ((levelAt place : ℤ) - 1074) :=
  rfl

theorem mul_rank {left right : Float} (isLeft : Proper left) (isRight : Proper right)
    (normal : binade ≤ rank right) :
    ∃ place, Nearest (valueAt (rank left) * valueAt (rank right)) place ∧
      rank (left * right) = min place top := by
  obtain ⟨leftPositive, unpackedLeft⟩ := unpack_rank isLeft.1 isLeft.2
  obtain ⟨rightPositive, unpackedRight⟩ := unpack_rank isRight.1 isRight.2
  have long : binade ≤ significandAt (rank left) * significandAt (rank right) :=
    (significand_normal normal).trans (Nat.le_mul_of_pos_left _ leftPositive)
  obtain ⟨place, nearest, packed⟩ := exact_rank
    (target_ready long (((levelAt (rank left) : ℤ) - 1074) + ((levelAt (rank right) : ℤ) - 1074)))
    (Nat.mul_pos leftPositive rightPositive)
  refine ⟨place, ?_, ?_⟩
  · rw [value_eq, value_eq, mul_mul_mul_comm, ← zpow_add₀ (by norm_num)]
    exact_mod_cast nearest
  · have isProduct : (left * right).toModel =
        Float.Model.pack (.mul .binary64 (unpacked left) (unpacked right)) := rfl
    rw [rank_of_model isProduct, unpackedLeft, unpackedRight]
    exact packed

/-- The quotient of two significands has bits enough, or lies at the least level. -/
theorem quotient_long {dividend divisor shift : ℕ} (positive : 0 < dividend)
    (positive' : 0 < divisor) (long : 53 + divisor.log2 ≤ dividend.log2 + shift) :
    binade ≤ dividend * 2 ^ shift / divisor := by
  rw [Nat.le_div_iff_mul_le positive']
  calc binade * divisor ≤ binade * 2 ^ (divisor.log2 + 1) :=
        Nat.mul_le_mul_left _ Nat.lt_log2_self.le
    _ = 2 ^ (53 + divisor.log2) := by rw [pow_add, pow_add, binade]; ring
    _ ≤ 2 ^ (dividend.log2 + shift) := Nat.pow_le_pow_right two_pos long
    _ = 2 ^ dividend.log2 * 2 ^ shift := pow_add _ _ _
    _ ≤ dividend * 2 ^ shift := Nat.mul_le_mul_right _ (Nat.log2_self_le positive.ne')

theorem div_rank {left right : Float} (isLeft : Proper left) (isRight : Proper right) :
    ∃ place, Nearest (valueAt (rank left) / valueAt (rank right)) place ∧
      rank (left / right) = min place top := by
  obtain ⟨leftPositive, unpackedLeft⟩ := unpack_rank isLeft.1 isLeft.2
  obtain ⟨rightPositive, unpackedRight⟩ := unpack_rank isRight.1 isRight.2
  rw [value_eq, value_eq]
  have isQuotient : (left / right).toModel =
      Float.Model.pack (.div .binary64 (unpacked left) (unpacked right)) := rfl
  rw [rank_of_model isQuotient, unpackedLeft, unpackedRight]
  generalize significandAt (rank left) = m₁ at *
  generalize significandAt (rank right) = m₂ at *
  generalize (levelAt (rank left) : ℤ) - 1074 = e₁
  generalize (levelAt (rank right) : ℤ) - 1074 = e₂
  simp only [UnpackedFloat.div, divCore]
  have isTarget : Format.targetExponent .binary64 (totalExponent m₁ e₁ - totalExponent m₂ e₂) =
      max ((m₁.log2 + 1 + e₁) - (m₂.log2 + 1 + e₂) - 53) (-1074) := rfl
  generalize same : min (e₁ - e₂)
    (Format.targetExponent .binary64 (totalExponent m₁ e₁ - totalExponent m₂ e₂)) = target
  obtain ⟨shift, isShift⟩ : ∃ shift : ℕ, e₁ - e₂ - target = shift :=
    ⟨_, (Int.toNat_of_nonneg (by omega)).symm⟩
  rw [isShift, Int.toNat_natCast, Nat.shiftLeft_eq]
  have bits : binade ≤ m₁ * 2 ^ shift / m₂ ∨ target ≤ -1074 := by
    by_cases least : target ≤ -1074
    · exact .inr least
    · exact .inl (quotient_long leftPositive rightPositive (by omega))
  obtain ⟨place, nearest, packed⟩ := @round_rank (m₁ * 2 ^ shift) m₂ target rightPositive
    (bits.elim (target_ready · target) fun least => least.trans (le_max_right _ _))
    (bits.imp_left fun long => (show 0 < binade by decide).trans_le long)
  refine ⟨place, ?_, packed⟩
  have value : ((m₁ * 2 ^ shift : ℕ) : ℚ) / m₂ * 2 ^ target = m₁ * 2 ^ e₁ / (m₂ * 2 ^ e₂) := by
    have exponent : e₁ = shift + target + e₂ := by omega
    have size : (m₂ : ℚ) ≠ 0 := by exact_mod_cast rightPositive.ne'
    rw [exponent, zpow_add₀ (by norm_num), zpow_add₀ (by norm_num), zpow_natCast]
    push_cast
    field_simp
  rwa [value] at nearest

end LinearProgram.Double
