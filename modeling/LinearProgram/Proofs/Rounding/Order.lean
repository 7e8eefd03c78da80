import LinearProgram.Proofs.Rounding.Signs

/-!
# Exact values and their order

The number that a finite double stands for, read off its unpacked form. It is the value of
its magnitude on the ladder with the sign of the double, and doubles compare as these numbers
do, zeros of either sign included.
-/

namespace LinearProgram.Double

open Float.Model Float.Model.UnpackedFloat

/-- The number that a finite double stands for; the others are given zero. -/
def exactValue (value : Float) : ℚ :=
  match unpacked value with
  | .finite sign significand exponent _ => (sign.apply significand : ℤ) * 2 ^ exponent
  | _ => 0

def signed (negative : Bool) (number : ℚ) : ℚ :=
  if negative then -number else number

section

variable {value other : Float}

theorem unpack_zero (zero : magnitude value = 0) : ∃ sign, unpacked value = .zero sign := by
  cases negative : isNegative value with
  | false =>
      obtain rfl : value = 0 := eq_of_parts (negative.trans (by decide)) (zero.trans (by decide))
      exact ⟨.positive, rfl⟩
  | true =>
      obtain rfl : value = -0 :=
        eq_of_parts (negative.trans (by decide +kernel)) (zero.trans (by decide +kernel))
      exact ⟨.negative, rfl⟩

theorem unpack_finite (positive : 0 < magnitude value) (finite : magnitude value < top) :
    ∃ inside, unpacked value = .finite (if isNegative value then .negative else .positive)
      (significandAt (magnitude value)) ((levelAt (magnitude value) : ℤ) - 1074) inside := by
  simp only [isNegative, decide_eq_true_eq]
  exact unpack_place rfl positive finite

theorem exact_value_zero (zero : magnitude value = 0) : exactValue value = 0 := by
  obtain ⟨sign, isZero⟩ := unpack_zero zero
  rw [exactValue, isZero]

theorem exact_value_eq (finite : magnitude value < top) :
    exactValue value = signed (isNegative value) (valueAt (magnitude value)) := by
  rcases Nat.eq_zero_or_pos (magnitude value) with zero | positive
  · rw [exact_value_zero zero, zero, value_at_zero, signed, neg_zero, ite_self]
  · obtain ⟨inside, isValue⟩ := unpack_finite positive finite
    rw [exactValue, isValue, value_eq]
    cases isNegative value with
    | false => simp [signed, Sign.apply]
    | true => simp [signed, Sign.apply]

/-- Of two ranks, the level counts before the significand. -/
theorem rank_le_iff (rank further : ℕ) :
    ((compare ((levelAt rank : ℤ) - 1074) ((levelAt further : ℤ) - 1074)).then
      (compare (significandAt rank) (significandAt further))).isLE = true ↔ rank ≤ further := by
  rw [Ordering.isLE_then_iff_or, Int.compare_eq_lt, Int.compare_eq_eq, Nat.isLE_compare]
  unfold significandAt levelAt binade
  omega

theorem rank_ge_iff (rank further : ℕ) :
    ((compare ((levelAt rank : ℤ) - 1074) ((levelAt further : ℤ) - 1074)).then
      (compare (significandAt rank) (significandAt further))).swap.isLE = true ↔
        further ≤ rank := by
  rw [Ordering.swap_then, Int.compare_swap, Nat.compare_swap, rank_le_iff]

theorem le_iff_of_nonzero (positive : 0 < magnitude value) (finite : magnitude value < top)
    (positive' : 0 < magnitude other) (finite' : magnitude other < top) :
    value ≤ other ↔ exactValue value ≤ exactValue other := by
  obtain ⟨inside, isValue⟩ := unpack_finite positive finite
  obtain ⟨inside', isOther⟩ := unpack_finite positive' finite'
  have size := value_pos positive
  have size' := value_pos positive'
  rw [le_iff, isValue, isOther, exact_value_eq finite, exact_value_eq finite']
  cases isNegative value with
  | false =>
      cases isNegative other with
      | false => exact (rank_le_iff _ _).trans value_strict_mono.le_iff_le.symm
      | true =>
          exact iff_of_false Bool.false_ne_true
            (not_le.mpr ((neg_lt_zero.mpr size').trans size))
  | true =>
      cases isNegative other with
      | false => exact iff_of_true rfl ((neg_lt_zero.mpr size).trans size').le
      | true =>
          exact (rank_ge_iff _ _).trans (value_strict_mono.le_iff_le.symm.trans neg_le_neg_iff.symm)

/-- Finite doubles compare as the numbers that they stand for. -/
theorem le_iff_exact_value (finite : magnitude value < top) (finite' : magnitude other < top) :
    value ≤ other ↔ exactValue value ≤ exactValue other := by
  -- A zero is compared without regard to its sign, so it needs cases of its own.
  rcases Nat.eq_zero_or_pos (magnitude value) with zero | positive
  · obtain ⟨sign, isZero⟩ := unpack_zero zero
    rw [le_iff, isZero, exact_value_zero zero]
    rcases Nat.eq_zero_or_pos (magnitude other) with zero' | positive'
    · obtain ⟨sign', isZero'⟩ := unpack_zero zero'
      rw [isZero', exact_value_zero zero']
      exact iff_of_true rfl le_rfl
    · obtain ⟨inside', isOther⟩ := unpack_finite positive' finite'
      have size := value_pos positive'
      rw [isOther, exact_value_eq finite']
      cases isNegative other with
      | false => exact iff_of_true rfl size.le
      | true => exact iff_of_false Bool.false_ne_true (not_le.mpr (neg_lt_zero.mpr size))
  · rcases Nat.eq_zero_or_pos (magnitude other) with zero' | positive'
    · obtain ⟨inside, isValue⟩ := unpack_finite positive finite
      obtain ⟨sign', isZero'⟩ := unpack_zero zero'
      have size := value_pos positive
      rw [le_iff, isValue, isZero', exact_value_eq finite, exact_value_zero zero']
      cases isNegative value with
      | false => exact iff_of_false Bool.false_ne_true (not_le.mpr size)
      | true => exact iff_of_true rfl (neg_lt_zero.mpr size).le
    · exact le_iff_of_nonzero positive finite positive' finite'

end

end LinearProgram.Double
