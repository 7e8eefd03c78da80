import LinearProgram.Decimal.Binary
import LinearProgram.Proofs.Rounding.Operations

/-!
# Doubles of both signs

The bits of a double are a sign and the rank of its magnitude. Negation turns the one and
keeps the other, and the exact value is read off the rank.
-/

namespace LinearProgram.Double

open Decimal
open Float.Model Float.Model.UnpackedFloat

/-- The place of a double on the ladder, whatever its sign. -/
def magnitude (value : Float) : ℕ :=
  rank value % 2 ^ 63

def isNegative (value : Float) : Bool :=
  decide (2 ^ 63 ≤ rank value)

section

variable {value other : Float}

theorem rank_lt (value : Float) : rank value < 2 ^ 64 :=
  value.toBits.toNat_lt

theorem rank_split (value : Float) :
    rank value = (isNegative value).toNat * 2 ^ 63 + magnitude value := by
  have bound := rank_lt value
  unfold isNegative magnitude
  by_cases negative : 2 ^ 63 ≤ rank value
  · simp only [negative, decide_true, Bool.toNat_true]
    omega
  · simp only [negative, decide_false, Bool.toNat_false]
    omega

theorem eq_of_parts (sign : isNegative value = isNegative other)
    (same : magnitude value = magnitude other) : value = other := by
  have bits : rank value = rank other := by rw [rank_split, rank_split other, sign, same]
  exact Float.toBits_inj.mp (UInt64.toNat_inj.mp bits)

theorem field_eq (value : Float) :
    rank value / binade % 2 ^ 11 = magnitude value / binade ∧
      rank value % binade = magnitude value % binade := by
  unfold magnitude binade
  omega

theorem is_finite_iff (value : Float) : value.isFinite = true ↔ magnitude value < top := by
  have exponent := unpack_exponent_to_nat value.toBits.toBitVec
  change _ = rank value / binade % 2 ^ 11 at exponent
  rw [(field_eq value).1] at exponent
  have isTop : @unpackExponent .binary64 value.toBits.toBitVec = -1#11 ↔ top ≤ magnitude value := by
    have bound : magnitude value < 2 ^ 63 := Nat.mod_lt _ (by decide)
    rw [← BitVec.toNat_inj, exponent]
    change magnitude value / binade = 2047 ↔ _
    unfold top binade
    omega
  change (UnpackedFloat.unpack .binary64 value.toBits.toBitVec).isFinite = true ↔ _
  rw [← not_le, ← isTop]
  simp only [UnpackedFloat.unpack]
  split_ifs with unbounded
  · exact iff_of_false Bool.false_ne_true (not_not_intro unbounded)
  · exact iff_of_false Bool.false_ne_true (not_not_intro unbounded)
  · exact iff_of_true rfl unbounded
  · exact iff_of_true rfl unbounded
  · exact iff_of_true rfl unbounded

/-- The exact value of a finite double. -/
theorem of_float_finite (finite : magnitude value < top) :
    Binary.ofFloat value = .finite (isNegative value) (significandAt (magnitude value))
      ((levelAt (magnitude value) : ℤ) - 1074) := by
  obtain ⟨field, fraction⟩ := field_eq value
  have bound := rank_lt value
  have sign : decide (rank value / (binade * 2 ^ 11) % 2 = 1) = isNegative value := by
    unfold isNegative binade
    exact decide_eq_decide.mpr (by omega)
  have inside : ¬magnitude value / binade + 1 = 2 ^ 11 := by
    unfold top binade at *
    omega
  change (if rank value / binade % 2 ^ 11 + 1 = 2 ^ 11 then
      if rank value % binade = 0 then
        Binary.infinite (decide (rank value / (binade * 2 ^ 11) % 2 = 1)) else .nan
    else if rank value / binade % 2 ^ 11 = 0 then
      .finite (decide (rank value / (binade * 2 ^ 11) % 2 = 1)) (rank value % binade) (-1074)
    else .finite (decide (rank value / (binade * 2 ^ 11) % 2 = 1)) (binade + rank value % binade)
      (-1074 + (rank value / binade % 2 ^ 11 - 1 : ℕ))) = _
  rw [sign, field, fraction, if_neg inside]
  split_ifs with subnormal
  · have small : magnitude value < binade := by
      unfold binade at *
      omega
    rw [significandAt, level_eq_zero small, zero_mul, Nat.sub_zero, Nat.mod_eq_of_lt small]
    rfl
  · have isSignificand : binade + magnitude value % binade = significandAt (magnitude value) := by
      unfold significandAt levelAt binade at *
      omega
    have isExponent : (-1074 + (magnitude value / binade - 1 : ℕ) : ℤ) =
        (levelAt (magnitude value) : ℤ) - 1074 := by
      rw [levelAt]
      ring
    rw [isSignificand, isExponent]

theorem rank_neg (finite : rank value < top) : rank (-value) = 2 ^ 63 + rank value := by
  have isNegation : (-value).toModel = Float.Model.pack (unpacked value).neg := rfl
  rw [rank_of_model isNegation]
  rcases Nat.eq_zero_or_pos (rank value) with zero | positive
  · have isZero : value = 0 := Float.toBits_inj.mp (UInt64.toNat_inj.mp zero)
    rw [isZero]
    decide +kernel
  · obtain ⟨inside, isValue⟩ := unpack_rank positive finite
    rw [isValue]
    change (UnpackedFloat.pack .binary64 (.finite .negative _ _ inside)).toNat = _
    rw [pack_signed .negative inside (significand_lt _) (significand_or_level _), ← rank_eq,
      min_eq_left finite.le]
    rfl

/-- A double without a sign, and the same one with a sign. -/
theorem parts_of_lt (finite : rank value < top) (negative : Bool) :
    isNegative (if negative then -value else value) = negative ∧
      magnitude (if negative then -value else value) = rank value := by
  have bound : rank value < 2 ^ 63 := finite.trans (by decide)
  unfold isNegative magnitude
  cases negative with
  | false =>
      rw [if_neg Bool.false_ne_true]
      exact ⟨decide_eq_false (not_le.mpr bound), Nat.mod_eq_of_lt bound⟩
  | true =>
      rw [if_pos rfl, rank_neg finite]
      refine ⟨decide_eq_true (Nat.le_add_right _ _), ?_⟩
      rw [Nat.add_mod_left, Nat.mod_eq_of_lt bound]

end

end LinearProgram.Double
