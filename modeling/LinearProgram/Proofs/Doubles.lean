import Mathlib
import LinearProgram.Scalar

/-!
# Zeros, infinities and NaN

What the operations of a tableau do to the special doubles. A zero of either sign
and NaN are signless: neither below zero nor above it. Sums aside, a signless
operand gives a signless result, whatever the other operand is. No rounding is
opened here, since a rounded result is never NaN.
-/

namespace LinearProgram

namespace Scalar

variable {α : Type} [Scalar α]

def Signless (value : α) : Prop :=
  ¬value < 0 ∧ ¬0 < value

variable (α) in
/-- How the operations of a tableau, and its two comparisons with the tolerance, treat
signless values. -/
class SignLaws : Prop where
  zero : Signless (0 : α)
  neg {value : α} : Signless value → Signless (-value)
  sub {left right : α} : Signless left → Signless right → Signless (left - right)
  mul_left {left : α} (right : α) : Signless left → Signless (left * right)
  mul_right (left : α) {right : α} : Signless right → Signless (left * right)
  div {dividend : α} (divisor : α) : Signless dividend → Signless (dividend / divisor)
  /-- A signless divisor that is not below a positive bound is NaN. -/
  div_unordered (dividend : α) {divisor bound : α} : Signless divisor → 0 < bound →
    ¬divisor ≤ bound → Signless (dividend / divisor)
  /-- A signless value that is below anything is a zero. -/
  neg_le {value bound other : α} : Signless value → 0 < bound → value < other → -bound ≤ value

end Scalar

namespace Double

open Float.Model Float.Model.UnpackedFloat

def unpacked (value : Float) : UnpackedFloat :=
  value.toModel.unpack

/-- A result as the next operation sees it. -/
def repacked (result : UnpackedFloat) : UnpackedFloat :=
  (Float.Model.pack result).unpack

theorem unpacked_zero : unpacked 0 = .zero .positive :=
  rfl

theorem unpacked_neg (value : Float) : unpacked (-value) = repacked (unpacked value).neg :=
  rfl

theorem unpacked_sub (left right : Float) :
    unpacked (left - right) = repacked (.sub .binary64 (unpacked left) (unpacked right)) :=
  rfl

theorem unpacked_mul (left right : Float) :
    unpacked (left * right) = repacked (.mul .binary64 (unpacked left) (unpacked right)) :=
  rfl

theorem unpacked_div (dividend divisor : Float) :
    unpacked (dividend / divisor) =
      repacked (.div .binary64 (unpacked dividend) (unpacked divisor)) :=
  rfl

theorem lt_iff (left right : Float) :
    left < right ↔ (unpacked left).compare (unpacked right) = some .lt := by
  change Float.lt left right = true ↔ _
  rw [Float.lt, decide_eq_true_iff]
  exact beq_iff_eq

theorem le_iff (left right : Float) :
    left ≤ right ↔ ((unpacked left).compare (unpacked right)).any (·.isLE) = true := by
  change Float.le left right = true ↔ _
  rw [Float.le, decide_eq_true_iff]
  rfl

/-! ## Packing keeps the sign -/

/-- A number with that sign, infinities and zeros included. -/
def HasSign (sign : Sign) : UnpackedFloat → Prop
  | .notANumber => False
  | .infinity own => own = sign
  | .zero own => own = sign
  | .finite own _ _ _ => own = sign

theorem unpack_infinity (sign : Sign) :
    UnpackedFloat.unpack .binary64 (packedInfinity .binary64 sign) = .infinity sign := by
  simp [UnpackedFloat.unpack, packedInfinity, unpackMantissa_packComponents,
    unpackExponent_packComponents, unpackSign_packComponents]

theorem unpack_components_sign (sign : Sign) {exponent : BitVec Format.binary64.exponentBits}
    (ordinary : exponent ≠ -BitVec.ofNat Format.binary64.exponentBits 1)
    (mantissa : BitVec Format.binary64.mantissaBitsWithoutImplicit) :
    HasSign sign
      (UnpackedFloat.unpack .binary64 (packComponents .binary64 sign exponent mantissa)) := by
  simp only [UnpackedFloat.unpack, unpackMantissa_packComponents, unpackExponent_packComponents,
    unpackSign_packComponents, Sign.ofBitVec_toBitVec, if_neg ordinary]
  split_ifs <;> rfl

theorem exponent_ordinary {exponent : ℕ}
    (inside : ¬2 ^ Format.binary64.exponentBits ≤ exponent + 1) :
    BitVec.ofNat Format.binary64.exponentBits exponent ≠
      -BitVec.ofNat Format.binary64.exponentBits 1 := by
  intro same
  have values := congrArg BitVec.toNat same
  simp [Format.binary64] at values inside
  omega

theorem repacked_sign {sign : Sign} {value : UnpackedFloat} (signed : HasSign sign value) :
    HasSign sign (repacked value) := by
  cases value with
  | notANumber => exact signed.elim
  | infinity own =>
      change HasSign sign (UnpackedFloat.unpack .binary64 (packedInfinity .binary64 own))
      rw [unpack_infinity]
      exact signed
  | zero own =>
      change HasSign sign (UnpackedFloat.unpack .binary64 (packedZero .binary64 own))
      rw [unpack_packedZero]
      exact signed
  | finite own mantissa exponent positive =>
      obtain rfl : own = sign := signed
      change HasSign own (UnpackedFloat.unpack .binary64 (UnpackedFloat.pack .binary64 _))
      unfold UnpackedFloat.pack
      dsimp only
      split_ifs with overflow normal
      · rw [unpack_infinity]
        rfl
      · exact unpack_components_sign own (exponent_ordinary overflow) _
      · exact unpack_components_sign own (by decide) _

theorem has_sign_or_nan (value : UnpackedFloat) :
    (∃ sign, HasSign sign value) ∨ value = .notANumber := by
  cases value with
  | notANumber => exact .inr rfl
  | infinity sign => exact .inl ⟨sign, rfl⟩
  | zero sign => exact .inl ⟨sign, rfl⟩
  | finite sign => exact .inl ⟨sign, rfl⟩

theorem repacked_nan : repacked .notANumber = .notANumber :=
  rfl

theorem repacked_ne_nan {value : UnpackedFloat} (number : value ≠ .notANumber) :
    repacked value ≠ .notANumber := by
  rcases has_sign_or_nan value with ⟨sign, signed⟩ | isNaN
  · intro packedNaN
    have packed := repacked_sign signed
    rw [packedNaN] at packed
    exact packed
  · exact absurd isNaN number

/-! ## Signless doubles -/

def Signless (value : UnpackedFloat) : Prop :=
  value = .notANumber ∨ ∃ sign, value = .zero sign

theorem signless_iff (value : Float) : Scalar.Signless value ↔ Signless (unpacked value) := by
  change ¬value < 0 ∧ ¬0 < value ↔ _
  rw [lt_iff, lt_iff, unpacked_zero]
  cases unpacked value with
  | notANumber => simp [Signless, UnpackedFloat.compare]
  | infinity sign => cases sign <;> simp [Signless, UnpackedFloat.compare]
  | zero sign => simp [Signless, UnpackedFloat.compare]
  | finite sign => cases sign <;> simp [Signless, UnpackedFloat.compare]

theorem repacked_signless {value : UnpackedFloat} (signless : Signless value) :
    Signless (repacked value) := by
  rcases signless with rfl | ⟨sign, rfl⟩
  · exact .inl rfl
  · exact .inr ⟨sign, unpack_packedZero⟩

theorem neg_signless {value : UnpackedFloat} (signless : Signless value) :
    Signless value.neg := by
  rcases signless with rfl | ⟨sign, rfl⟩
  · exact .inl rfl
  · exact .inr ⟨-sign, rfl⟩

theorem sub_signless {left right : UnpackedFloat} (leftSignless : Signless left)
    (rightSignless : Signless right) : Signless (.sub .binary64 left right) := by
  rcases leftSignless with rfl | ⟨leftSign, rfl⟩
  · exact .inl rfl
  · rcases rightSignless with rfl | ⟨rightSign, rfl⟩
    · exact .inl rfl
    · right
      cases leftSign <;> cases rightSign <;> exact ⟨_, rfl⟩

theorem mul_signless_left {left : UnpackedFloat} (right : UnpackedFloat)
    (signless : Signless left) : Signless (.mul .binary64 left right) := by
  rcases signless with rfl | ⟨sign, rfl⟩
  · exact .inl rfl
  · cases right with
    | notANumber => exact .inl rfl
    | infinity => exact .inl rfl
    | zero => exact .inr ⟨_, rfl⟩
    | finite => exact .inr ⟨_, rfl⟩

theorem mul_signless_right (left : UnpackedFloat) {right : UnpackedFloat}
    (signless : Signless right) : Signless (.mul .binary64 left right) := by
  rcases signless with rfl | ⟨sign, rfl⟩
  · cases left <;> exact .inl rfl
  · cases left with
    | notANumber => exact .inl rfl
    | infinity => exact .inl rfl
    | zero => exact .inr ⟨_, rfl⟩
    | finite => exact .inr ⟨_, rfl⟩

theorem div_signless {dividend : UnpackedFloat} (divisor : UnpackedFloat)
    (signless : Signless dividend) : Signless (.div .binary64 dividend divisor) := by
  rcases signless with rfl | ⟨sign, rfl⟩
  · exact .inl rfl
  · cases divisor with
    | notANumber => exact .inl rfl
    | infinity => exact .inr ⟨_, rfl⟩
    | zero => exact .inl rfl
    | finite => exact .inr ⟨_, rfl⟩

theorem div_nan (dividend : UnpackedFloat) :
    UnpackedFloat.div .binary64 dividend .notANumber = .notANumber := by
  cases dividend <;> rfl

theorem positive_cases {value : Float} (positive : 0 < value) :
    unpacked value = .infinity .positive ∨
      ∃ mantissa exponent inside, unpacked value = .finite .positive mantissa exponent inside := by
  rw [lt_iff, unpacked_zero] at positive
  cases isValue : unpacked value with
  | notANumber => rw [isValue] at positive; cases positive
  | infinity sign =>
      rw [isValue] at positive
      cases sign with
      | positive => exact .inl rfl
      | negative => cases positive
  | zero => rw [isValue] at positive; cases positive
  | finite sign =>
      rw [isValue] at positive
      cases sign with
      | positive => exact .inr ⟨_, _, _, rfl⟩
      | negative => cases positive

theorem zero_le_positive {value bound : Float} {sign : Sign}
    (isZero : unpacked value = .zero sign) (positive : 0 < bound) : value ≤ bound := by
  rw [le_iff, isZero]
  rcases positive_cases positive with isBound | ⟨_, _, _, isBound⟩ <;> rw [isBound] <;> rfl

theorem neg_le_zero {value bound : Float} {sign : Sign}
    (isZero : unpacked value = .zero sign) (positive : 0 < bound) : -bound ≤ value := by
  have negative : HasSign .negative (unpacked (-bound)) := by
    rw [unpacked_neg]
    apply repacked_sign
    rcases positive_cases positive with isBound | ⟨_, _, _, isBound⟩ <;> rw [isBound] <;> rfl
  rw [le_iff, isZero]
  generalize unpacked (-bound) = opposite at negative
  cases opposite with
  | notANumber => exact negative.elim
  | infinity => cases negative; rfl
  | zero => rfl
  | finite => cases negative; rfl

theorem signless_of_repacked {value : Float} {result : UnpackedFloat}
    (packed : unpacked value = repacked result) (signless : Signless result) :
    Scalar.Signless value := by
  rw [signless_iff, packed]
  exact repacked_signless signless

instance : Scalar.SignLaws Float where
  zero := (signless_iff 0).mpr (.inr ⟨.positive, rfl⟩)
  neg := by
    intro value signless
    rw [signless_iff] at signless
    exact signless_of_repacked (unpacked_neg value) (neg_signless signless)
  sub := by
    intro left right leftSignless rightSignless
    rw [signless_iff] at leftSignless rightSignless
    exact signless_of_repacked (unpacked_sub left right) (sub_signless leftSignless rightSignless)
  mul_left := by
    intro left right signless
    rw [signless_iff] at signless
    exact signless_of_repacked (unpacked_mul left right) (mul_signless_left _ signless)
  mul_right := by
    intro left right signless
    rw [signless_iff] at signless
    exact signless_of_repacked (unpacked_mul left right) (mul_signless_right _ signless)
  div := by
    intro dividend divisor signless
    rw [signless_iff] at signless
    exact signless_of_repacked (unpacked_div dividend divisor) (div_signless _ signless)
  div_unordered := by
    intro dividend divisor bound signless positive above
    rcases (signless_iff divisor).mp signless with isNaN | ⟨sign, isZero⟩
    · apply signless_of_repacked (unpacked_div dividend divisor)
      left
      rw [isNaN]
      exact div_nan _
    · exact absurd (zero_le_positive isZero positive) above
  neg_le := by
    intro value bound other signless positive below
    rcases (signless_iff value).mp signless with isNaN | ⟨sign, isZero⟩
    · have compared := (lt_iff value other).mp below
      rw [isNaN] at compared
      cases compared
    · exact neg_le_zero isZero positive

/-! ## Results that are numbers -/

theorem is_nan_iff (value : Float) : value.isNaN = true ↔ unpacked value = .notANumber :=
  isNaN_iff

theorem finite_cases {value : Float} (finite : value.isFinite = true) :
    (∃ sign, unpacked value = .zero sign) ∨
      ∃ sign mantissa exponent inside,
        unpacked value = .finite sign mantissa exponent inside := by
  change (unpacked value).isFinite = true at finite
  cases isValue : unpacked value with
  | notANumber => rw [isValue] at finite; cases finite
  | infinity => rw [isValue] at finite; cases finite
  | zero => exact .inl ⟨_, rfl⟩
  | finite => exact .inr ⟨_, _, _, _, rfl⟩

theorem round_ne_nan (sign : Sign) (mantissa : ℕ) (exponent : ℤ) (accuracy : Accuracy) :
    roundWithAccuracy .binary64 sign mantissa exponent accuracy ≠ .notANumber := by
  unfold roundWithAccuracy
  dsimp only
  split_ifs <;> simp

theorem normalize_ne_nan (mantissa exponent : ℤ) (zeroSign : Sign) :
    UnpackedFloat.normalize .binary64 mantissa exponent zeroSign ≠ .notANumber := by
  unfold UnpackedFloat.normalize UnpackedFloat.round
  split
  · exact round_ne_nan _ _ _ _
  · simp
  · exact round_ne_nan _ _ _ _

theorem mul_ne_nan {left right : Float} (leftFinite : left.isFinite = true)
    (rightFinite : right.isFinite = true) : unpacked (left * right) ≠ .notANumber := by
  rw [unpacked_mul]
  apply repacked_ne_nan
  rcases finite_cases leftFinite with ⟨_, isLeft⟩ | ⟨_, _, _, _, isLeft⟩ <;>
    rcases finite_cases rightFinite with ⟨_, isRight⟩ | ⟨_, _, _, _, isRight⟩ <;>
    rw [isLeft, isRight]
  · simp [UnpackedFloat.mul]
  · simp [UnpackedFloat.mul]
  · simp [UnpackedFloat.mul]
  · exact round_ne_nan _ _ _ _

theorem sub_ne_nan {left right : Float} (leftFinite : left.isFinite = true)
    (number : unpacked right ≠ .notANumber) : unpacked (left - right) ≠ .notANumber := by
  rw [unpacked_sub]
  apply repacked_ne_nan
  generalize unpacked right = subtracted at number
  rcases finite_cases leftFinite with ⟨sign, isLeft⟩ | ⟨_, _, _, _, isLeft⟩ <;> rw [isLeft]
  · cases subtracted with
    | notANumber => exact absurd rfl number
    | infinity => simp [UnpackedFloat.sub]
    | zero own =>
        simp only [UnpackedFloat.sub]
        split_ifs <;> simp
    | finite => simp [UnpackedFloat.sub]
  · cases subtracted with
    | notANumber => exact absurd rfl number
    | infinity => simp [UnpackedFloat.sub]
    | zero => simp [UnpackedFloat.sub]
    | finite => exact normalize_ne_nan _ _ _

theorem zero_mul_nan {right : Float} (unbounded : right.isFinite = false) :
    unpacked (0 * right) = .notANumber := by
  have product : UnpackedFloat.mul .binary64 (.zero .positive) (unpacked right) = .notANumber := by
    change (unpacked right).isFinite = false at unbounded
    cases isRight : unpacked right with
    | notANumber => rfl
    | infinity => rfl
    | zero => rw [isRight] at unbounded; cases unbounded
    | finite => rw [isRight] at unbounded; cases unbounded
  rw [unpacked_mul, unpacked_zero, product, repacked_nan]

theorem sub_nan (left : Float) {right : Float} (isNaN : unpacked right = .notANumber) :
    unpacked (left - right) = .notANumber := by
  have difference : UnpackedFloat.sub .binary64 (unpacked left) .notANumber = .notANumber := by
    cases unpacked left <;> rfl
  rw [unpacked_sub, isNaN, difference, repacked_nan]

theorem le_zero_of_not_pos {value : Float} (number : unpacked value ≠ .notANumber)
    (notPositive : ¬0 < value) : value ≤ 0 := by
  rw [lt_iff, unpacked_zero] at notPositive
  rw [le_iff, unpacked_zero]
  generalize unpacked value = own at number notPositive
  cases own with
  | notANumber => exact absurd rfl number
  | infinity sign =>
      cases sign with
      | positive => exact absurd rfl notPositive
      | negative => rfl
  | zero => rfl
  | finite sign =>
      cases sign with
      | positive => exact absurd rfl notPositive
      | negative => rfl

end Double

end LinearProgram
