import LinearProgram.Decimal.Literal
import LinearProgram.Proofs.Document.NumberText
import LinearProgram.Proofs.Rounding.Order

/-!
# Fixed places

A text with a fixed number of decimal places stands for the multiple of the last place that
is nearest to the exact value of the double, an even one at an exact half. The text has the
sign of the double, also where it stands for zero.
-/

namespace LinearProgram.Decimal

open Double Document

/-! ## The nearest whole number -/

/-- No other whole number is as near, unless this one is even and the other is not nearer. -/
def IsNearestEven (number : ℚ) (result : ℤ) : Prop :=
  ∀ other : ℤ, other ≠ result → |number - result| < |number - other| ∨
    |number - result| = |number - other| ∧ Even result

section

variable {number further : ℚ} {result other : ℤ}

theorem nearer_low_iff {low high : ℚ} (less : low < high) :
    |number - low| < |number - high| ↔ 2 * number < low + high := by
  have factors : (number - high) ^ 2 - (number - low) ^ 2 =
      (high - low) * (low + high - 2 * number) := by ring
  rw [← sq_lt_sq, ← sub_pos, factors, mul_pos_iff_of_pos_left (sub_pos.mpr less), sub_pos]

theorem nearer_high_iff {low high : ℚ} (less : low < high) :
    |number - high| < |number - low| ↔ low + high < 2 * number := by
  have factors : (number - low) ^ 2 - (number - high) ^ 2 =
      (high - low) * (2 * number - (low + high)) := by ring
  rw [← sq_lt_sq, ← sub_pos, factors, mul_pos_iff_of_pos_left (sub_pos.mpr less), sub_pos]

theorem as_near_iff {low high : ℚ} (less : low < high) :
    |number - low| = |number - high| ↔ 2 * number = low + high := by
  rw [le_antisymm_iff, ← not_lt, ← not_lt, nearer_high_iff less, nearer_low_iff less, not_lt,
    not_lt, ← le_antisymm_iff]

/-- It is enough to compare with the two neighbours. -/
theorem is_nearest_even_iff : IsNearestEven number result ↔
    2 * number ≤ 2 * result + 1 ∧ 2 * (result : ℚ) ≤ 2 * number + 1 ∧
      (2 * number = 2 * result + 1 ∨ 2 * (result : ℚ) = 2 * number + 1 → Even result) := by
  constructor
  · intro nearest
    have above := nearest (result + 1) (by omega)
    have below := nearest (result - 1) (by omega)
    push_cast at above below
    rw [nearer_low_iff (by linarith), as_near_iff (by linarith)] at above
    rw [nearer_high_iff (by linarith), eq_comm, as_near_iff (by linarith)] at below
    refine ⟨?_, ?_, ?_⟩
    · rcases above with less | ⟨same, _⟩ <;> linarith
    · rcases below with more | ⟨same, _⟩ <;> linarith
    · rintro (isTie | isTie)
      · exact above.elim (fun less => by linarith) And.right
      · exact below.elim (fun more => by linarith) And.right
  · rintro ⟨above, below, tie⟩ other further
    rcases lt_or_gt_of_ne further with less | more
    · have far : (other : ℚ) ≤ result - 1 := by exact_mod_cast Int.le_sub_one_of_lt less
      rw [nearer_high_iff (by linarith), eq_comm, as_near_iff (by linarith)]
      rcases lt_or_ge ((other : ℚ) + result) (2 * number) with inside | isTie
      · exact .inl inside
      · exact .inr ⟨by linarith, tie (.inr (by linarith))⟩
    · have far : (result : ℚ) + 1 ≤ other := by exact_mod_cast Int.add_one_le_of_lt more
      rw [nearer_low_iff (by linarith), as_near_iff (by linarith)]
      rcases lt_or_ge (2 * number) ((result : ℚ) + other) with inside | isTie
      · exact .inl inside
      · exact .inr ⟨by linarith, tie (.inl (by linarith))⟩

namespace IsNearestEven

theorem signed (nearest : IsNearestEven number result) (negative : Bool) :
    IsNearestEven (signed negative number) (if negative then -result else result) := by
  cases negative with
  | false => exact nearest
  | true =>
      rw [is_nearest_even_iff] at nearest ⊢
      simp only [Double.signed, if_true, Int.cast_neg, even_neg]
      obtain ⟨above, below, tie⟩ := nearest
      refine ⟨by linarith, by linarith, ?_⟩
      rintro (isTie | isTie)
      · exact tie (.inr (by linarith))
      · exact tie (.inl (by linarith))

theorem mono (nearest : IsNearestEven number result) (nearest' : IsNearestEven further other)
    (le : number ≤ further) : result ≤ other := by
  obtain ⟨_, below, tie⟩ := is_nearest_even_iff.mp nearest
  obtain ⟨above, _, tie'⟩ := is_nearest_even_iff.mp nearest'
  by_contra beyond
  have step : (other : ℚ) + 1 ≤ result := by exact_mod_cast Int.add_one_le_of_lt (not_le.mp beyond)
  -- Both numbers lie halfway between two neighbours, of which only one is even.
  have even := tie (.inr (by linarith))
  have even' := tie' (.inl (by linarith))
  have next : result = other + 1 := by
    have : (result : ℚ) ≤ other + 1 := by linarith
    have : result ≤ other + 1 := by exact_mod_cast this
    omega
  rw [next] at even
  exact Int.not_even_iff_odd.mpr even'.add_one even

theorem error (nearest : IsNearestEven number result) : |(result : ℚ) - number| ≤ 1 / 2 := by
  obtain ⟨above, below, _⟩ := is_nearest_even_iff.mp nearest
  rw [abs_le]
  constructor <;> linarith

end IsNearestEven

end

/-! ## Rounding a quotient -/

theorem round_div_nearest (num : ℕ) {den : ℕ} (positive : 0 < den) :
    NearestQuotient num den (roundDiv .toEven num den) := by
  have small := Nat.mod_lt num positive
  have split := Nat.div_add_mod num den
  have here : num / den * den = den * (num / den) := by ring
  have up : (num / den + 1) * den = den * (num / den) + den := by ring
  have middle : (2 * (num / den) + 1) * den = 2 * (den * (num / den)) + den := by ring
  unfold roundDiv nearerAbove Tie.goesUp
  simp only [middle]
  split_ifs with isTie odd more
  · rw [beq_iff_eq] at odd
    exact ⟨by omega, by omega, fun _ => Nat.even_iff.mpr (by omega)⟩
  · rw [beq_iff_eq] at odd
    exact ⟨by omega, by omega, fun _ => Nat.even_iff.mpr (by omega)⟩
  · rw [decide_eq_true_iff] at more
    exact ⟨by omega, by omega, by omega⟩
  · rw [decide_eq_true_iff] at more
    exact ⟨by omega, by omega, by omega⟩

theorem round_div_even (num : ℕ) {den : ℕ} (positive : 0 < den) :
    IsNearestEven (num / den : ℚ) (roundDiv .toEven num den) := by
  obtain ⟨above, below, tie⟩ := nearest_quotient_half (round_div_nearest num positive) positive
  rw [is_nearest_even_iff, Int.even_coe_nat, Int.cast_natCast]
  exact ⟨above, below, tie⟩

/-! ## The units of a double -/

/-- The magnitude of a double in units of its last place, rounded. -/
def unitsOf (places : ℕ) (value : Float) : ℕ :=
  let (num, den) := scale ((levelAt (magnitude value) : ℤ) - 1074) 0
  roundDiv .toEven (significandAt (magnitude value) * num * 10 ^ places) den

theorem units_of_even (places : ℕ) (value : Float) :
    IsNearestEven (valueAt (magnitude value) * 10 ^ places) (unitsOf places value) := by
  have rounded := round_div_even
    (significandAt (magnitude value) * (scale ((levelAt (magnitude value) : ℤ) - 1074) 0).1 *
      10 ^ places) (scale_pos ((levelAt (magnitude value) : ℤ) - 1074) 0).2
  have quotient := scale_value ((levelAt (magnitude value) : ℤ) - 1074) 0
  rw [zpow_zero, div_one] at quotient
  have same : valueAt (magnitude value) * 10 ^ places =
      ((significandAt (magnitude value) * (scale ((levelAt (magnitude value) : ℤ) - 1074) 0).1 *
        10 ^ places : ℕ) : ℚ) / (scale ((levelAt (magnitude value) : ℤ) - 1074) 0).2 := by
    rw [value_eq, ← quotient]
    push_cast
    ring
  rw [same]
  exact rounded

/-! ## The text -/

/-- The digits after the point. -/
def placeDigits (places units : ℕ) : List Char :=
  let fraction := Nat.toDigits 10 (units % 10 ^ places)
  List.replicate (places - fraction.length) '0' ++ fraction

def layFixed (places units : ℕ) : List Char :=
  Nat.toDigits 10 (units / 10 ^ places) ++ '.' :: placeDigits places units

/-- A minus for a negative number, digits without a needless zero in front, a point, and as
many digits as there are places. -/
inductive FixedForm (places : ℕ) (negative : Bool) : List Char → Prop
  | mk {whole fraction : List Char} (isWhole : WholeForm whole)
      (isFraction : ∀ digit ∈ fraction, digit.isDigit = true) (count : fraction.length = places) :
      FixedForm places negative (Style.sign negative ++ (whole ++ '.' :: fraction))

/-- The number that a decimal text spells, if it does. -/
def number? (text : List Char) : Option ℚ :=
  let (negative, rest) := spanSign text
  (Literal.decimal? rest).map fun decimal => signed negative decimal.value

section

variable {places : ℕ} {negative : Bool}

theorem fixed_text_eq {value : Float} (finite : magnitude value < top) (places : ℕ) :
    (fixedText places value).toList =
      Style.sign (isNegative value) ++ layFixed places (unitsOf places value) := by
  rw [fixedText, of_float_finite finite]
  exact String.toList_ofList.trans (List.append_assoc _ _ _)

theorem whole_to_digits (number : ℕ) : WholeForm (Nat.toDigits 10 number) := by
  refine ⟨digits_to_digits number, fun zero => ?_⟩
  rcases Nat.eq_zero_or_pos number with rfl | positive
  · rfl
  · exact absurd zero (to_digits_head positive)

theorem place_digits_digits (places units : ℕ) :
    ∀ digit ∈ placeDigits places units, digit.isDigit = true := fun digit member =>
  (List.mem_append.mp member).elim (zeros_digits _ digit) ((digits_to_digits _).2 digit)

/-- The part below one fits its places. -/
theorem fraction_length (positive : 0 < places) (units : ℕ) :
    (Nat.toDigits 10 (units % 10 ^ places)).length ≤ places :=
  (Nat.length_toDigits_le_iff (by decide) positive).mpr (Nat.mod_lt _ (by positivity))

theorem place_digits_length (positive : 0 < places) (units : ℕ) :
    (placeDigits places units).length = places := by
  rw [placeDigits, List.length_append, List.length_replicate]
  exact Nat.sub_add_cancel (fraction_length positive units)

theorem place_digits_value (positive : 0 < places) (start units : ℕ) :
    digitsValue start (placeDigits places units) = start * 10 ^ places + units % 10 ^ places := by
  rw [placeDigits, digits_value_append, digits_value_zeros, digits_value_start,
    digits_value_to_digits, mul_assoc, ← pow_add, Nat.sub_add_cancel (fraction_length positive units)]

theorem lay_fixed_form (positive : 0 < places) (negative : Bool) (units : ℕ) :
    FixedForm places negative (Style.sign negative ++ layFixed places units) :=
  .mk (whole_to_digits _) (place_digits_digits places units) (place_digits_length positive units)

theorem number_parts {whole fraction : List Char} (isWhole : Digits whole)
    (isFraction : ∀ digit ∈ fraction, digit.isDigit = true) :
    number? (Style.sign negative ++ (whole ++ '.' :: fraction)) =
      some (signed negative
        (digitsValue (digitsValue 0 whole) fraction / 10 ^ fraction.length)) := by
  have isSign := span_sign_append ((sign_cases negative).imp_right .inr) isWhole ('.' :: fraction)
  have point : NoDigit ('.' :: fraction) := by
    rintro _ ⟨⟩
    rfl
  have wholeSpan := span_digits_append isWhole.2 point
  have fractionSpan := span_digits_append isFraction ends_nil.1
  have decimal : Literal.decimal? (whole ++ '.' :: fraction) =
      some ⟨digitsValue (digitsValue 0 whole) fraction, 0 - fraction.length⟩ := by
    rw [List.append_nil] at fractionSpan
    simp [Literal.decimal?, wholeSpan, fractionSpan, Literal.exponent?, isWhole.1]
  rw [number?, isSign, sign_beq]
  simp only [decimal, Option.map_some, Scientific.value]
  rw [zero_sub, zpow_neg, zpow_natCast, ← div_eq_mul_inv]

theorem lay_fixed_number (positive : 0 < places) (negative : Bool) (units : ℕ) :
    number? (Style.sign negative ++ layFixed places units) =
      some (signed negative (units / 10 ^ places)) := by
  rw [layFixed, number_parts (digits_to_digits _) (place_digits_digits places units),
    place_digits_value positive, place_digits_length positive, digits_value_to_digits, mul_comm,
    Nat.div_add_mod]

end

/-! ## Correct rounding -/

/-- A text has the form of a number with that many places and the sign of a double, and spells
the multiple of its last place nearest to the exact value of the double. -/
structure Rounds (places : ℕ) (value : Float) (text : List Char) : Prop where
  form : FixedForm places (isNegative value) text
  nearest : ∃ units : ℤ, number? text = some (units / 10 ^ places : ℚ) ∧
    IsNearestEven (exactValue value * 10 ^ places) units

namespace Rounds

variable {places : ℕ} {value other : Float} {text further : List Char}

theorem of_fixed_text (positive : 0 < places) (finite : magnitude value < top) :
    Rounds places value (fixedText places value).toList := by
  have nearest := units_of_even places value
  have number := lay_fixed_number positive (isNegative value) (unitsOf places value)
  rw [fixed_text_eq finite]
  refine ⟨lay_fixed_form positive _ _,
    if isNegative value then -(unitsOf places value) else unitsOf places value, ?_, ?_⟩
  · rw [number]
    cases isNegative value with
    | false => rfl
    | true => simp [signed, neg_div]
  · rw [exact_value_eq finite]
    cases isNegative value with
    | false => exact nearest
    | true => simpa [Double.signed] using nearest.signed true

theorem error (rounds : Rounds places value text) : ∃ number, number? text = some number ∧
    |number - exactValue value| ≤ 1 / (2 * 10 ^ places) := by
  obtain ⟨units, isNumber, nearest⟩ := rounds.nearest
  refine ⟨_, isNumber, ?_⟩
  have scale : (0 : ℚ) < 10 ^ places := by positivity
  have difference : (units / 10 ^ places : ℚ) - exactValue value =
      (units - exactValue value * 10 ^ places) / 10 ^ places := by
    field_simp
  rw [difference, abs_div, abs_of_pos scale, ← div_div]
  exact div_le_div_of_nonneg_right nearest.error scale.le

theorem mono (rounds : Rounds places value text) (rounds' : Rounds places other further)
    (le : exactValue value ≤ exactValue other) : ∃ number number', number? text = some number ∧
      number? further = some number' ∧ number ≤ number' := by
  obtain ⟨units, isNumber, nearest⟩ := rounds.nearest
  obtain ⟨units', isNumber', nearest'⟩ := rounds'.nearest
  have scale : (0 : ℚ) < 10 ^ places := by positivity
  have ordered := nearest.mono nearest' (mul_le_mul_of_nonneg_right le scale.le)
  exact ⟨_, _, isNumber, isNumber', div_le_div_of_nonneg_right (by exact_mod_cast ordered) scale.le⟩

end Rounds

end LinearProgram.Decimal
