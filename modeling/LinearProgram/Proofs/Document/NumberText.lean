import LinearProgram.Document.Value
import LinearProgram.Proofs.Decimal.Shortest
import LinearProgram.Proofs.Document.Scanning

/-!
# Number texts that were written

Every layout of a shortest decimal is a number text with a point or an exponent. Its
digits fit a significand, and together with the exponent they are the decimal again.
-/

namespace LinearProgram.Document

open Decimal

/-! ## Digits and their value -/

theorem digits_value_append (start : ℕ) (digits further : List Char) :
    digitsValue start (digits ++ further) = digitsValue (digitsValue start digits) further :=
  List.foldl_append

theorem digits_value_to_digits (number : ℕ) : digitsValue 0 (Nat.toDigits 10 number) = number := by
  have same : digitsValue 0 (Nat.toDigits 10 number) =
      Nat.ofDigitChars 10 (Nat.toDigits 10 number) 0 := by
    unfold digitsValue Nat.ofDigitChars
    congr
    funext value digit
    rw [mul_comm]
    rfl
  rw [same, Nat.ofDigitChars_ten_toDigits]

theorem digits_value_zeros (start count : ℕ) :
    digitsValue start (List.replicate count '0') = start * 10 ^ count := by
  induction count generalizing start with
  | zero => simp [digitsValue]
  | succ count induction =>
      have next : digitsValue start (List.replicate (count + 1) '0') =
          digitsValue (start * 10) (List.replicate count '0') := rfl
      rw [next, induction, pow_succ]
      ring

theorem digits_value_start (start : ℕ) (digits : List Char) :
    digitsValue start digits = start * 10 ^ digits.length + digitsValue 0 digits := by
  induction digits generalizing start with
  | nil => simp [digitsValue]
  | cons digit digits induction =>
      have step (first : ℕ) : digitsValue first (digit :: digits) =
          digitsValue (first * 10 + digitValue digit) digits := rfl
      rw [step, step, induction, induction (0 * 10 + digitValue digit), List.length_cons, pow_succ]
      ring

theorem le_digits_value (start : ℕ) (digits : List Char) : start ≤ digitsValue start digits := by
  induction digits generalizing start with
  | nil => exact le_rfl
  | cons digit digits induction =>
      have next := induction (start * 10 + digitValue digit)
      exact (by omega : start ≤ start * 10 + digitValue digit).trans next

/-- Nothing is left over of digits whose number fits. -/
theorem fill_fits {start : ℕ} {digits : List Char} (fits : digitsValue start digits < wordCount) :
    fill start digits = (digitsValue start digits, []) := by
  induction digits generalizing start with
  | nil => rfl
  | cons digit digits induction =>
      have fits' : digitsValue (start * 10 + digitValue digit) digits < wordCount := fits
      rw [fill, if_pos ((le_digits_value _ digits).trans_lt fits')]
      exact induction fits'

theorem digits_to_digits (number : ℕ) : Digits (Nat.toDigits 10 number) :=
  ⟨Nat.toDigits_ne_nil, fun _ => Nat.isDigit_of_mem_toDigits (by decide) (by decide)⟩

theorem to_digits_head {number : ℕ} (positive : 0 < number) :
    (Nat.toDigits 10 number).head? ≠ some '0' := by
  induction number using Nat.strong_induction_on with
  | _ number induction =>
      rcases lt_or_ge number 10 with single | more
      · interval_cases number <;> decide
      · have before := induction (number / 10) (by omega) (by omega)
        rw [Nat.toDigits_of_base_le (by decide) more,
          List.head?_append_of_ne_nil _ Nat.toDigits_ne_nil]
        exact before

theorem digits_append {digits further : List Char} (first : Digits digits)
    (second : ∀ digit ∈ further, digit.isDigit = true) : Digits (digits ++ further) :=
  ⟨by simp [first.1], fun digit member =>
    (List.mem_append.mp member).elim (first.2 digit) (second digit)⟩

theorem zeros_digits (count : ℕ) : ∀ digit ∈ List.replicate count '0', digit.isDigit = true := by
  intro digit member
  rw [List.eq_of_mem_replicate member]
  rfl

/-! ## From the parts to the number -/

/-- An unsigned number text with a point or an exponent, and what its digits amount to. -/
structure Spelled (text : List Char) (significand : ℕ) (exponent : ℤ) : Prop where
  form (negative : Bool) : NumberForm (Style.sign negative ++ text)
  read (negative : Bool) : readNumber (Style.sign negative ++ text) =
    (scaled significand exponent).map fun value =>
      (.fraction (if negative then -value else value), [])

theorem sign_cases (negative : Bool) : Style.sign negative = [] ∨ Style.sign negative = ['-'] := by
  cases negative
  · exact .inl rfl
  · exact .inr rfl

theorem sign_beq (negative : Bool) : (Style.sign negative == ['-']) = negative := by
  cases negative <;> rfl

section

variable {whole fraction : List Char}

theorem gather_fits {negative : Bool} {written : Option (Bool × List Char)}
    (fits : digitsValue (digitsValue 0 whole) fraction < wordCount) :
    (NumberText.mk negative whole fraction written).gather =
      (digitsValue (digitsValue 0 whole) fraction, -(fraction.length : ℤ), false) := by
  have first := fill_fits ((le_digits_value _ fraction).trans_lt fits)
  have second := fill_fits fits
  simp [NumberText.gather, first, second]

theorem read_of_magnitude {text : List Char} {parts : NumberText} {significand : ℕ} {exponent : ℤ}
    (scanned : scanNumber text = .ok (parts, [])) (marked : parts.isInteger = false)
    (magnitude : parts.magnitude = scaled significand exponent) :
    readNumber text = (scaled significand exponent).map fun value =>
      (.fraction (if parts.negative then -value else value), []) := by
  simp only [readNumber, scanned, NumberText.number, marked, Bool.false_eq_true, if_false,
    magnitude]
  cases scaled significand exponent <;> rfl

variable {significand : ℕ} {exponent : ℤ}

/-- A text with a point and no exponent. -/
theorem spelled_fraction (isWhole : WholeForm whole) (run : Digits fraction)
    (value : digitsValue (digitsValue 0 whole) fraction = significand)
    (places : -(fraction.length : ℤ) = exponent) (fits : significand < wordCount) :
    Spelled (whole ++ '.' :: fraction) significand exponent := by
  subst value places
  constructor
  · intro negative
    have form := NumberForm.mk (sign_cases negative) isWhole (.present run) .absent
    rwa [List.append_nil] at form
  · intro negative
    have scanned := scan_number_parts (sign_cases negative) isWhole (.present run) .absent ends_nil
      (show scanExponent ([] ++ []) = .ok (none, []) from rfl)
    rw [List.append_nil, List.append_nil, sign_beq] at scanned
    refine read_of_magnitude scanned ?_ ?_
    · simp [NumberText.isInteger, run.1]
    · simp [NumberText.magnitude, gather_fits fits]

/-- A text with an exponent. -/
theorem spelled_exponent {fraction sign : List Char} {written : ℕ} (isWhole : WholeForm whole)
    (isFraction : FractionForm fraction) (isSign : sign = [] ∨ sign = ['+'] ∨ sign = ['-'])
    (small : written ≤ greatestExponent)
    (value : digitsValue (digitsValue 0 whole) (fraction.drop 1) = significand)
    (places : -((fraction.drop 1).length : ℤ) + (if sign = ['-'] then -(written : ℤ) else written) =
      exponent) (fits : significand < wordCount) :
    Spelled (whole ++ (fraction ++ 'e' :: (sign ++ Nat.toDigits 10 written))) significand
      exponent := by
  subst value places
  have run := digits_to_digits written
  constructor
  · intro negative
    exact .mk (sign_cases negative) isWhole isFraction (.present (.inl rfl) isSign run)
  · intro negative
    have isScanned := scan_exponent_present (.inl rfl) isSign run ends_nil.1
    have scanned := scan_number_parts (sign_cases negative) isWhole isFraction
      (.present (.inl rfl) isSign run) ends_nil isScanned
    rw [List.append_nil, sign_beq] at scanned
    refine read_of_magnitude scanned ?_ ?_
    · simp [NumberText.isInteger]
    · simp only [NumberText.magnitude, gather_fits fits, digits_value_to_digits,
        if_neg (not_lt.mpr small), beq_iff_eq]
      split_ifs <;> rfl

end

/-! ## Layouts of a decimal -/

/-- What the reader gathers of a decimal that was written: a whole number carries the zero
after its point along. -/
def gathered (decimal : Scientific) : ℕ × ℤ :=
  if numberStyle.isPositional decimal.leadingExponent ∧ 0 ≤ decimal.exponent then
    (decimal.coefficient * 10 ^ (decimal.exponent.toNat + 1), -1)
  else (decimal.coefficient, decimal.exponent)

section

variable {decimal : Scientific}

theorem digits_run (decimal : Scientific) : Digits decimal.digits :=
  digits_to_digits _

theorem digits_value (decimal : Scientific) : digitsValue 0 decimal.digits = decimal.coefficient :=
  digits_value_to_digits _

theorem digits_length (short : decimal.coefficient ≤ 10 ^ 17) : decimal.digits.length ≤ 18 :=
  (Nat.length_toDigits_le_iff (by decide) (by decide)).mpr (short.trans_lt (by decide))

theorem whole_of_digits {further : List Char} (positive : 0 < decimal.coefficient)
    (digits : ∀ digit ∈ further, digit.isDigit = true) : WholeForm (decimal.digits ++ further) := by
  refine ⟨digits_append (digits_run decimal) digits, fun zero => ?_⟩
  rw [List.head?_append_of_ne_nil _ (digits_run decimal).1] at zero
  exact absurd zero (to_digits_head positive)

theorem whole_of_take {count : ℕ} (positive : 0 < decimal.coefficient) (some : 0 < count) :
    WholeForm (decimal.digits.take count) := by
  have run := digits_run decimal
  have head : (decimal.digits.take count).head? = decimal.digits.head? := by
    rw [List.head?_take, if_neg some.ne']
  refine ⟨⟨?_, fun digit member => run.2 digit (List.mem_of_mem_take member)⟩, fun zero => ?_⟩
  · intro none
    rw [none] at head
    exact run.1 (List.head?_eq_none_iff.mp head.symm)
  · rw [head] at zero
    exact absurd zero (to_digits_head positive)

theorem split_value (decimal : Scientific) (count : ℕ) :
    digitsValue (digitsValue 0 (decimal.digits.take count)) (decimal.digits.drop count) =
      decimal.coefficient := by
  rw [← digits_value_append, List.take_append_drop, digits_value]

/-- A whole number, with a zero after the point. -/
theorem lay_whole (positive : 0 < decimal.coefficient) (whole : 0 ≤ decimal.exponent)
    (fits : decimal.coefficient * 10 ^ (decimal.exponent.toNat + 1) < wordCount) :
    Spelled (numberStyle.layPositional decimal)
      (decimal.coefficient * 10 ^ (decimal.exponent.toNat + 1)) (-1) := by
  have value : digitsValue (digitsValue 0 (decimal.digits ++
      List.replicate decimal.exponent.toNat '0')) ['0'] =
        decimal.coefficient * 10 ^ (decimal.exponent.toNat + 1) := by
    rw [← digits_value_append, List.append_assoc, ← List.replicate_succ', digits_value_append,
      digits_value_zeros, digits_value]
  have spelled := spelled_fraction (whole_of_digits positive (zeros_digits decimal.exponent.toNat))
    ⟨List.cons_ne_nil _ _, zeros_digits 1⟩ value rfl fits
  simpa [Style.layPositional, if_pos whole, numberStyle] using spelled

/-- Places after the point, as many as the exponent says. -/
theorem lay_point (positive : 0 < decimal.coefficient) (short : decimal.coefficient ≤ 10 ^ 17)
    (broken : decimal.exponent < 0) :
    Spelled (numberStyle.layPositional decimal) decimal.coefficient decimal.exponent := by
  have fits : decimal.coefficient < wordCount := short.trans_lt (by decide)
  have run := digits_run decimal
  rw [Style.layPositional, if_neg (not_le.mpr broken)]
  simp only
  split_ifs with inside
  · refine spelled_fraction (whole_of_take positive (Nat.sub_pos_of_lt inside)) ⟨?_, ?_⟩
      (split_value decimal _) ?_ fits
    · rw [Ne, List.drop_eq_nil_iff]
      omega
    · exact fun digit member => run.2 digit (List.mem_of_mem_drop member)
    · rw [List.length_drop]
      omega
  · refine @spelled_fraction ['0'] _ _ _ ⟨⟨List.cons_ne_nil _ _, zeros_digits 1⟩, fun _ => rfl⟩
      ⟨by simp [run.1], ?_⟩ ?_ ?_ fits
    · exact fun digit member => (List.mem_append.mp member).elim (zeros_digits _ digit)
        (run.2 digit)
    · rw [digits_value_append, digits_value_zeros, show digitsValue 0 ['0'] = 0 from rfl, zero_mul,
        digits_value]
    · rw [List.length_append, List.length_replicate]
      omega

/-- The sign of an exponent, which is always written. -/
def exponentSign (leading : ℤ) : List Char :=
  if leading < 0 then ['-'] else ['+']

theorem exponent_sign_cases (leading : ℤ) :
    exponentSign leading = [] ∨ exponentSign leading = ['+'] ∨ exponentSign leading = ['-'] := by
  unfold exponentSign
  split_ifs
  · exact .inr (.inr rfl)
  · exact .inr (.inl rfl)

theorem exponent_sign_value (leading : ℤ) :
    (if exponentSign leading = ['-'] then -(leading.natAbs : ℤ) else leading.natAbs) = leading := by
  unfold exponentSign
  split_ifs with negative same same
  · omega
  · exact absurd rfl same
  · cases same
  · omega

/-- The digits after the first, behind a point if there are any. -/
def fractionOf (digits : List Char) : List Char :=
  if (digits.drop 1).isEmpty then [] else '.' :: digits.drop 1

theorem fraction_of_form {digits : List Char} (run : Digits digits) :
    FractionForm (fractionOf digits) := by
  unfold fractionOf
  split_ifs with single
  · exact .absent
  · exact .present ⟨by simpa using single,
      fun digit member => run.2 digit (List.mem_of_mem_drop member)⟩

theorem fraction_of_drop (digits : List Char) : (fractionOf digits).drop 1 = digits.drop 1 := by
  unfold fractionOf
  split_ifs with single
  · exact (List.isEmpty_iff.mp single).symm
  · rfl

/-- One digit before the point, and an exponent. -/
theorem lay_exponent (positive : 0 < decimal.coefficient) (short : decimal.coefficient ≤ 10 ^ 17)
    (lower : -324 ≤ decimal.exponent) (upper : decimal.exponent ≤ 308) :
    Spelled (numberStyle.layScientific decimal) decimal.coefficient decimal.exponent := by
  have run := digits_run decimal
  have few := digits_length short
  have some := List.length_pos_iff.mpr run.1
  have small : decimal.leadingExponent.natAbs ≤ greatestExponent := by
    unfold Scientific.leadingExponent greatestExponent
    omega
  have places : -(((fractionOf decimal.digits).drop 1).length : ℤ) +
      (if exponentSign decimal.leadingExponent = ['-'] then -(decimal.leadingExponent.natAbs : ℤ)
        else decimal.leadingExponent.natAbs) = decimal.exponent := by
    rw [fraction_of_drop, exponent_sign_value, List.length_drop, Scientific.leadingExponent]
    ring
  have spelled := spelled_exponent (whole_of_take positive one_pos) (fraction_of_form run)
    (exponent_sign_cases _) small
    (by rw [fraction_of_drop, split_value]) places (short.trans_lt (by decide))
  simpa [Style.layScientific, numberStyle, fractionOf, exponentSign] using spelled

/-- What is gathered fits a significand and stands for the same number. -/
structure Gathers (decimal : Scientific) : Prop where
  spelled : Spelled (numberStyle.lay decimal) (gathered decimal).1 (gathered decimal).2
  positive : 0 < (gathered decimal).1
  small : (gathered decimal).1 < 2 ^ 64
  lower : -324 ≤ (gathered decimal).2
  upper : (gathered decimal).2 ≤ 308
  value : ((gathered decimal).1 * 10 ^ (gathered decimal).2 : ℚ) = decimal.value

theorem gathers_whole (positive : 0 < decimal.coefficient)
    (positional : numberStyle.isPositional decimal.leadingExponent = true)
    (whole : 0 ≤ decimal.exponent) : Gathers decimal := by
  have isGathered : gathered decimal =
      (decimal.coefficient * 10 ^ (decimal.exponent.toNat + 1), -1) :=
    if_pos ⟨positional, whole⟩
  have few : decimal.digits.length + (decimal.exponent.toNat + 1) ≤ 17 := by
    have bounds : -5 ≤ decimal.leadingExponent ∧ decimal.leadingExponent ≤ 15 :=
      of_decide_eq_true positional
    unfold Scientific.leadingExponent at bounds
    omega
  have fits : decimal.coefficient * 10 ^ (decimal.exponent.toNat + 1) < 10 ^ 17 :=
    calc decimal.coefficient * 10 ^ (decimal.exponent.toNat + 1)
        < 10 ^ decimal.digits.length * 10 ^ (decimal.exponent.toNat + 1) :=
          Nat.mul_lt_mul_of_pos_right (digits_bounds positive).2 (Nat.pow_pos (by decide))
      _ = 10 ^ (decimal.digits.length + (decimal.exponent.toNat + 1)) := (Nat.pow_add _ _ _).symm
      _ ≤ 10 ^ 17 := Nat.pow_le_pow_right (by decide) few
  constructor <;> rw [isGathered]
  · rw [Style.lay, if_pos positional]
    exact lay_whole positive whole (fits.trans (by decide))
  · exact Nat.mul_pos positive (Nat.pow_pos (by decide))
  · exact fits.trans (by decide)
  · norm_num
  · norm_num
  · have power : (10 : ℚ) ^ decimal.exponent = 10 ^ decimal.exponent.toNat := by
      rw [← zpow_natCast, Int.toNat_of_nonneg whole]
    rw [Scientific.value, power]
    push_cast
    rw [pow_succ, zpow_neg_one]
    ring

theorem gathers (positive : 0 < decimal.coefficient) (short : decimal.coefficient ≤ 10 ^ 17)
    (lower : -324 ≤ decimal.exponent) (upper : decimal.exponent ≤ 308) : Gathers decimal := by
  by_cases whole : numberStyle.isPositional decimal.leadingExponent = true ∧ 0 ≤ decimal.exponent
  · exact gathers_whole positive whole.1 whole.2
  · have isGathered : gathered decimal = (decimal.coefficient, decimal.exponent) := if_neg whole
    constructor <;> rw [isGathered]
    · rw [Style.lay]
      split_ifs with positional
      · exact lay_point positive short (not_le.mp fun point => whole ⟨positional, point⟩)
      · exact lay_exponent positive short lower upper
    · exact positive
    · exact short.trans_lt (by decide)
    · exact lower
    · exact upper
    · rfl

end

end LinearProgram.Document
