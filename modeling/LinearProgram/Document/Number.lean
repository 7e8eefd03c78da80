import LinearProgram.Decimal.Digits
import LinearProgram.Document.Reader

/-!
# Numbers in documents

The digits of a number are gathered into a 64-bit significand and a decimal
exponent, and the double is computed from these two. That is fast and exact for
short texts; a text with many digits need not give the double nearest to it.
-/

namespace LinearProgram.Document

open Decimal

/-- The parts of a number text. An absent fraction is empty. -/
structure NumberText where
  negative : Bool
  whole : List Char
  fraction : List Char
  exponent : Option (Bool × List Char)
deriving DecidableEq, Repr

inductive NumberDefect where
  | ended
  | malformed
deriving DecidableEq, Repr

def scanDigits (text : List Char) : Except NumberDefect (List Char × List Char) :=
  let (digits, rest) := spanDigits text
  if digits.isEmpty then .error (if rest.isEmpty then .ended else .malformed)
  else .ok (digits, rest)

/-- The digits before the point: a zero is followed by no further digit. -/
def scanWhole (text : List Char) : Except NumberDefect (List Char × List Char) :=
  match scanDigits text with
  | .ok (digits, rest) =>
      if digits.head? = some '0' ∧ digits.length ≠ 1 then .error .malformed
      else .ok (digits, rest)
  | .error defect => .error defect

def scanFraction : List Char → Except NumberDefect (List Char × List Char)
  | '.' :: rest => scanDigits rest
  | text => .ok ([], text)

def scanExponent : List Char → Except NumberDefect (Option (Bool × List Char) × List Char)
  | [] => .ok (none, [])
  | mark :: rest =>
      if mark = 'e' ∨ mark = 'E' then
        match scanDigits (spanSign rest).2 with
        | .error defect => .error defect
        | .ok (digits, after) => .ok (some ((spanSign rest).1, digits), after)
      else .ok (none, mark :: rest)

def scanMinus : List Char → Bool × List Char
  | '-' :: rest => (true, rest)
  | text => (false, text)

/-- The longest number text at the front. -/
def scanNumber (text : List Char) : Except NumberDefect (NumberText × List Char) := do
  let (whole, afterWhole) ← scanWhole (scanMinus text).2
  let (fraction, afterFraction) ← scanFraction afterWhole
  let (exponent, rest) ← scanExponent afterFraction
  pure (⟨(scanMinus text).1, whole, fraction, exponent⟩, rest)

/-- Append digits to a significand as long as it stays below `2 ^ 64`. The digits
that no longer fit are left over. -/
def fill (significand : Nat) : List Char → Nat × List Char
  | [] => (significand, [])
  | digit :: rest =>
      let next := significand * 10 + digitValue digit
      if next < wordCount then fill next rest else (significand, digit :: rest)

def powerOfTen (exponent : Nat) : Float :=
  Float.ofScientific 1 false exponent

/-- The largest power of ten among the doubles. -/
def greatestPower : Nat := 308

/-- Divide by a power of ten, in steps that are doubles themselves. -/
def scaleDown (value : Float) (places : Nat) : Float :=
  if places ≤ greatestPower then value / powerOfTen places
  else if value == 0 then value
  else scaleDown (value / powerOfTen greatestPower) (places - greatestPower)
termination_by places
decreasing_by
  simp only [greatestPower] at *
  omega

/-- Multiply by a power of ten, unless the result is too large. -/
def scaleUp (value : Float) (places : Nat) : Except ReadError Float :=
  if places ≤ greatestPower then
    let scaled := value * powerOfTen places
    if scaled.isInf then .error .numberOutOfRange else .ok scaled
  else if value == 0 then .ok value
  else .error .numberOutOfRange

def scaled (significand : Nat) (exponent : Int) : Except ReadError Float :=
  let value := Float.ofNat significand
  if 0 ≤ exponent then scaleUp value exponent.toNat
  else .ok (scaleDown value (-exponent).toNat)

/-- A written exponent beyond this is not computed with. -/
def greatestExponent : Nat := 2147483647

/-- A number as it was written: without point and exponent, or as a double. -/
inductive Number where
  | integer (value : Int)
  | fraction (value : Float)
deriving DecidableEq, Repr

namespace NumberText

/-- The significand and the exponent of the digits, and whether digits before
the point were left over. -/
def gather (text : NumberText) : Nat × Int × Bool :=
  let (significand, wholeLeft) := fill 0 text.whole
  let (significand, fractionLeft) := fill significand text.fraction
  let kept := text.fraction.length - fractionLeft.length
  (significand, (wholeLeft.length : Int) - kept, !wholeLeft.isEmpty)

/-- The unsigned double of a number with a point, an exponent or too many
digits. -/
def magnitude (text : NumberText) : Except ReadError Float :=
  let (significand, exponent, _) := text.gather
  match text.exponent with
  | none => scaled significand exponent
  | some (negative, digits) =>
      let written := digitsValue 0 digits
      if greatestExponent < written then
        if significand ≠ 0 ∧ !negative then .error .numberOutOfRange else .ok 0
      else if negative then scaled significand (exponent - written)
      else scaled significand (exponent + written)

/-- Whether a number is kept as an integer: its text has digits only, it fits 64
bits with its sign, and it is not a negative zero. -/
def isInteger (text : NumberText) : Bool :=
  let (significand, _, overflowed) := text.gather
  text.fraction.isEmpty && text.exponent.isNone && !overflowed &&
    (!text.negative || decide (significand ≠ 0 ∧ 2 * significand ≤ wordCount))

def number (text : NumberText) : Except ReadError Number :=
  if text.isInteger then
    let significand := text.gather.1
    .ok (.integer (if text.negative then -significand else significand))
  else
    text.magnitude.map fun value => .fraction (if text.negative then -value else value)

end NumberText

namespace Number

def toFloat : Number → Float
  | .integer value => if value < 0 then -Float.ofNat value.natAbs else Float.ofNat value.natAbs
  | .fraction value => value

def found : Number → Found
  | .integer value => .integer value
  | .fraction value => .fraction value

end Number

def NumberDefect.cause : NumberDefect → ReadError
  | .ended => .ended .value
  | .malformed => .invalidNumber

/-- A number whose value matters. -/
def readNumber (text : List Char) : Except ReadError (Number × List Char) :=
  match scanNumber text with
  | .error defect => .error defect.cause
  | .ok (number, rest) => number.number.map (·, rest)

/-- A number whose value does not matter; every defect counts as the same. -/
def skipNumber (text : List Char) : Except ReadError (List Char) :=
  match scanNumber text with
  | .error _ => .error .invalidNumber
  | .ok (_, rest) => .ok rest

theorem scan_digits_length {text digits rest : List Char}
    (scanned : scanDigits text = .ok (digits, rest)) : rest.length < text.length := by
  have sizes : (text.takeWhile Char.isDigit).length + (text.dropWhile Char.isDigit).length =
      text.length := by
    rw [← List.length_append, List.takeWhile_append_dropWhile]
  by_cases absent : text.takeWhile Char.isDigit = []
  · simp [scanDigits, spanDigits, absent] at scanned
  · simp only [scanDigits, spanDigits, List.isEmpty_iff, absent, if_false, Except.ok.injEq,
      Prod.mk.injEq] at scanned
    have positive := List.length_pos_iff.mpr absent
    rw [← scanned.2]
    omega

theorem scan_whole_length {text digits rest : List Char}
    (scanned : scanWhole text = .ok (digits, rest)) : rest.length < text.length := by
  unfold scanWhole at scanned
  split at scanned
  · rename_i found
    split at scanned
    · cases scanned
    · cases scanned
      exact scan_digits_length found
  · cases scanned

theorem scan_fraction_length {text digits rest : List Char}
    (scanned : scanFraction text = .ok (digits, rest)) : rest.length ≤ text.length := by
  unfold scanFraction at scanned
  split at scanned
  · have shorter := scan_digits_length scanned
    simp only [List.length_cons]
    omega
  · cases scanned
    exact Nat.le_refl _

theorem span_sign_length (text : List Char) : (spanSign text).2.length ≤ text.length := by
  unfold spanSign
  split <;> simp

theorem scan_minus_length (text : List Char) : (scanMinus text).2.length ≤ text.length := by
  unfold scanMinus
  split <;> simp

theorem scan_exponent_length {text : List Char} {exponent : Option (Bool × List Char)}
    {rest : List Char} (scanned : scanExponent text = .ok (exponent, rest)) :
    rest.length ≤ text.length := by
  unfold scanExponent at scanned
  split at scanned
  · cases scanned
    exact Nat.le_refl _
  · split at scanned
    · split at scanned
      · cases scanned
      · rename_i found
        cases scanned
        have signed := Nat.lt_of_lt_of_le (scan_digits_length found) (span_sign_length _)
        simp only [List.length_cons]
        omega
    · cases scanned
      exact Nat.le_refl _

theorem scan_number_length {text : List Char} {number : NumberText} {rest : List Char}
    (scanned : scanNumber text = .ok (number, rest)) : rest.length < text.length := by
  unfold scanNumber at scanned
  cases whole : scanWhole (scanMinus text).2 with
  | error defect => simp [whole, bind, Except.bind] at scanned
  | ok wholePart =>
      cases fraction : scanFraction wholePart.2 with
      | error defect => simp [whole, fraction, bind, Except.bind] at scanned
      | ok fractionPart =>
          cases exponent : scanExponent fractionPart.2 with
          | error defect => simp [whole, fraction, exponent, bind, Except.bind] at scanned
          | ok exponentPart =>
              simp only [whole, fraction, exponent, bind, Except.bind, pure, Except.pure,
                Except.ok.injEq, Prod.mk.injEq] at scanned
              have signed := scan_minus_length text
              have first := scan_whole_length whole
              have second := scan_fraction_length fraction
              have third := scan_exponent_length exponent
              rw [← scanned.2]
              omega

theorem read_number_length {text : List Char} {number : Number} {rest : List Char}
    (read : readNumber text = .ok (number, rest)) : rest.length < text.length := by
  unfold readNumber at read
  split at read
  · cases read
  · rename_i found
    cases value : NumberText.number _ with
    | error cause => rw [value] at read; cases read
    | ok result =>
        rw [value] at read
        cases read
        exact scan_number_length found

theorem skip_number_length {text rest : List Char} (skipped : skipNumber text = .ok rest) :
    rest.length < text.length := by
  unfold skipNumber at skipped
  split at skipped
  · cases skipped
  · rename_i found
    cases skipped
    exact scan_number_length found

end LinearProgram.Document
