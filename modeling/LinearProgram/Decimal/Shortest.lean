import LinearProgram.Decimal.Binary
import LinearProgram.Decimal.Rounding

/-!
# Shortest decimals

The decimal with the fewest digits that reads back as a given double, and of
those with equally few the nearest to it. A decimal reads back when it lies
between the midpoints to the neighbouring doubles, the midpoints included
exactly when the significand is even.
-/

namespace LinearProgram.Decimal

/-- The number `coefficient · 10 ^ exponent`. -/
structure Scientific where
  coefficient : Nat
  exponent : Int
deriving DecidableEq, Repr

namespace Scientific

def digits (decimal : Scientific) : List Char :=
  Nat.toDigits 10 decimal.coefficient

def leadingExponent (decimal : Scientific) : Int :=
  decimal.exponent + (decimal.digits.length - 1 : Nat)

/-- The same number without zeros at the end of its coefficient. -/
def trimmed (coefficient : Nat) (exponent : Int) : Scientific :=
  if coefficient ≠ 0 ∧ coefficient % 10 = 0 then
    trimmed (coefficient / 10) (exponent + 1)
  else ⟨coefficient, exponent⟩
termination_by coefficient
decreasing_by omega

end Scientific

/-- The exponent of the leading decimal digit of `num / den`, for positive
`num` and `den`. -/
def leadingExponentOf (num den : Nat) : Int :=
  if den ≤ num then ((Nat.toDigits 10 (num / den)).length - 1 : Nat)
  else -((Nat.toDigits 10 ((den - 1) / num)).length : Int)

/-- `2 ^ binary / 10 ^ decimal` as a quotient of natural numbers. -/
def scale (binary decimal : Int) : Nat × Nat :=
  (Nat.pow 2 binary.toNat * Nat.pow 10 (-decimal).toNat,
    Nat.pow 2 (-binary).toNat * Nat.pow 10 decimal.toNat)

/-- The quarter steps from a significand to the midpoint below it: the gap below
the least significand of a binade is half as wide as the one above. -/
def stepsBelow (significand : Nat) (exponent : Int) : Nat :=
  if significand = Binary.fractionCount ∧ Binary.leastExponent < exponent then 1 else 2

/-- The reals that round to a double, in quarters of its last place. -/
structure Interval where
  low : Nat
  center : Nat
  high : Nat
  closed : Bool

def Interval.of (significand : Nat) (exponent : Int) : Interval where
  low := 4 * significand - stepsBelow significand exponent
  center := 4 * significand
  high := 4 * significand + 2
  closed := significand % 2 == 0

/-- The better of the two neighbours of the center on the grid of multiples of
`10 ^ decimal`, if one of them lies in the interval. -/
def Interval.onGrid (tie : Tie) (interval : Interval) (binary decimal : Int) : Option Nat :=
  let (num, den) := scale binary decimal
  let below := interval.center * num / den
  let belowInside :=
    if interval.closed then decide (interval.low * num ≤ below * den)
    else decide (interval.low * num < below * den)
  let aboveInside :=
    if interval.closed then decide ((below + 1) * den ≤ interval.high * num)
    else decide ((below + 1) * den < interval.high * num)
  match belowInside, aboveInside with
  | true, true =>
      if nearerAbove tie (interval.center * num) den below then some (below + 1) else some below
  | true, false => some below
  | false, true => some (below + 1)
  | false, false => none

/-- Enough digits to tell any two doubles apart. -/
def maxDigits : Nat := 17

/-- The shortest decimal of `significand · 2 ^ exponent`. -/
def shortest (tie : Tie) (significand : Nat) (exponent : Int) : Scientific :=
  if significand = 0 then ⟨0, 0⟩
  else
    let interval := Interval.of significand exponent
    let (num, den) := scale exponent 0
    let leading := leadingExponentOf (significand * num) den
    let found := (List.range maxDigits).findSome? fun (further : Nat) =>
      let place := leading - further
      (interval.onGrid tie (exponent - 2) place).map fun coefficient =>
        Scientific.trimmed coefficient place
    found.getD ⟨0, 0⟩

end LinearProgram.Decimal
