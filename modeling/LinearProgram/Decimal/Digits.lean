/-!
# Digits

The parts that all number texts share: runs of digits, their value, and a sign.
-/

namespace LinearProgram.Decimal

def digitValue (digit : Char) : Nat :=
  digit.toNat - '0'.toNat

def digitsValue (start : Nat) (digits : List Char) : Nat :=
  digits.foldl (fun value digit => value * 10 + digitValue digit) start

/-- How many numbers a 64-bit word can hold. -/
def wordCount : Nat := Nat.pow 2 64

/-- The digits at the front, and the rest. -/
def spanDigits (text : List Char) : List Char × List Char :=
  (text.takeWhile Char.isDigit, text.dropWhile Char.isDigit)

/-- Whether a minus stands in front, and what follows the sign, if any. -/
def spanSign : List Char → Bool × List Char
  | '-' :: rest => (true, rest)
  | '+' :: rest => (false, rest)
  | text => (false, text)

end LinearProgram.Decimal
