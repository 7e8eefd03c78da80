import LinearProgram.Decimal.Shortest

/-!
# Number text

A style fixes how the shortest decimal of a double is laid out. Fixed-place text
is separate: it rounds the exact value.
-/

namespace LinearProgram.Decimal

structure Style where
  tie : Tie
  /-- The leading exponents written without an exponent part, from the first to
  the second inclusive; all of them when absent. -/
  positional : Option (Int × Int)
  /-- A whole number ends in `.0`. -/
  keepsPoint : Bool
  /-- A positive exponent has a sign. -/
  signsExponent : Bool
  nan : String
  infinity : String
  negativeInfinity : String

namespace Style

def isPositional (style : Style) (leading : Int) : Bool :=
  match style.positional with
  | none => true
  | some (first, last) => decide (first ≤ leading ∧ leading ≤ last)

def layPositional (style : Style) (decimal : Scientific) : List Char :=
  let digits := decimal.digits
  if 0 ≤ decimal.exponent then
    digits ++ List.replicate decimal.exponent.toNat '0' ++
      (if style.keepsPoint then ['.', '0'] else [])
  else
    let places := (-decimal.exponent).toNat
    if places < digits.length then
      digits.take (digits.length - places) ++ '.' :: digits.drop (digits.length - places)
    else
      '0' :: '.' :: (List.replicate (places - digits.length) '0' ++ digits)

def layScientific (style : Style) (decimal : Scientific) : List Char :=
  let leading := decimal.leadingExponent
  let fraction := decimal.digits.drop 1
  decimal.digits.take 1 ++ (if fraction.isEmpty then [] else '.' :: fraction) ++ ['e'] ++
    (if leading < 0 then ['-'] else if style.signsExponent then ['+'] else []) ++
    Nat.toDigits 10 leading.natAbs

def lay (style : Style) (decimal : Scientific) : List Char :=
  if style.isPositional decimal.leadingExponent then style.layPositional decimal
  else style.layScientific decimal

def sign (negative : Bool) : List Char :=
  if negative then ['-'] else []

def text (style : Style) (value : Float) : String :=
  match Binary.ofFloat value with
  | .nan => style.nan
  | .infinite negative => if negative then style.negativeInfinity else style.infinity
  | .finite negative significand exponent =>
      String.ofList (sign negative ++ style.lay (shortest style.tie significand exponent))

/-- Never an exponent, and no point in a whole number. -/
def plain : Style where
  tie := .up
  positional := none
  keepsPoint := false
  signsExponent := false
  nan := "NaN"
  infinity := "inf"
  negativeInfinity := "-inf"

/-- Always recognizable as a fractional number: a point or an exponent. -/
def exact : Style where
  tie := .up
  positional := some (-4, 15)
  keepsPoint := true
  signsExponent := false
  nan := "NaN"
  infinity := "inf"
  negativeInfinity := "-inf"

end Style

/-- A double with a fixed number of decimal places, an exact half going to the
even neighbour. -/
def fixedText (places : Nat) (value : Float) : String :=
  match Binary.ofFloat value with
  | .nan => "NaN"
  | .infinite negative => if negative then "-inf" else "inf"
  | .finite negative significand exponent =>
      let (num, den) := scale exponent 0
      let one := Nat.pow 10 places
      let units := roundDiv .toEven (significand * num * one) den
      let fraction := Nat.toDigits 10 (units % one)
      String.ofList (Style.sign negative ++ Nat.toDigits 10 (units / one) ++ '.' ::
        (List.replicate (places - fraction.length) '0' ++ fraction))

end LinearProgram.Decimal
