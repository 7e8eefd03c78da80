import LinearProgram.Decimal.Digits
import LinearProgram.Decimal.Shortest

/-!
# Reading decimal literals

A literal is an optional sign, then either digits with an optional point and an
optional exponent, or one of the words `inf`, `infinity` and `nan` in any case.
It stands for the double nearest to it.
-/

namespace LinearProgram.Decimal

/-- A leading exponent above which every decimal is out of the range of the
doubles, and whose negative lies below all of them. -/
def leadingLimit : Int := 400

/-- The double nearest to a decimal. Magnitudes beyond the range of the doubles
are settled by their leading exponent alone. -/
def Scientific.toFloat (decimal : Scientific) : Float :=
  let leading := decimal.leadingExponent
  if decimal.coefficient = 0 ∨ leading < -leadingLimit then 0
  else if leadingLimit < leading then 1 / 0
  else Float.ofScientific decimal.coefficient (decide (decimal.exponent < 0))
    decimal.exponent.natAbs

namespace Literal

/-- The exponent part that ends a literal; its absence counts as zero. -/
def exponent? : List Char → Option Int
  | [] => some 0
  | mark :: rest =>
      if mark = 'e' ∨ mark = 'E' then
        let (negative, digits) := spanSign rest
        if digits.isEmpty || !digits.all Char.isDigit then none
        else some (if negative then -(digitsValue 0 digits : Int) else digitsValue 0 digits)
      else none

def decimal? (text : List Char) : Option Scientific :=
  let (whole, afterWhole) := spanDigits text
  let (fraction, rest) :=
    match afterWhole with
    | '.' :: more => spanDigits more
    | _ => ([], afterWhole)
  if whole.isEmpty && fraction.isEmpty then none
  else
    (exponent? rest).map fun exponent =>
      ⟨digitsValue (digitsValue 0 whole) fraction, exponent - fraction.length⟩

/-- An unsigned number or word. -/
def magnitude? (text : List Char) : Option Float :=
  match String.ofList (text.map Char.toLower) with
  | "inf" | "infinity" => some (1 / 0)
  | "nan" => some (0 / 0)
  | _ => (decimal? text).map Scientific.toFloat

/-- The double that a whole text spells. -/
def read? (text : String) : Option Float :=
  let (negative, rest) := spanSign text.toList
  (magnitude? rest).map fun value => if negative then -value else value

end Literal

end LinearProgram.Decimal
