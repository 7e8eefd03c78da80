/-!
# Doubles as exact numbers

A finite double is `± significand · 2 ^ exponent`. All decimal text is computed
from that number in natural-number arithmetic.
-/

namespace LinearProgram.Decimal

inductive Binary where
  | nan
  | infinite (negative : Bool)
  | finite (negative : Bool) (significand : Nat) (exponent : Int)
deriving DecidableEq, Repr

namespace Binary

def fractionCount : Nat := Nat.pow 2 52

def exponentCount : Nat := Nat.pow 2 11

/-- The exponent of the subnormal doubles. -/
def leastExponent : Int := -1074

def ofBits (bits : Nat) : Binary :=
  let negative := decide (bits / (fractionCount * exponentCount) % 2 = 1)
  let field := bits / fractionCount % exponentCount
  let fraction := bits % fractionCount
  if field + 1 = exponentCount then
    if fraction = 0 then .infinite negative else .nan
  else if field = 0 then .finite negative fraction leastExponent
  else .finite negative (fractionCount + fraction) (leastExponent + (field - 1 : Nat))

def ofFloat (value : Float) : Binary :=
  ofBits value.toBits.toNat

end Binary

end LinearProgram.Decimal
