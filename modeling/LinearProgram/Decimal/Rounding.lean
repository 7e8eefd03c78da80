/-!
# Rounding a quotient

The nearest natural number to a quotient, with the choice at an exact half left
to the caller.
-/

namespace LinearProgram.Decimal

inductive Tie where
  | up
  | toEven
deriving DecidableEq, Repr

/-- Whether a number halfway between `below` and its successor goes up. -/
def Tie.goesUp (tie : Tie) (below : Nat) : Bool :=
  match tie with
  | .up => true
  | .toEven => below % 2 == 1

/-- Whether `num / den`, which has the integer part `below`, is nearer to the
successor of `below`, or halfway and sent up. -/
def nearerAbove (tie : Tie) (num den below : Nat) : Bool :=
  if 2 * num = (2 * below + 1) * den then tie.goesUp below
  else decide ((2 * below + 1) * den < 2 * num)

def roundDiv (tie : Tie) (num den : Nat) : Nat :=
  let below := num / den
  if nearerAbove tie num den below then below + 1 else below

end LinearProgram.Decimal
