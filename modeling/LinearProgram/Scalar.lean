/-!
# The arithmetic of the solvers

Every solver is written once, over any type with the operations below, in a
fixed order of evaluation. `Float` is the arithmetic that runs; `Rat` is the
exact arithmetic in which the same runs can be reasoned about.
-/

namespace LinearProgram

/-- The operations a solver uses. No law is assumed, so a statement about every
`Scalar` also holds in the presence of rounding, overflow and NaN. -/
class Scalar (α : Type) extends
    Zero α, One α, Neg α, Add α, Sub α, Mul α, Div α, NatCast α, LT α, LE α where
  decidableLT : DecidableLT α
  decidableLE : DecidableLE α
  /-- The value of a sum without terms. -/
  emptySum : α
  isFinite : α → Bool

namespace Scalar

instance {α : Type} [Scalar α] : DecidableLT α := decidableLT

instance {α : Type} [Scalar α] : DecidableLE α := decidableLE

/-- Double precision. A sum without terms is negative zero, the only double that
leaves every summand unchanged. -/
instance : Scalar Float where
  zero := 0
  one := 1
  natCast := Float.ofNat
  decidableLT := fun left right => Float.decLt left right
  decidableLE := fun left right => Float.decLe left right
  emptySum := -0.0
  isFinite := Float.isFinite

instance : Scalar Rat where
  zero := 0
  one := 1
  decidableLT := inferInstance
  decidableLE := inferInstance
  emptySum := 0
  isFinite := fun _ => true

variable {α : Type} [Scalar α]

def sum (terms : List α) : α :=
  terms.foldl (· + ·) emptySum

/-- Inner product; the longer list is cut to the shorter. -/
def dot (left right : List α) : α :=
  sum (List.zipWith (· * ·) left right)

/-- The larger value, and the first one when the two cannot be compared. -/
def larger (first second : α) : α :=
  if first < second then second else first

end Scalar

end LinearProgram
