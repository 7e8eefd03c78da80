import LinearProgram.Scalar

/-!
# Correcting complementarity gaps

Complementary values should have the target as their product. A gap is open when
the product falls short of the target; an open gap moves the value that belongs
to it, and a closed one leaves it alone.
-/

namespace LinearProgram.Barrier

open Scalar

variable {α : Type} [Scalar α]

/-- The mean of the weights, each divided by its right-hand side. -/
def dualityMeasure (weights rhs : List α) : α :=
  sum (List.zipWith (· / ·) weights rhs) / (weights.length : α)

/-- By how much the product of two complementary values misses the target. -/
def gap (target first second : α) : α :=
  target - first * second

/-- Close one gap: `base` moves by the gap over `divisor` where it is open, and
`current` stays where it is not. The flag tells whether the gap was open. -/
def closeGap (gap base divisor current : α) : α × Bool :=
  if 0 < gap then (base + gap / divisor, true) else (current, false)

/-- One correction of the point: entry `i` looks at entries `i` and `n + i` of
the inner answer. -/
def correctPoint (answer : List α) (target tolerance : α) (point : List α) : List (α × Bool) :=
  point.mapIdx fun index current =>
    let inner := answer.getD index 0
    let slack := answer.getD (point.length + index) 0
    closeGap (gap target slack inner) inner (slack + tolerance) current

/-- One correction of the weights, against the right-hand sides; a weight
without a right-hand side stays. -/
def correctWeights (answer : List α) (numVariables : Nat) (rhs : List α) (target tolerance : α)
    (weights : List α) : List (α × Bool) :=
  weights.mapIdx fun index current =>
    match rhs[index]? with
    | none => (current, false)
    | some bound =>
        let slack := answer.getD (numVariables + index) 0
        closeGap (gap target slack bound) slack (bound + tolerance) current

structure Correction (α : Type) where
  point : List α
  weights : List α
  converged : Bool
deriving DecidableEq, Repr

def correct (point weights answer rhs : List α) (target tolerance : α) : Correction α :=
  let points := correctPoint answer target tolerance point
  let weighted := correctWeights answer point.length rhs target tolerance weights
  { point := points.map (·.1)
    weights := weighted.map (·.1)
    converged := !(points ++ weighted).any (·.2) }

def allFinite (values : List α) : Bool :=
  values.all isFinite

def Correction.isFinite (correction : Correction α) : Bool :=
  allFinite correction.point && allFinite correction.weights

end LinearProgram.Barrier
