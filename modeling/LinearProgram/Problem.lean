import LinearProgram.Scalar
import LinearProgram.SolveError

/-!
# Linear programs

A problem reads: maximize `objective · x` subject to `row · x ≤ bound` for each
constraint row and its right-hand side, and `x ≥ 0`. The three lists may have any
lengths; `Problem.validate` says when they fit together.
-/

namespace LinearProgram

open Scalar

structure Problem (α : Type) where
  objective : List α
  constraints : List (List α)
  rhs : List α
deriving DecidableEq, Repr

namespace Problem

variable {α : Type}

def numVariables (problem : Problem α) : Nat :=
  problem.objective.length

def numConstraints (problem : Problem α) : Nat :=
  problem.rhs.length

/-- The first row whose length is not `width`, with its index and its length. -/
def firstMisfit (width : Nat) (rows : List (List α)) : Option (Nat × Nat) :=
  (rows.zipIdx.find? fun row => row.1.length != width).map fun row => (row.2, row.1.length)

/-- One row per right-hand side, and one entry per variable in each row. The
number of rows is looked at first, then the rows in order. -/
def validate (problem : Problem α) : Except (SolveError α) Unit :=
  if problem.constraints.length ≠ problem.numConstraints then
    .error (.dimensionMismatch .constraintRows problem.numConstraints problem.constraints.length)
  else
    match firstMisfit problem.numVariables problem.constraints with
    | some (index, found) =>
        .error (.dimensionMismatch (.constraintRow index) problem.numVariables found)
    | none => .ok ()

variable [Scalar α]

/-- The first right-hand side that is not greater than zero, with its index. -/
def firstNonPositiveRhs (problem : Problem α) : Option (Nat × α) :=
  (problem.rhs.zipIdx.find? fun bound => !decide (0 < bound.1)).map fun bound =>
    (bound.2, bound.1)

def objectiveValue (problem : Problem α) (values : List α) : α :=
  dot problem.objective values

/-- How far each constraint is exceeded, then how far each value lies below zero. -/
def excesses (problem : Problem α) (values : List α) : List α :=
  List.zipWith (fun row bound => dot row values - bound) problem.constraints problem.rhs ++
    values.map (- ·)

/-- The largest amount by which `values` breaks a constraint or a sign
condition, and zero when it breaks none. -/
def maxViolation (problem : Problem α) (values : List α) : α :=
  (problem.excesses values).foldl larger 0

end Problem

end LinearProgram
