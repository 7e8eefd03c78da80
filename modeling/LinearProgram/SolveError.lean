/-!
# Why a solve fails

Each failure is a cause with the data that explains it. The wording stands in
`LinearProgram.Message`.
-/

namespace LinearProgram

inductive Part where
  /-- The number of constraint rows, against the number of right-hand sides. -/
  | constraintRows
  /-- The length of one constraint row, against the number of variables. -/
  | constraintRow (index : Nat)
deriving DecidableEq, Repr

inductive Refusal (α : Type) where
  | toleranceNotPositive (given : α)
  | shrinkFactorOutsideUnitInterval (given : α)
  | noVariableOrNoConstraint
  | tooManyVariables (numVariables numConstraints : Nat)
  | rhsNotPositive (index : Nat) (given : α)
deriving DecidableEq, Repr

inductive SolveError (α : Type) where
  /-- A column improves the objective and no row limits it. -/
  | unbounded
  /-- The final objective lies below minus the tolerance. -/
  | infeasible (objective : α)
  /-- An augmented problem of the barrier method is unbounded. -/
  | notApplicable
  | dimensionMismatch (part : Part) (expected found : Nat)
  | invalidParameter (refusal : Refusal α)
  /-- Non-finite values in the barrier state of this iteration. -/
  | numericalBreakdown (iteration : Nat)
  | iterationLimit (iterations : Nat)
deriving DecidableEq, Repr

end LinearProgram
