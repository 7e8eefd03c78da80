import LinearProgram.Decimal.Style
import LinearProgram.Problem

/-!
# Wording

The text of failures and notes. Numbers in them are written in the plain style.
-/

namespace LinearProgram

open Decimal

def Part.describe : Part → String
  | .constraintRows => "constraint rows vs right-hand side"
  | .constraintRow index => s!"constraint row {index}"

def Refusal.message : Refusal Float → String
  | .toleranceNotPositive given => s!"tolerance must be positive, got {Style.plain.text given}"
  | .shrinkFactorOutsideUnitInterval given =>
      s!"alpha must lie in (0, 1), got {Style.plain.text given}"
  | .noVariableOrNoConstraint =>
      "interior-point method needs at least one variable and one constraint"
  | .tooManyVariables numVariables numConstraints =>
      "interior-point method needs at most m + 1 variables, got " ++
        s!"n = {numVariables} with m = {numConstraints}"
  | .rhsNotPositive index given =>
      s!"right-hand side {index} must be positive, got {Style.plain.text given}"

def SolveError.message : SolveError Float → String
  | .unbounded => "Objective is unbounded: no leaving row for the entering column"
  | .infeasible objective =>
      s!"Method cannot be used on provided inputs (objective {Style.plain.text objective})"
  | .notApplicable =>
      "The interior-point method is not applicable: inner simplex solve is unbounded"
  | .dimensionMismatch part expected found =>
      s!"Dimension mismatch in {part.describe}: expected {expected}, found {found}"
  | .invalidParameter refusal => s!"Invalid parameter: {refusal.message}"
  | .numericalBreakdown iteration =>
      s!"Numerical breakdown in iteration {iteration}: non-finite values in the interior-point state"
  | .iterationLimit iterations => s!"No convergence after {iterations} iterations"

/-- Why the barrier method will refuse the right-hand sides of a problem, if it
will. -/
def Problem.barrierNote (problem : Problem Float) : Option String :=
  problem.firstNonPositiveRhs.map fun (index, bound) =>
    s!"right-hand side {index} is {Style.plain.text bound}, interior-point method unavailable"

end LinearProgram
