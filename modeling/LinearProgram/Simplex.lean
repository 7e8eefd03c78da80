import LinearProgram.Run
import LinearProgram.Tableau

/-!
# The simplex method

From the all-slack basis, pivot until no cost is below minus the tolerance. The
start is a feasible point only when no right-hand side is negative.
-/

namespace LinearProgram

open Scalar

structure Solution (α : Type) where
  objective : α
  values : List α
deriving DecidableEq, Repr

namespace Simplex

variable {α : Type} [Scalar α]

inductive Verdict where
  | optimal
  | unbounded
  | limitReached
deriving DecidableEq, Repr

/-- The tableau where the pivots end, and the pivots done, in order. -/
structure Descent (α : Type) where
  tableau : Tableau α
  pivots : List (Event α)
  verdict : Verdict

/-- At most `remaining` further pivots after the `done` ones in `log`, the
newest first. A tableau reached by the last permitted pivot is still tested for
optimality. -/
def descend (tolerance : α) :
    (remaining done : Nat) → Tableau α → (log : List (Event α)) → Descent α
  | 0, _, tableau, log =>
      match tableau.enteringColumn tolerance with
      | none => ⟨tableau, log.reverse, .optimal⟩
      | some _ => ⟨tableau, log.reverse, .limitReached⟩
  | remaining + 1, done, tableau, log =>
      match tableau.enteringColumn tolerance with
      | none => ⟨tableau, log.reverse, .optimal⟩
      | some column =>
          match tableau.leavingRow tolerance column with
          | none => ⟨tableau, log.reverse, .unbounded⟩
          | some row =>
              descend tolerance remaining (done + 1) (tableau.pivot row column)
                (.pivot done column row :: log)

def optimize (tolerance : α) (maxPivots : Nat) (tableau : Tableau α) : Descent α :=
  descend tolerance maxPivots 0 tableau []

/-- How many pivots a solve may take unless told otherwise. -/
def standardPivots : Nat := 10000

structure Settings (α : Type) where
  tolerance : α
  maxPivots : Nat := standardPivots

/-- The accuracy that serves when none is asked for. -/
def standardTolerance : Float := 1e-4

/-- Read the answer off the last tableau. -/
def conclude (settings : Settings α) (problem : Problem α) (descent : Descent α) :
    Except (SolveError α) (Solution α) :=
  match descent.verdict with
  | .unbounded => .error .unbounded
  | .limitReached => .error (.iterationLimit settings.maxPivots)
  | .optimal =>
      let values := descent.tableau.values
      let objective := problem.objectiveValue values
      if objective < -settings.tolerance then .error (.infeasible objective)
      else .ok ⟨objective, values⟩

def solve (settings : Settings α) (problem : Problem α) : Run α (Solution α) :=
  match problem.validate with
  | .error cause => ⟨[], .error cause⟩
  | .ok () =>
      if 0 < settings.tolerance then
        let descent := optimize settings.tolerance settings.maxPivots (.ofProblem problem)
        ⟨descent.pivots, conclude settings problem descent⟩
      else
        ⟨[], .error (.invalidParameter (.toleranceNotPositive settings.tolerance))⟩

end Simplex

end LinearProgram
