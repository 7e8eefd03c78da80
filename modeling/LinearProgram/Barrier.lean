import LinearProgram.Barrier.Augmented
import LinearProgram.Barrier.Correction
import LinearProgram.Simplex

/-!
# The barrier method

Each iteration folds the slack weights and the barrier parameter into an
augmented problem, solves it by the simplex method, and corrects the point and
the weights wherever a complementarity gap is open. The iterations end when no
gap is open.
-/

namespace LinearProgram

open Scalar

namespace Barrier

variable {α : Type} [Scalar α]

/-- How many iterations a solve may take unless told otherwise. -/
def standardIterations : Nat := 10000

structure Settings (α : Type) where
  /-- The factor by which the barrier parameter shrinks. -/
  shrinkFactor : α
  tolerance : α
  maxIterations : Nat := standardIterations

structure State (α : Type) where
  point : List α
  weights : List α
  barrier : α
deriving DecidableEq, Repr

def State.initial (problem : Problem α) : State α where
  point := List.replicate problem.numVariables 1
  weights := List.replicate problem.numConstraints 1
  barrier := 1

def refusal (settings : Settings α) (problem : Problem α) : Option (Refusal α) :=
  let n := problem.numVariables
  let m := problem.numConstraints
  if n = 0 ∨ m = 0 then some .noVariableOrNoConstraint
  else if m + 1 < n then some (.tooManyVariables n m)
  else if ¬(0 < settings.shrinkFactor ∧ settings.shrinkFactor < 1) then
    some (.shrinkFactorOutsideUnitInterval settings.shrinkFactor)
  else if ¬0 < settings.tolerance then some (.toleranceNotPositive settings.tolerance)
  else problem.firstNonPositiveRhs.map fun (index, bound) => .rhsNotPositive index bound

/-- What a barrier solve requires of its input. -/
def checkInputs (settings : Settings α) (problem : Problem α) : Except (SolveError α) Unit :=
  match problem.validate with
  | .error cause => .error cause
  | .ok () =>
      match refusal settings problem with
      | some cause => .error (.invalidParameter cause)
      | none => .ok ()

/-- Solve the augmented problem of a state. That it is unbounded tells nothing
about the problem itself. -/
def innerSolve (settings : Settings α) (problem : Problem α) (state : State α) :
    Run α (List α) :=
  let run := Simplex.solve { tolerance := settings.tolerance }
    (augmented problem state.weights state.barrier)
  ⟨run.events,
    match run.outcome with
    | .ok solution => .ok solution.values
    | .error .unbounded => .error .notApplicable
    | .error cause => .error cause⟩

/-- Correct a state by the answer to its augmented problem. The target is taken
from the weights before the correction. -/
def advance (settings : Settings α) (problem : Problem α) (iteration : Nat) (state : State α)
    (answer : List α) : Run α (State α × Bool) :=
  let measure := dualityMeasure state.weights problem.rhs
  let shrunk := settings.shrinkFactor * state.barrier
  let target := (state.barrier / shrunk) * measure
  if isFinite target && allFinite answer then
    let correction :=
      correct state.point state.weights answer problem.rhs target settings.tolerance
    let step := .barrierStep iteration state.barrier measure target correction.converged
    if correction.isFinite then
      ⟨[step], .ok (⟨correction.point, correction.weights, shrunk⟩, correction.converged)⟩
    else ⟨[step], .error (.numericalBreakdown iteration)⟩
  else ⟨[], .error (.numericalBreakdown iteration)⟩

/-- One iteration: the state after it, and whether it found no open gap. -/
def iteration (settings : Settings α) (problem : Problem α) (number : Nat) (state : State α) :
    Run α (State α × Bool) :=
  (innerSolve settings problem state).andThen (advance settings problem number state)

structure Result (α : Type) where
  values : List α
  iterations : Nat
  barrier : α
deriving DecidableEq, Repr

/-- At most `remaining` iterations, the first of them being number `number`.
`log` holds the earlier events, the newest first. -/
def iterate (settings : Settings α) (problem : Problem α) :
    (remaining number : Nat) → State α → (log : List (Event α)) → Run α (Result α)
  | 0, _, _, log => ⟨log.reverse, .error (.iterationLimit settings.maxIterations)⟩
  | remaining + 1, number, state, log =>
      let step := iteration settings problem number state
      let log := step.events.reverse ++ log
      match step.outcome with
      | .error cause => ⟨log.reverse, .error cause⟩
      | .ok (next, true) =>
          ⟨(.converged number next.barrier :: log).reverse,
            .ok ⟨next.point, number, next.barrier⟩⟩
      | .ok (next, false) => iterate settings problem remaining (number + 1) next log

def solve (settings : Settings α) (problem : Problem α) : Run α (Result α) :=
  match checkInputs settings problem with
  | .error cause => ⟨[], .error cause⟩
  | .ok () => iterate settings problem settings.maxIterations 1 (.initial problem) []

end Barrier

end LinearProgram
