import LinearProgram.Barrier

/-!
# Solving by several methods

A report gathers the answers of the simplex method and of one barrier solve per
shrink factor. It exists only when every requested solve succeeds.
-/

namespace LinearProgram

inductive Method where
  | simplex
  | interiorPoint
  | both
deriving DecidableEq, Repr

namespace Method

def usesSimplex : Method → Bool
  | .simplex | .both => true
  | .interiorPoint => false

def usesBarrier : Method → Bool
  | .interiorPoint | .both => true
  | .simplex => false

end Method

/-- The answer of one barrier solve, with the objective value of its point. -/
structure BarrierAnswer (α : Type) where
  shrinkFactor : α
  values : List α
  objective : α
  iterations : Nat
deriving DecidableEq, Repr

structure Report (α : Type) where
  simplex : Option (Solution α)
  barrier : List (BarrierAnswer α)
deriving DecidableEq, Repr

namespace Report

variable {α : Type} [Scalar α]

structure Request (α : Type) where
  method : Method
  tolerance : α
  shrinkFactors : List α
  /-- Limits the barrier iterations only. -/
  maxIterations : Nat

def simplexPart (request : Request α) (problem : Problem α) : Run α (Option (Solution α)) :=
  if request.method.usesSimplex then
    (Simplex.solve { tolerance := request.tolerance } problem).andThen fun solution =>
      pure (some solution)
  else pure none

def barrierAnswer (request : Request α) (problem : Problem α) (shrinkFactor : α) :
    Run α (BarrierAnswer α) :=
  (Barrier.solve
      { shrinkFactor := shrinkFactor
        tolerance := request.tolerance
        maxIterations := request.maxIterations } problem).andThen fun result =>
    pure ⟨shrinkFactor, result.values, problem.objectiveValue result.values, result.iterations⟩

def barrierAnswers (request : Request α) (problem : Problem α) :
    List α → Run α (List (BarrierAnswer α))
  | [] => pure []
  | shrinkFactor :: rest => do
      let answer ← barrierAnswer request problem shrinkFactor
      let answers ← barrierAnswers request problem rest
      pure (answer :: answers)

def barrierPart (request : Request α) (problem : Problem α) : Run α (List (BarrierAnswer α)) :=
  if request.method.usesBarrier then barrierAnswers request problem request.shrinkFactors
  else pure []

/-- Carry out a request: first the simplex method, then the barrier solves. -/
def solve (request : Request α) (problem : Problem α) : Run α (Report α) := do
  let simplex ← simplexPart request problem
  let barrier ← barrierPart request problem
  pure ⟨simplex, barrier⟩

end Report

end LinearProgram
