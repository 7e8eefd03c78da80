import LinearProgram.Problem

/-!
# Augmented problems

One barrier iteration solves a problem with `n + m + 1` variables and `m + 1`
constraints, built from a problem with `n` variables and `m` constraints.
-/

namespace LinearProgram.Barrier

variable {α : Type} [Scalar α]

/-- The problem solved in one iteration. Its variables are those of `problem`,
one coupling variable per constraint, and the barrier variable. Each constraint
gets its weight in the barrier column; a last row sets the last column of the
constraint matrix across the coupling block, bounded by zero. -/
def augmented (problem : Problem α) (weights : List α) (barrier : α) : Problem α where
  objective := problem.objective ++ List.replicate problem.numConstraints 0 ++ [-barrier]
  constraints :=
    List.zipWith
        (fun row weight => row ++ List.replicate problem.numConstraints 0 ++ [weight])
        problem.constraints weights ++
      [List.replicate problem.numVariables 0 ++
        problem.constraints.map (·.getD (problem.numVariables - 1) 0) ++ [0]]
  rhs := problem.rhs ++ [0]

end LinearProgram.Barrier
