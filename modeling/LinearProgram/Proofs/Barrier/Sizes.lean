import LinearProgram.Proofs.Barrier.Accepted
import LinearProgram.Proofs.Barrier.Reduced
import LinearProgram.Proofs.Simplex.Shapes

/-!
# Sizes of the states of a barrier solve

A state has one entry per variable and one weight per constraint, and every inner
answer has one entry per variable of the augmented problem. This holds for any
arithmetic.
-/

namespace LinearProgram.Barrier

variable {α : Type} [Scalar α] {settings : Settings α} {problem : Problem α} {state : State α}

structure Sized (problem : Problem α) (state : State α) : Prop where
  point : state.point.length = problem.numVariables
  weights : state.weights.length = problem.numConstraints

theorem Sized.initial (problem : Problem α) : Sized problem (.initial problem) :=
  ⟨List.length_replicate, List.length_replicate⟩

theorem inner_solve_eq_ok_iff {answer : List α} :
    (innerSolve settings problem state).outcome = .ok answer ↔
      ∃ solution, (Simplex.solve { tolerance := settings.tolerance }
        (augmented problem state.weights state.barrier)).outcome = .ok solution ∧
          solution.values = answer := by
  unfold innerSolve
  dsimp only
  split
  · next solution solved => simp [solved]
  · next failed => simp [failed]
  · next cause _ failed => simp [failed]

theorem inner_answer_length {answer : List α}
    (solved : (innerSolve settings problem state).outcome = .ok answer) :
    answer.length = problem.numVariables + problem.numConstraints + 1 := by
  obtain ⟨solution, isSolution, rfl⟩ := inner_solve_eq_ok_iff.mp solved
  rw [(Simplex.answered_of_ok isSolution).values_length, augmented_num_variables]

theorem Sized.advance (sized : Sized problem state) {number : ℕ} {answer : List α}
    {pair : State α × Bool}
    (advanced : (Barrier.advance settings problem number state answer).outcome = .ok pair) :
    Sized problem pair.1 := by
  obtain ⟨_, _, _, rfl, _, _, _, rfl⟩ := advance_of_ok advanced
  constructor
  · rw [correct, List.length_map, correctPoint, List.length_mapIdx]
    exact sized.point
  · rw [correct, List.length_map, correctWeights, List.length_mapIdx]
    exact sized.weights

theorem Sized.next (sized : Sized problem state) {number : ℕ} {pair : State α × Bool}
    (step : (iteration settings problem number state).outcome = .ok pair) :
    Sized problem pair.1 := by
  obtain ⟨_, _, advanced⟩ := (iteration_eq_ok_iff _ _ _ _ _).mp step
  exact sized.advance advanced

theorem sized_of_state_after {count : ℕ}
    (found : stateAfter settings problem count = some state) : Sized problem state := by
  induction count generalizing state with
  | zero =>
      rw [← Option.some.inj found]
      exact .initial problem
  | succ count ih =>
      obtain ⟨before, isBefore, step⟩ := (state_after_succ_iff _ _ _ _).mp found
      exact (ih isBefore).next step

end LinearProgram.Barrier
