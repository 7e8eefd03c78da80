import LinearProgram.Proofs.Simplex.RatioTest
import LinearProgram.Proofs.Simplex.Shapes

/-!
# When an answer is feasible

From nonnegative right-hand sides, the answer is feasible exactly when the last
tableau has no negative right-hand side, and a guarded run ends in such a
tableau. An unguarded pivot can end elsewhere.
-/

namespace LinearProgram.Simplex

open Tableau

variable {settings : Settings ℚ} {problem : Problem ℚ} {solution : Solution ℚ}

theorem Answered.finished (answered : Answered settings problem solution) :
    next settings.tolerance (final settings problem) = none :=
  next_of_optimal answered.optimal

theorem Answered.feasible_iff (answered : Answered settings problem solution) :
    problem.Feasible solution.values ↔ (final settings problem).Nonnegative := by
  rw [answered.values]
  exact answered.represents.feasible_values_iff answered.valid

/-- An answer breaks no constraint exactly when the right-hand sides of the last
tableau are nonnegative, which they are when no pivot of the run steps past a row
in the tolerance band. -/
theorem answer_feasible (origin : ∀ bound ∈ problem.rhs, 0 ≤ bound)
    (solved : (solve settings problem).outcome = .ok solution) :
    (problem.maxViolation solution.values = 0 ↔ problem.Feasible solution.values) ∧
      (problem.Feasible solution.values ↔ (final settings problem).Nonnegative) ∧
      ((∀ tableau ∈ tableaux settings problem, tableau.Nonnegative) ↔
        ∀ tableau ∈ tableaux settings problem, tableau.Guarded settings.tolerance) ∧
      ((∀ tableau ∈ tableaux settings problem, tableau.Guarded settings.tolerance) →
        problem.Feasible solution.values) := by
  have answered := answered_of_ok solved
  have guarded_iff := visited_nonnegative_iff answered.valid answered.positive origin
    (final_is_last settings problem) answered.finished
  refine ⟨?_, answered.feasible_iff, guarded_iff, ?_⟩
  · exact Problem.max_violation_eq_zero_iff answered.valid answered.values_length
  · intro guarded
    rw [answered.feasible_iff]
    exact guarded_iff.mpr guarded _ (final_mem settings problem)

/-- The first row is in the tolerance band and allows four times the step taken. -/
theorem answer_feasible_beside_small_entry :
    (solve ⟨1 / 2, 5⟩ (⟨[1], [[1 / 4], [1]], [1, 1]⟩ : Problem ℚ)).outcome = .ok ⟨1, [1]⟩ ∧
      (⟨[1], [[1 / 4], [1]], [1, 1]⟩ : Problem ℚ).Feasible [1] := by
  have solved : (solve ⟨1 / 2, 5⟩ (⟨[1], [[1 / 4], [1]], [1, 1]⟩ : Problem ℚ)).outcome =
      .ok ⟨1, [1]⟩ := by decide +kernel
  have guarded : ∀ tableau ∈ tableaux ⟨1 / 2, 5⟩ (⟨[1], [[1 / 4], [1]], [1, 1]⟩ : Problem ℚ),
      tableau.Guarded (1 / 2) := by decide +kernel
  exact ⟨solved, (answer_feasible (by decide) solved).2.2.2 guarded⟩

/-- With no room left in the first row, the same step leaves the feasible points. -/
theorem answer_past_small_entry :
    (⟨[1], [[1 / 4], [1]], [0, 1]⟩ : Problem ℚ).validate = .ok () ∧
      (∀ bound ∈ [(0 : ℚ), 1], 0 ≤ bound) ∧
      (solve ⟨1 / 2, 5⟩ (⟨[1], [[1 / 4], [1]], [0, 1]⟩ : Problem ℚ)).outcome = .ok ⟨1, [1]⟩ ∧
      (⟨[1], [[1 / 4], [1]], [0, 1]⟩ : Problem ℚ).maxViolation [1] = 1 / 4 := by
  decide +kernel

end LinearProgram.Simplex
