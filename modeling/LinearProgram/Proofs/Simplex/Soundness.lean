import LinearProgram.Proofs.Simplex.Answer
import LinearProgram.Proofs.Simplex.Ray

/-!
# Runs outside the tolerance band

When no entering column of a run has an entry in the tolerance band, the ratio
test misses no row that limits a step. From nonnegative right-hand sides the run
then stays at feasible basic points, its corner grows, and its verdict is right.
-/

namespace LinearProgram.Simplex

open Tableau

variable {settings : Settings ℚ} {problem : Problem ℚ}

theorem not_infeasible_of_nonnegative (valid : problem.validate = .ok ())
    (positive : 0 < settings.tolerance)
    (nonnegative : ∀ tableau ∈ tableaux settings problem, tableau.Nonnegative) (objective : ℚ) :
    (solve settings problem).outcome ≠ .error (.infeasible objective) := by
  intro failed
  obtain ⟨isValue, below⟩ := infeasible_objective failed
  have cornerNonneg := corner_nonneg valid positive nonnegative _ (final_mem settings problem)
  rw [isValue, (final_represents valid positive).objective_value_values valid] at below
  linarith

/-- Every tableau of a run outside the tolerance band is feasible, its corner never
falls, and none of the verdicts is wrong. -/
theorem band_free_run_sound (valid : problem.validate = .ok ())
    (origin : ∀ bound ∈ problem.rhs, 0 ≤ bound) (positive : 0 < settings.tolerance)
    (bandFree : ∀ tableau ∈ tableaux settings problem, tableau.BandFree settings.tolerance) :
    (∀ tableau ∈ tableaux settings problem, tableau.Nonnegative) ∧
      (tableaux settings problem).IsChain
        (fun tableau following => tableau.corner ≤ following.corner) ∧
      (∀ tableau ∈ tableaux settings problem, 0 ≤ tableau.corner) ∧
      (∀ objective, (solve settings problem).outcome ≠ .error (.infeasible objective)) ∧
      (∀ solution, (solve settings problem).outcome = .ok solution →
        problem.Feasible solution.values) ∧
      ((solve settings problem).outcome = .error .unbounded →
        ∀ goal, ∃ point, problem.Feasible point ∧ goal < problem.objectiveValue point) := by
  have nonnegative : ∀ tableau ∈ tableaux settings problem, tableau.Nonnegative := by
    apply visited_nonnegative valid positive origin
    intro tableau member
    exact (bandFree tableau member).guarded
  refine ⟨nonnegative, corner_chain valid positive nonnegative,
    corner_nonneg valid positive nonnegative,
    not_infeasible_of_nonnegative valid positive nonnegative, ?_, ?_⟩
  · intro solution solved
    rw [(answered_of_ok solved).feasible_iff]
    exact nonnegative _ (final_mem settings problem)
  · intro failed goal
    obtain ⟨column, unlimited⟩ := unlimited_of_unbounded failed
    exact unlimited.exists_feasible_above origin (bandFree _ (final_mem settings problem)) goal

theorem band_free_run_sound_of_two_pivots :
    (tableaux ⟨1 / 10, 5⟩ (⟨[3, 5], [[1, 0], [0, 2], [3, 2]], [4, 12, 18]⟩ : Problem ℚ)).map
        corner = [0, 30, 36] ∧
      (solve ⟨1 / 10, 5⟩
        (⟨[3, 5], [[1, 0], [0, 2], [3, 2]], [4, 12, 18]⟩ : Problem ℚ)).outcome =
          .ok ⟨36, [2, 6]⟩ ∧
      (⟨[3, 5], [[1, 0], [0, 2], [3, 2]], [4, 12, 18]⟩ : Problem ℚ).Feasible [2, 6] := by
  have solved : (solve ⟨1 / 10, 5⟩
      (⟨[3, 5], [[1, 0], [0, 2], [3, 2]], [4, 12, 18]⟩ : Problem ℚ)).outcome =
        .ok ⟨36, [2, 6]⟩ := by decide +kernel
  have bandFree : ∀ tableau ∈ tableaux ⟨1 / 10, 5⟩
      (⟨[3, 5], [[1, 0], [0, 2], [3, 2]], [4, 12, 18]⟩ : Problem ℚ),
        tableau.BandFree (1 / 10) := by decide +kernel
  obtain ⟨_, _, _, _, feasible, _⟩ :=
    band_free_run_sound (by decide +kernel) (by decide +kernel) (by decide +kernel) bandFree
  exact ⟨by decide +kernel, solved, feasible _ solved⟩

end LinearProgram.Simplex
