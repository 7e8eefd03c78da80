import LinearProgram.Proofs.Simplex.Visited
import LinearProgram.Proofs.Tableau.Choice

/-!
# Shapes of the tableaux of a run

Every tableau of a run has the shape of the first one, for any arithmetic.
-/

namespace LinearProgram.Simplex

open Tableau

variable {α : Type} [Scalar α] {n m : Nat} {settings : Settings α} {problem : Problem α}
  {tolerance : α}

theorem next_shaped {tableau following : Tableau α} (shaped : Shaped n m tableau)
    (step : next tolerance tableau = some following) : Shaped n m following := by
  obtain ⟨column, row, entering, leaving, rfl⟩ := next_eq_some step
  exact pivot_shaped shaped (leaving_row_lt shaped leaving) (entering_column_lt shaped entering)

theorem tableaux_shaped (settings : Settings α) (valid : problem.validate = .ok ()) :
    ∀ tableau ∈ tableaux settings problem,
      Shaped problem.numVariables problem.numConstraints tableau := by
  apply visited_induction _ (shaped_of_problem valid)
  intro tableau _ following shaped step
  exact next_shaped shaped step

theorem Answered.values_length {solution : Solution α}
    (answered : Answered settings problem solution) :
    solution.values.length = problem.numVariables := by
  rw [answered.values]
  exact Tableau.values_length
    (tableaux_shaped settings answered.valid _ (final_mem settings problem))

end LinearProgram.Simplex
