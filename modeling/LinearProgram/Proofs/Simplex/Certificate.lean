import LinearProgram.Proofs.Simplex.Represents

/-!
# Optimality certificates

The slack part of a cost row holds one multiplier for each constraint. The
multipliers combine the constraint rows into the cost row, so at an optimal
tableau they bound the objective at every feasible point, up to the tolerance.
-/

namespace LinearProgram

open Finset Scalar

namespace Problem

variable {problem : Problem ℚ}

/-- One unit of a single variable. -/
theorem sum_mul_unit_row (width : ℕ) (form : ℕ → ℚ) {index : ℕ} (inside : index < width) :
    ∑ column ∈ range width, form column * (Tableau.unitRow width index : List ℚ).getD column 0 =
      form index := by
  rw [sum_eq_single index]
  · rw [Tableau.unit_row_get inside, if_pos rfl]
    exact mul_one _
  · intro column columnInside different
    rw [Tableau.unit_row_get (mem_range.mp columnInside), if_neg different]
    exact mul_zero _
  · intro outside
    exact absurd (mem_range.mpr inside) outside

theorem objective_value_unit {column : ℕ} (inside : column < problem.numVariables) :
    problem.objectiveValue (Tableau.unitRow problem.numVariables column) = problem.gain column := by
  rw [objective_value_eq, sum_mul_unit_row _ problem.gain inside]

theorem slack_unit (valid : problem.validate = .ok ()) {row column : ℕ}
    (rowInside : row < problem.numConstraints) (inside : column < problem.numVariables) :
    problem.slack (Tableau.unitRow problem.numVariables column) row =
      problem.bound row - problem.coefficient row column := by
  rw [slack, dot_row_eq valid rowInside, sum_mul_unit_row _ (problem.coefficient row) inside]

theorem objective_value_nil (problem : Problem ℚ) : problem.objectiveValue [] = 0 := by
  simp [objective_value_eq]

theorem slack_nil (valid : problem.validate = .ok ()) {row : ℕ}
    (inside : row < problem.numConstraints) : problem.slack [] row = problem.bound row := by
  simp [slack, dot_row_eq valid inside]

end Problem

namespace Represents

variable {problem : Problem ℚ} {tableau : Tableau ℚ}

/-- The cost row, read at the origin. -/
theorem sum_mul_bound (represents : Represents problem tableau)
    (valid : problem.validate = .ok ()) :
    ∑ row ∈ range problem.numConstraints,
      tableau.costAt (problem.numVariables + row) * problem.bound row = tableau.corner := by
  have origin := represents.objective_value_eq valid []
  have slacks : ∑ row ∈ range problem.numConstraints,
      tableau.costAt (problem.numVariables + row) * problem.slack [] row =
        ∑ row ∈ range problem.numConstraints,
          tableau.costAt (problem.numVariables + row) * problem.bound row := by
    apply sum_congr rfl
    intro row inside
    rw [Problem.slack_nil valid (mem_range.mp inside)]
  rw [Problem.objective_value_nil, slacks] at origin
  simp only [List.getD_nil, mul_zero, sum_const_zero, sub_zero] at origin
  linarith

/-- The cost row, read at one unit of a variable. -/
theorem sum_mul_coefficient (represents : Represents problem tableau)
    (valid : problem.validate = .ok ()) {column : ℕ} (inside : column < problem.numVariables) :
    ∑ row ∈ range problem.numConstraints,
      tableau.costAt (problem.numVariables + row) * problem.coefficient row column =
        problem.gain column + tableau.costAt column := by
  have unit := represents.objective_value_eq valid
    (Tableau.unitRow problem.numVariables column)
  have slacks : ∑ row ∈ range problem.numConstraints,
      tableau.costAt (problem.numVariables + row) *
        problem.slack (Tableau.unitRow problem.numVariables column) row =
          tableau.corner - ∑ row ∈ range problem.numConstraints,
            tableau.costAt (problem.numVariables + row) * problem.coefficient row column := by
    rw [← represents.sum_mul_bound valid, ← sum_sub_distrib]
    apply sum_congr rfl
    intro row rowInside
    rw [Problem.slack_unit valid (mem_range.mp rowInside) inside, mul_sub]
  rw [Problem.objective_value_unit inside, Problem.sum_mul_unit_row _ tableau.costAt inside,
    slacks] at unit
  linarith

end Represents

namespace Simplex

/-- What one more of a right-hand side is worth, by the last cost row. -/
def multiplier (settings : Settings ℚ) (problem : Problem ℚ) (row : ℕ) : ℚ :=
  (final settings problem).costAt (problem.numVariables + row)

theorem Answered.objective_eq_corner {settings : Settings ℚ} {problem : Problem ℚ}
    {solution : Solution ℚ} (answered : Answered settings problem solution) :
    solution.objective = (final settings problem).corner := by
  rw [answered.objective, answered.values]
  exact answered.represents.objective_value_values answered.valid

theorem Answered.neg_tolerance_le_cost {settings : Settings ℚ} {problem : Problem ℚ}
    {solution : Solution ℚ} (answered : Answered settings problem solution) {column : ℕ}
    (inside : column < problem.numVariables + problem.numConstraints) :
    -settings.tolerance ≤ (final settings problem).costAt column :=
  Tableau.entering_column_none answered.represents.toShaped answered.optimal inside

/-- The objective at a feasible point exceeds the answer by at most the tolerance
times the sum of the values and of the slacks of the point. -/
theorem Answered.objective_value_le {settings : Settings ℚ} {problem : Problem ℚ}
    {solution : Solution ℚ} (answered : Answered settings problem solution) {point : List ℚ}
    (feasible : problem.Feasible point) :
    problem.objectiveValue point ≤ solution.objective + settings.tolerance *
      (point.sum + ∑ row ∈ range problem.numConstraints, problem.slack point row) := by
  have exactly := answered.represents.objective_value_eq answered.valid point
  have variableCosts : ∑ column ∈ range problem.numVariables,
      -settings.tolerance * point.getD column 0 ≤
        ∑ column ∈ range problem.numVariables,
          (final settings problem).costAt column * point.getD column 0 := by
    apply sum_le_sum
    intro column inside
    rw [mem_range] at inside
    apply mul_le_mul_of_nonneg_right _ (feasible.get_nonneg column)
    exact answered.neg_tolerance_le_cost (by omega)
  have slackCosts : ∑ row ∈ range problem.numConstraints,
      -settings.tolerance * problem.slack point row ≤
        ∑ row ∈ range problem.numConstraints,
          (final settings problem).costAt (problem.numVariables + row) *
            problem.slack point row := by
    apply sum_le_sum
    intro row inside
    rw [mem_range] at inside
    apply mul_le_mul_of_nonneg_right _ (feasible.slack_nonneg inside)
    exact answered.neg_tolerance_le_cost (by omega)
  rw [← mul_sum] at variableCosts slackCosts
  rw [list_sum_eq_range_sum, feasible.length, answered.objective_eq_corner, exactly]
  linarith

/-- An answer comes with multipliers that are dual feasible up to the tolerance
and worth exactly the answer. They bound the objective at every feasible point. -/
theorem optimal_certificate {settings : Settings ℚ} {problem : Problem ℚ}
    {solution : Solution ℚ} (solved : (solve settings problem).outcome = .ok solution) :
    (∀ row < problem.numConstraints,
        -settings.tolerance ≤ multiplier settings problem row) ∧
      (∀ column < problem.numVariables,
        problem.gain column - settings.tolerance ≤
          ∑ row ∈ range problem.numConstraints,
            multiplier settings problem row * problem.coefficient row column) ∧
      ∑ row ∈ range problem.numConstraints,
        multiplier settings problem row * problem.bound row = solution.objective ∧
      ∀ point, problem.Feasible point →
        problem.objectiveValue point ≤ solution.objective + settings.tolerance *
          (point.sum + ∑ row ∈ range problem.numConstraints, problem.slack point row) := by
  have answered := answered_of_ok solved
  refine ⟨?_, ?_, ?_, ?_⟩
  · intro row inside
    exact answered.neg_tolerance_le_cost (by omega)
  · intro column inside
    have combined := answered.represents.sum_mul_coefficient answered.valid inside
    have cost : -settings.tolerance ≤ (final settings problem).costAt column :=
      answered.neg_tolerance_le_cost (by omega)
    unfold multiplier
    linarith
  · rw [answered.objective_eq_corner]
    exact answered.represents.sum_mul_bound answered.valid
  · intro point feasible
    exact answered.objective_value_le feasible

/-- Between one and two, where the lower limit is a negative right-hand side. -/
theorem optimal_certificate_of_interval :
    (solve ⟨1 / 2, 5⟩ (⟨[1], [[1], [-1]], [2, -1]⟩ : Problem ℚ)).outcome = .ok ⟨2, [2]⟩ ∧
      ∀ point, (⟨[1], [[1], [-1]], [2, -1]⟩ : Problem ℚ).Feasible point →
        (⟨[1], [[1], [-1]], [2, -1]⟩ : Problem ℚ).objectiveValue point ≤ 2 + 1 / 2 *
          (point.sum + ∑ row ∈ range 2,
            (⟨[1], [[1], [-1]], [2, -1]⟩ : Problem ℚ).slack point row) := by
  have solved : (solve ⟨1 / 2, 5⟩ (⟨[1], [[1], [-1]], [2, -1]⟩ : Problem ℚ)).outcome =
      .ok ⟨2, [2]⟩ := by decide +kernel
  exact ⟨solved, (optimal_certificate solved).2.2.2⟩

end Simplex

end LinearProgram
