import LinearProgram.Proofs.Barrier.Reduced
import LinearProgram.Proofs.Simplex.Represents

/-!
# The coupling variables stay at zero

The first tableau of an augmented problem is the first tableau of the smaller
problem without coupling, padded. The simplex method makes the same pivots on
both, comes to the same verdict, and leaves the coupling variables at zero in
every answer.
-/

namespace LinearProgram.Barrier

open Scalar Tableau

theorem column_cases {n m column : ℕ} (inside : column ≤ n + m) :
    column < n ∨ (∃ index < m, column = n + index) ∨ column = n + m := by
  rcases Nat.lt_or_ge column n with isVariable | rest
  · exact .inl isVariable
  · obtain ⟨index, rfl⟩ := Nat.exists_eq_add_of_le rest
    rcases Nat.lt_or_ge index m with isSlack | isRhs
    · exact .inr (.inl ⟨index, isSlack, rfl⟩)
    · exact .inr (.inr (by omega))

/-! ## The first tableaux -/

section Start

variable {α : Type} [Scalar α] {problem : Problem α} {weights : List α} (barrier : α)

theorem row_in_augmented (problem : Problem α) (weights : List α) {row : ℕ}
    (inside : row < problem.numConstraints + 1) :
    row < (augmented problem weights barrier).numConstraints := by
  rw [augmented_num_constraints]
  exact inside

theorem column_in_augmented (problem : Problem α) (weights : List α) {column : ℕ}
    (inside : column < problem.numVariables + problem.numConstraints + 1) :
    column < (augmented problem weights barrier).numVariables := by
  rw [augmented_num_variables]
  exact inside

/-- The slack columns of the augmented problem, the last one included. -/
theorem augmented_slack (valid : problem.validate = .ok ())
    (weighted : weights.length = problem.numConstraints) {row index : ℕ}
    (rowInside : row < problem.numConstraints + 1)
    (indexInside : index < problem.numConstraints + 1) :
    (ofProblem (augmented problem weights barrier)).cell row
        (problem.numVariables + problem.numConstraints + 1 + index) =
      if index = row then 1 else 0 := by
  have slack := cell_of_problem_slack (augmented_valid barrier valid weighted)
    (row_in_augmented barrier problem weights rowInside)
    (row_in_augmented barrier problem weights indexInside)
  rw [augmented_num_variables] at slack
  exact slack

theorem augmented_rhs (valid : problem.validate = .ok ())
    (weighted : weights.length = problem.numConstraints) {row : ℕ}
    (inside : row < problem.numConstraints + 1) :
    (ofProblem (augmented problem weights barrier)).cell row
        (problem.numVariables + problem.numConstraints + 1 + (problem.numConstraints + 1)) =
      (augmented problem weights barrier).bound row := by
  have bigValid := augmented_valid barrier valid weighted
  have bound := rhs_of_problem bigValid (row_in_augmented barrier problem weights inside)
  rw [rhs, (shaped_of_problem bigValid).rhs_column, augmented_num_variables,
    augmented_num_constraints] at bound
  exact bound

theorem start_cell (valid : problem.validate = .ok ())
    (weighted : weights.length = problem.numConstraints) {row column : ℕ}
    (rowInside : row < problem.numConstraints)
    (inside : column ≤ problem.numVariables + 1 + problem.numConstraints) :
    (ofProblem (augmented problem weights barrier)).cell row
        (widen problem.numVariables problem.numConstraints column) =
      (ofProblem (reduced problem weights barrier)).cell row column := by
  have smallValid := reduced_valid barrier valid weighted
  have bigValid := augmented_valid barrier valid weighted
  have smallWidth := reduced_num_variables problem weights barrier
  have rowInBig := Nat.lt_succ_of_lt rowInside
  rcases column_cases inside with isVariable | ⟨index, indexInside, rfl⟩ | rfl
  · rw [cell_of_problem_variable smallValid rowInside (smallWidth ▸ isVariable),
      cell_of_problem_variable bigValid (row_in_augmented barrier problem weights rowInBig)
        (column_in_augmented barrier problem weights (widen_lt isVariable)),
      coefficient_widen barrier valid weighted rowInside isVariable]
  · have small := cell_of_problem_slack smallValid rowInside indexInside
    rw [smallWidth] at small
    rw [widen_slack indexInside, small]
    exact augmented_slack barrier valid weighted rowInBig (Nat.lt_succ_of_lt indexInside)
  · have small := rhs_of_problem smallValid rowInside
    rw [rhs, (shaped_of_problem smallValid).rhs_column, smallWidth, reduced_num_constraints]
      at small
    rw [(widen_placement _ _).rhsLast, small, augmented_rhs barrier valid weighted rowInBig,
      bound_augmented barrier rowInside]

theorem start_cost (problem : Problem α) (weights : List α) (column : ℕ) :
    (ofProblem (augmented problem weights barrier)).costAt
        (widen problem.numVariables problem.numConstraints column) =
      (ofProblem (reduced problem weights barrier)).costAt column := by
  have smallWidth := reduced_num_variables problem weights barrier
  have bigWidth := augmented_num_variables problem weights barrier
  rcases Nat.lt_or_ge column (problem.numVariables + 1) with isVariable | rest
  · rw [cost_of_problem_variable _
        (column_in_augmented barrier problem weights (widen_lt isVariable)),
      cost_of_problem_variable _ (smallWidth ▸ isVariable), gain_widen barrier isVariable]
  · rw [cost_of_problem_rest _ (bigWidth ▸ le_widen rest),
      cost_of_problem_rest _ (smallWidth ▸ rest)]

theorem start_idle_cell (valid : problem.validate = .ok ())
    (weighted : weights.length = problem.numConstraints) {row position : ℕ}
    (rowInside : row < problem.numConstraints)
    (inside : position ≤
      problem.numVariables + problem.numConstraints + 1 + (problem.numConstraints + 1))
    (idle : Idle (problem.numVariables + 1) problem.numConstraints
      (widen problem.numVariables problem.numConstraints) position) :
    (ofProblem (augmented problem weights barrier)).cell row position = 0 := by
  have rowInBig := Nat.lt_succ_of_lt rowInside
  rcases widen_idle_cases inside idle with ⟨index, indexInside, rfl⟩ | rfl
  · have columnInside : problem.numVariables + index <
        problem.numVariables + problem.numConstraints + 1 := by omega
    rw [cell_of_problem_variable (augmented_valid barrier valid weighted)
        (row_in_augmented barrier problem weights rowInBig)
        (column_in_augmented barrier problem weights columnInside),
      coefficient_coupling barrier valid weighted rowInside indexInside]
  · rw [augmented_slack barrier valid weighted rowInBig (Nat.lt_succ_self _),
      if_neg rowInside.ne']

/-- The zero cost of a coupling variable is negated with the rest of the objective. -/
theorem start_idle_cost_cases (problem : Problem α) (weights : List α) {position : ℕ}
    (inside : position ≤
      problem.numVariables + problem.numConstraints + 1 + (problem.numConstraints + 1))
    (idle : Idle (problem.numVariables + 1) problem.numConstraints
      (widen problem.numVariables problem.numConstraints) position) :
    (ofProblem (augmented problem weights barrier)).costAt position = 0 ∨
      (ofProblem (augmented problem weights barrier)).costAt position = -0 := by
  rcases widen_idle_cases inside idle with ⟨index, indexInside, rfl⟩ | rfl
  · have columnInside : problem.numVariables + index <
        problem.numVariables + problem.numConstraints + 1 := by omega
    right
    rw [cost_of_problem_variable _ (column_in_augmented barrier problem weights columnInside),
      gain_coupling barrier indexInside]
  · left
    apply cost_of_problem_rest
    rw [augmented_num_variables]
    exact Nat.le_add_right _ _

/-- The last row meets the columns of the smaller problem nowhere. -/
theorem start_last_row (valid : problem.validate = .ok ())
    (weighted : weights.length = problem.numConstraints) {column : ℕ}
    (inside : column ≤ problem.numVariables + 1 + problem.numConstraints) :
    (ofProblem (augmented problem weights barrier)).cell problem.numConstraints
      (widen problem.numVariables problem.numConstraints column) = 0 := by
  have lastInside := Nat.lt_succ_self problem.numConstraints
  rcases column_cases inside with isVariable | ⟨index, indexInside, rfl⟩ | rfl
  · rw [cell_of_problem_variable (augmented_valid barrier valid weighted)
        (row_in_augmented barrier problem weights lastInside)
        (column_in_augmented barrier problem weights (widen_lt isVariable)),
      coefficient_last_row barrier valid weighted isVariable]
  · rw [widen_slack indexInside,
      augmented_slack barrier valid weighted lastInside (Nat.lt_succ_of_lt indexInside),
      if_neg indexInside.ne]
  · rw [(widen_placement _ _).rhsLast, augmented_rhs barrier valid weighted lastInside, bound_last]

theorem augmented_basic_column (problem : Problem α) (weights : List α) {row : ℕ}
    (inside : row < problem.numConstraints + 1) :
    (ofProblem (augmented problem weights barrier)).basicColumn row =
      problem.numVariables + problem.numConstraints + 1 + row := by
  rw [basic_column_of_problem _ (row_in_augmented barrier problem weights inside),
    augmented_num_variables]

end Start

variable {problem : Problem ℚ} {weights : List ℚ} (barrier : ℚ)

theorem start_idle_cost (problem : Problem ℚ) (weights : List ℚ) {position : ℕ}
    (inside : position ≤
      problem.numVariables + problem.numConstraints + 1 + (problem.numConstraints + 1))
    (idle : Idle (problem.numVariables + 1) problem.numConstraints
      (widen problem.numVariables problem.numConstraints) position) :
    (ofProblem (augmented problem weights barrier)).costAt position = 0 := by
  rcases start_idle_cost_cases barrier problem weights inside idle with isZero | isNegated
  · exact isZero
  · rw [isNegated]
    exact neg_zero

theorem padded_start (valid : problem.validate = .ok ())
    (weighted : weights.length = problem.numConstraints) :
    Padded (problem.numVariables + 1) problem.numConstraints
      (problem.numVariables + problem.numConstraints + 1) (problem.numConstraints + 1)
      (widen problem.numVariables problem.numConstraints)
      (ofProblem (reduced problem weights barrier))
      (ofProblem (augmented problem weights barrier)) := by
  have smallWidth := reduced_num_variables problem weights barrier
  have smallShaped := shaped_of_problem (reduced_valid barrier valid weighted)
  have bigShaped := shaped_of_problem (augmented_valid barrier valid weighted)
  rw [smallWidth, reduced_num_constraints] at smallShaped
  rw [augmented_num_variables, augmented_num_constraints] at bigShaped
  constructor
  case smallShaped => exact smallShaped
  case bigShaped => exact bigShaped
  case cell =>
    intro row rowInside column inside
    exact start_cell barrier valid weighted rowInside inside
  case cost =>
    intro column _
    exact start_cost barrier problem weights column
  case idleCell =>
    intro row rowInside position inside idle
    exact start_idle_cell barrier valid weighted rowInside inside idle
  case idleCost =>
    intro position inside idle
    exact start_idle_cost barrier problem weights inside idle
  case idleRow =>
    intro row rowInside added column inside
    obtain rfl : row = problem.numConstraints := by omega
    exact start_last_row barrier valid weighted inside
  case basic =>
    intro row rowInside
    rw [augmented_basic_column barrier problem weights (Nat.lt_succ_of_lt rowInside),
      basic_column_of_problem (reduced problem weights barrier) rowInside, smallWidth,
      widen_slack rowInside]
  case idleBasic =>
    intro row rowInside added
    obtain rfl : row = problem.numConstraints := by omega
    rw [augmented_basic_column barrier problem weights rowInside]
    exact last_slack_idle _ _

/-! ## The answers -/

/-- A solution of the smaller problem with zeros for the coupling variables. -/
def withCoupling (problem : Problem ℚ) (solution : Solution ℚ) : Solution ℚ where
  objective := solution.objective
  values := solution.values.take problem.numVariables ++
    List.replicate problem.numConstraints 0 ++ solution.values.drop problem.numVariables

theorem with_coupling_values (problem : Problem ℚ) (objective : ℚ) {point : List ℚ}
    (length : point.length = problem.numVariables) (last : ℚ) :
    withCoupling problem ⟨objective, point ++ [last]⟩ =
      ⟨objective, point ++ List.replicate problem.numConstraints 0 ++ [last]⟩ := by
  rw [withCoupling, List.take_left' length, List.drop_left' length]

/-- The values read off a padded tableau. -/
theorem values_of_padded {n m : ℕ} {small big : Tableau ℚ}
    (padded : Padded (n + 1) m (n + m + 1) (m + 1) (widen n m) small big)
    (smallCanonical : Canonical (n + 1) m small)
    (bigCanonical : Canonical (n + m + 1) (m + 1) big) :
    small.values = (List.range n).map small.basicPoint ++ [small.basicPoint n] ∧
      big.values = (List.range n).map small.basicPoint ++ List.replicate m 0 ++
        [small.basicPoint n] := by
  have placement := widen_placement n m
  have placed {column : ℕ} (inside : column < n + 1) :
      big.basicPoint (widen n m column) = small.basicPoint column :=
    padded.basic_point placement smallCanonical bigCanonical (by omega)
  have front : (List.range n).map big.basicPoint = (List.range n).map small.basicPoint := by
    apply List.map_congr_left
    intro column inside
    rw [List.mem_range] at inside
    rw [← placed (Nat.lt_succ_of_lt inside), widen_variable inside]
  have coupling : (List.range m).map (big.basicPoint ∘ (n + ·)) = List.replicate m 0 := by
    rw [List.eq_replicate_iff]
    refine ⟨by simp, ?_⟩
    intro value member
    obtain ⟨index, inside, rfl⟩ := List.mem_map.mp member
    rw [List.mem_range] at inside
    have low : n + index < n + m + 1 + (m + 1) := by omega
    exact padded.basic_point_idle placement bigCanonical low (coupling_idle inside)
  rw [values_eq smallCanonical, values_eq bigCanonical, List.range_succ, List.range_succ,
    List.range_add, List.map_append, List.map_append, List.map_append, List.map_map, front,
    coupling, List.map_singleton, List.map_singleton, ← widen_barrier n m,
    placed (Nat.lt_succ_self n)]
  exact ⟨rfl, rfl⟩

theorem final_padded (settings : Simplex.Settings ℚ) (valid : problem.validate = .ok ())
    (weighted : weights.length = problem.numConstraints) (positive : 0 < settings.tolerance) :
    Padded (problem.numVariables + 1) problem.numConstraints
      (problem.numVariables + problem.numConstraints + 1) (problem.numConstraints + 1)
      (widen problem.numVariables problem.numConstraints)
      (Simplex.final settings (reduced problem weights barrier))
      (Simplex.final settings (augmented problem weights barrier)) :=
  (Simplex.descend_padded (widen_placement _ _) positive settings.maxPivots 0
    (padded_start barrier valid weighted) []).1

/-- The last tableau of the smaller problem decides the answers to both. -/
theorem final_values (settings : Simplex.Settings ℚ) (valid : problem.validate = .ok ())
    (weighted : weights.length = problem.numConstraints) (positive : 0 < settings.tolerance) :
    ∃ point last, point.length = problem.numVariables ∧
      (Simplex.final settings (reduced problem weights barrier)).values = point ++ [last] ∧
      (Simplex.final settings (augmented problem weights barrier)).values =
        point ++ List.replicate problem.numConstraints 0 ++ [last] ∧
      (reduced problem weights barrier).objectiveValue
          (Simplex.final settings (reduced problem weights barrier)).values =
        (augmented problem weights barrier).objectiveValue
          (Simplex.final settings (augmented problem weights barrier)).values := by
  have smallValid := reduced_valid barrier valid weighted
  have bigValid := augmented_valid barrier valid weighted
  have padded := final_padded barrier settings valid weighted positive
  have smallRepresents := Simplex.final_represents smallValid positive
  have bigRepresents := Simplex.final_represents bigValid positive
  have smallCanonical := smallRepresents.toCanonical
  have bigCanonical := bigRepresents.toCanonical
  rw [reduced_num_variables, reduced_num_constraints] at smallCanonical
  rw [augmented_num_variables, augmented_num_constraints] at bigCanonical
  obtain ⟨small, big⟩ := values_of_padded padded smallCanonical bigCanonical
  refine ⟨_, _, by simp, small, big, ?_⟩
  rw [smallRepresents.objective_value_values smallValid,
    bigRepresents.objective_value_values bigValid, corner, corner, smallCanonical.rhs_column,
    bigCanonical.rhs_column, ← (widen_placement _ _).rhsLast]
  exact (padded.cost _ le_rfl).symm

theorem conclude_coupled (settings : Simplex.Settings ℚ) (valid : problem.validate = .ok ())
    (weighted : weights.length = problem.numConstraints) (positive : 0 < settings.tolerance)
    (verdict : (Simplex.optimize settings.tolerance settings.maxPivots
        (.ofProblem (augmented problem weights barrier))).verdict =
      (Simplex.optimize settings.tolerance settings.maxPivots
        (.ofProblem (reduced problem weights barrier))).verdict) :
    Simplex.conclude settings (augmented problem weights barrier)
        (Simplex.optimize settings.tolerance settings.maxPivots
          (.ofProblem (augmented problem weights barrier))) =
      (Simplex.conclude settings (reduced problem weights barrier)
        (Simplex.optimize settings.tolerance settings.maxPivots
          (.ofProblem (reduced problem weights barrier)))).map (withCoupling problem) := by
  obtain ⟨point, last, length, small, big, objective⟩ :=
    final_values barrier settings valid weighted positive
  simp only [Simplex.final] at small big objective
  unfold Simplex.conclude
  rw [verdict]
  split
  · rfl
  · rfl
  · dsimp only
    rw [objective, big, small]
    split_ifs
    · rfl
    · exact congrArg Except.ok (with_coupling_values problem _ length last).symm

theorem solve_coupled (settings : Simplex.Settings ℚ) (valid : problem.validate = .ok ())
    (weighted : weights.length = problem.numConstraints) :
    (Simplex.solve settings (augmented problem weights barrier)).outcome =
        (Simplex.solve settings (reduced problem weights barrier)).outcome.map
          (withCoupling problem) ∧
      (Simplex.solve settings (augmented problem weights barrier)).events =
        (Simplex.solve settings (reduced problem weights barrier)).events.map
          (Event.renamed (widen problem.numVariables problem.numConstraints)) := by
  have smallValid := reduced_valid barrier valid weighted
  have bigValid := augmented_valid barrier valid weighted
  by_cases positive : 0 < settings.tolerance
  · obtain ⟨_, verdict, pivots⟩ := Simplex.descend_padded (widen_placement _ _) positive
      settings.maxPivots 0 (padded_start barrier valid weighted) []
    rw [Simplex.solve_outcome smallValid positive, Simplex.solve_outcome bigValid positive]
    refine ⟨conclude_coupled barrier settings valid weighted positive verdict, ?_⟩
    simp only [Simplex.solve, smallValid, bigValid, if_pos positive]
    exact pivots
  · simp only [Simplex.solve, smallValid, bigValid, if_neg positive]
    exact ⟨rfl, rfl⟩

theorem reduced_answer {settings : Simplex.Settings ℚ} (valid : problem.validate = .ok ())
    (weighted : weights.length = problem.numConstraints) {solution : Solution ℚ}
    (solved : (Simplex.solve settings (reduced problem weights barrier)).outcome = .ok solution) :
    ∃ point last, point.length = problem.numVariables ∧ solution.values = point ++ [last] := by
  have answered := Simplex.answered_of_ok solved
  obtain ⟨point, last, length, small, _⟩ :=
    final_values barrier settings valid weighted answered.positive
  exact ⟨point, last, length, answered.values.trans small⟩

theorem augmented_answer {settings : Simplex.Settings ℚ} (valid : problem.validate = .ok ())
    (weighted : weights.length = problem.numConstraints) {solution : Solution ℚ}
    (solved : (Simplex.solve settings (augmented problem weights barrier)).outcome =
      .ok solution) :
    ∃ point last, point.length = problem.numVariables ∧
      solution.values = point ++ List.replicate problem.numConstraints 0 ++ [last] := by
  have answered := Simplex.answered_of_ok solved
  obtain ⟨point, last, length, _, big, _⟩ :=
    final_values barrier settings valid weighted answered.positive
  exact ⟨point, last, length, answered.values.trans big⟩

/-- On an augmented problem the simplex method does what it does on the smaller one:
the same pivots with the columns renamed, the same failure, or the same answer with
zeros for the coupling variables. -/
theorem coupling_inert (valid : problem.validate = .ok ())
    (weighted : weights.length = problem.numConstraints) (settings : Simplex.Settings ℚ) :
    (Simplex.solve settings (augmented problem weights barrier)).outcome =
        (Simplex.solve settings (reduced problem weights barrier)).outcome.map
          (withCoupling problem) ∧
      (Simplex.solve settings (augmented problem weights barrier)).events =
        (Simplex.solve settings (reduced problem weights barrier)).events.map
          (Event.renamed (widen problem.numVariables problem.numConstraints)) ∧
      (Simplex.solve settings (augmented problem weights barrier)).pivotCells.length =
        (Simplex.solve settings (reduced problem weights barrier)).pivotCells.length ∧
      (∀ solution,
        (Simplex.solve settings (reduced problem weights barrier)).outcome = .ok solution →
          ∃ point last, point.length = problem.numVariables ∧
            solution.values = point ++ [last] ∧
            (Simplex.solve settings (augmented problem weights barrier)).outcome =
              .ok ⟨solution.objective,
                point ++ List.replicate problem.numConstraints 0 ++ [last]⟩) ∧
      ∀ solution,
        (Simplex.solve settings (augmented problem weights barrier)).outcome = .ok solution →
          ∀ index < problem.numConstraints,
            solution.values[problem.numVariables + index]? = some 0 := by
  obtain ⟨outcome, events⟩ := solve_coupled barrier settings valid weighted
  refine ⟨outcome, events, ?_, ?_, ?_⟩
  · rw [Run.pivotCells, events, Event.renamed_pivot_cells, List.length_map]
    rfl
  · intro solution solved
    obtain ⟨point, last, length, values⟩ := reduced_answer barrier valid weighted solved
    refine ⟨point, last, length, values, ?_⟩
    rw [outcome, solved, ← with_coupling_values problem _ length, ← values]
    rfl
  · intro solution solved index inside
    obtain ⟨point, last, length, values⟩ := augmented_answer barrier valid weighted solved
    rw [values, List.append_assoc, List.getElem?_append_right (by omega), length,
      Nat.add_sub_cancel_left, List.getElem?_append_left (by simpa using inside),
      List.getElem?_replicate, if_pos inside]

/-- The barrier variable comes into the basis past the three coupling variables. -/
theorem coupling_inert_of_mixed_weights :
    (Simplex.solve ⟨1 / 10, 20⟩ (reduced
      (⟨[3, 5], [[1, 0], [0, 2], [3, 2]], [4, 12, 18]⟩ : Problem ℚ) [1, -1, 2] (-4))).outcome =
        .ok ⟨43, [0, 7] ++ [2]⟩ ∧
      (Simplex.solve ⟨1 / 10, 20⟩ (augmented
        (⟨[3, 5], [[1, 0], [0, 2], [3, 2]], [4, 12, 18]⟩ : Problem ℚ) [1, -1, 2] (-4))).outcome =
          .ok ⟨43, [0, 7] ++ [0, 0, 0] ++ [2]⟩ := by
  have solved : (Simplex.solve ⟨1 / 10, 20⟩ (reduced
      (⟨[3, 5], [[1, 0], [0, 2], [3, 2]], [4, 12, 18]⟩ : Problem ℚ) [1, -1, 2] (-4))).outcome =
        .ok ⟨43, [0, 7] ++ [2]⟩ := by decide +kernel
  have weighted : ([1, -1, 2] : List ℚ).length =
      (⟨[3, 5], [[1, 0], [0, 2], [3, 2]], [4, 12, 18]⟩ : Problem ℚ).numConstraints := rfl
  refine ⟨solved, ?_⟩
  rw [(coupling_inert (-4) (by decide +kernel) weighted ⟨1 / 10, 20⟩).1, solved]
  rfl

end LinearProgram.Barrier
