import LinearProgram.Proofs.Simplex.Visited
import LinearProgram.Proofs.Tableau.Basis
import LinearProgram.Proofs.Tableau.BasicPoint
import LinearProgram.Proofs.Tableau.Choice

/-!
# Tableaux that represent a problem

Every tableau of a run has unit columns at its basis, the balanced vectors of the
first tableau, and the same cost at each of them. The balanced vectors of the
first tableau are the points of the problem with their slacks, so what is read
off any tableau of the run is a statement about the problem. Two of these tableaux
with the same basis are the same tableau.
-/

namespace LinearProgram

open Finset Scalar

/-! ## Vectors of the first tableau -/

theorem sum_columns (n m : ℕ) (form : ℕ → ℚ) :
    ∑ column ∈ range (n + m + 1), form column =
      ∑ column ∈ range n, form column + ∑ index ∈ range m, form (n + index) + form (n + m) := by
  rw [sum_range_succ, sum_range_add]

namespace Problem

variable {problem : Problem ℚ}

/-- The part of a vector that belongs to the variables. -/
def structural (problem : Problem ℚ) (vector : ℕ → ℚ) : List ℚ :=
  (List.range problem.numVariables).map vector

/-- A point with its slacks, as a vector. -/
def lift (problem : Problem ℚ) (values : List ℚ) (column : ℕ) : ℚ :=
  if column < problem.numVariables then values.getD column 0
  else if column < problem.numVariables + problem.numConstraints then
    problem.slack values (column - problem.numVariables)
  else -1

theorem structural_length (problem : Problem ℚ) (vector : ℕ → ℚ) :
    (problem.structural vector).length = problem.numVariables := by
  simp [structural]

theorem structural_get {column : ℕ} (inside : column < problem.numVariables) (vector : ℕ → ℚ) :
    (problem.structural vector).getD column 0 = vector column := by
  rw [List.getD_eq_getElem _ _ (by rw [structural_length]; exact inside)]
  simp [structural]

theorem lift_variable {column : ℕ} (inside : column < problem.numVariables) (values : List ℚ) :
    problem.lift values column = values.getD column 0 :=
  if_pos inside

theorem lift_slack {index : ℕ} (inside : index < problem.numConstraints) (values : List ℚ) :
    problem.lift values (problem.numVariables + index) = problem.slack values index := by
  rw [lift, if_neg (by omega), if_pos (by omega), Nat.add_sub_cancel_left]

theorem lift_rhs (values : List ℚ) :
    problem.lift values (problem.numVariables + problem.numConstraints) = -1 := by
  rw [lift, if_neg (by omega), if_neg (lt_irrefl _)]

theorem row_value_of_problem (valid : problem.validate = .ok ()) {row : ℕ}
    (inside : row < problem.numConstraints) (vector : ℕ → ℚ) :
    (Tableau.ofProblem problem).rowValue row vector =
      ∑ column ∈ range problem.numVariables, problem.coefficient row column * vector column +
        vector (problem.numVariables + row) +
          problem.bound row * vector (problem.numVariables + problem.numConstraints) := by
  have shaped := Tableau.shaped_of_problem valid
  have corner := Tableau.rhs_of_problem valid inside
  rw [Tableau.rhs, shaped.rhs_column] at corner
  rw [Tableau.rowValue, shaped.rhs_column, sum_columns, corner]
  congr 2
  · apply sum_congr rfl
    intro column columnInside
    rw [Tableau.cell_of_problem_variable valid inside (mem_range.mp columnInside)]
  · rw [sum_eq_single row]
    · rw [Tableau.cell_of_problem_slack valid inside inside, if_pos rfl, one_mul]
    · intro index indexInside different
      rw [Tableau.cell_of_problem_slack valid inside (mem_range.mp indexInside),
        if_neg different, zero_mul]
    · intro outside
      exact absurd (mem_range.mpr inside) outside

theorem cost_value_of_problem (valid : problem.validate = .ok ()) (vector : ℕ → ℚ) :
    (Tableau.ofProblem problem).costValue vector =
      -∑ column ∈ range problem.numVariables, problem.gain column * vector column := by
  rw [Tableau.costValue, (Tableau.shaped_of_problem valid).rhs_column, sum_columns,
    Tableau.cost_of_problem_rest problem (Nat.le_add_right _ _), zero_mul, add_zero,
    ← sum_neg_distrib]
  rw [sum_eq_zero (s := range problem.numConstraints), add_zero]
  · apply sum_congr rfl
    intro column inside
    rw [Tableau.cost_of_problem_variable problem (mem_range.mp inside), neg_mul]
  · intro index _
    rw [Tableau.cost_of_problem_rest problem (Nat.le_add_right _ _), zero_mul]

theorem lift_balanced (valid : problem.validate = .ok ()) (values : List ℚ) :
    (Tableau.ofProblem problem).Balanced (problem.lift values) := by
  intro row inside
  rw [(Tableau.shaped_of_problem valid).rowCount] at inside
  have products : ∑ column ∈ range problem.numVariables,
      problem.coefficient row column * problem.lift values column =
        dot (problem.row row) values := by
    rw [dot_row_eq valid inside]
    apply sum_congr rfl
    intro column columnInside
    rw [lift_variable (mem_range.mp columnInside)]
  rw [row_value_of_problem valid inside, products, lift_slack inside, lift_rhs, slack]
  ring

theorem dot_structural (valid : problem.validate = .ok ()) {row : ℕ}
    (inside : row < problem.numConstraints) (vector : ℕ → ℚ) :
    dot (problem.row row) (problem.structural vector) =
      ∑ column ∈ range problem.numVariables, problem.coefficient row column * vector column := by
  rw [dot_row_eq valid inside]
  apply sum_congr rfl
  intro column columnInside
  rw [structural_get (mem_range.mp columnInside)]

theorem dot_row_structural (valid : problem.validate = .ok ()) {vector : ℕ → ℚ}
    (balanced : (Tableau.ofProblem problem).Balanced vector) {row : ℕ}
    (inside : row < problem.numConstraints) :
    dot (problem.row row) (problem.structural vector) =
      -vector (problem.numVariables + row) -
        problem.bound row * vector (problem.numVariables + problem.numConstraints) := by
  have zero := balanced row (by rw [(Tableau.shaped_of_problem valid).rowCount]; exact inside)
  rw [row_value_of_problem valid inside] at zero
  rw [dot_structural valid inside]
  linarith

theorem objective_structural (valid : problem.validate = .ok ()) (vector : ℕ → ℚ) :
    problem.objectiveValue (problem.structural vector) =
      -(Tableau.ofProblem problem).costValue vector := by
  rw [objective_value_eq, cost_value_of_problem valid, neg_neg]
  apply sum_congr rfl
  intro column inside
  rw [structural_get (mem_range.mp inside)]

/-- A balanced point is feasible when no column has a negative value in it: the
columns are the variables and the slacks. -/
theorem feasible_structural_iff (valid : problem.validate = .ok ()) {vector : ℕ → ℚ}
    (balanced : (Tableau.ofProblem problem).Balanced vector)
    (isPoint : vector (problem.numVariables + problem.numConstraints) = -1) :
    problem.Feasible (problem.structural vector) ↔
      ∀ column < problem.numVariables + problem.numConstraints, 0 ≤ vector column := by
  have rows (row : ℕ) (inside : row < problem.numConstraints) :=
    dot_row_structural valid balanced inside
  rw [isPoint] at rows
  constructor
  · intro feasible column inside
    rcases Nat.lt_or_ge column problem.numVariables with isVariable | isSlack
    · rw [← structural_get isVariable vector]
      exact feasible.get_nonneg column
    · obtain ⟨row, rfl⟩ := Nat.exists_eq_add_of_le isSlack
      have rowInside : row < problem.numConstraints := by omega
      have within := feasible.within row rowInside
      rw [rows row rowInside] at within
      linarith
  · intro nonneg
    refine ⟨structural_length problem vector, ?_, ?_⟩
    · intro row inside
      rw [rows row inside]
      have rest := nonneg (problem.numVariables + row) (by omega)
      linarith
    · intro value member
      obtain ⟨column, inside, rfl⟩ := List.mem_map.mp member
      rw [List.mem_range] at inside
      exact nonneg column (by omega)

end Problem

/-! ## The invariant of a run -/

structure Represents (problem : Problem ℚ) (tableau : Tableau ℚ) : Prop extends
    Tableau.Canonical problem.numVariables problem.numConstraints tableau where
  sameVectors : ∀ vector, tableau.Balanced vector ↔ (Tableau.ofProblem problem).Balanced vector
  sameCost : ∀ vector, tableau.Balanced vector →
    tableau.costValue vector = (Tableau.ofProblem problem).costValue vector

namespace Represents

variable {problem : Problem ℚ} {tableau : Tableau ℚ} {tolerance : ℚ}

theorem start (valid : problem.validate = .ok ()) :
    Represents problem (Tableau.ofProblem problem) :=
  ⟨Tableau.canonical_of_problem valid, fun _ => Iff.rfl, fun _ _ => rfl⟩

theorem pivot (represents : Represents problem tableau) {row column : ℕ}
    (rowInside : row < problem.numConstraints)
    (columnInside : column < problem.numVariables + problem.numConstraints)
    (pivotable : tableau.cell row column ≠ 0) :
    Represents problem (tableau.pivot row column) := by
  have kept := Tableau.pivot_balanced_iff represents.toShaped rowInside columnInside pivotable
  refine ⟨Tableau.pivot_canonical represents.toCanonical rowInside columnInside pivotable, ?_, ?_⟩
  · intro vector
    rw [kept, represents.sameVectors]
  · intro vector balanced
    rw [kept] at balanced
    rw [Tableau.pivot_cost_value_of_balanced represents.toShaped rowInside columnInside balanced]
    exact represents.sameCost vector balanced

theorem next (represents : Represents problem tableau) (positive : 0 < tolerance)
    {following : Tableau ℚ} (step : Simplex.next tolerance tableau = some following) :
    Represents problem following := by
  obtain ⟨column, row, entering, leaving, rfl⟩ := Simplex.next_eq_some step
  have columnInside := (Tableau.entering_column_some represents.toShaped entering).1
  obtain ⟨rowInside, large, _⟩ := Tableau.leaving_row_some represents.toShaped leaving
  exact represents.pivot rowInside columnInside (lt_trans positive large).ne'

theorem visited (valid : problem.validate = .ok ()) (positive : 0 < tolerance) {remaining : ℕ} :
    ∀ tableau ∈ Simplex.visited tolerance remaining (Tableau.ofProblem problem),
      Represents problem tableau := by
  apply Simplex.visited_induction (Represents problem) (start valid)
  intro tableau _ following represents step
  exact represents.next positive step

theorem direction_balanced (represents : Represents problem tableau) {column : ℕ}
    (inside : column ≤ problem.numVariables + problem.numConstraints) :
    (Tableau.ofProblem problem).Balanced (tableau.direction column) :=
  (represents.sameVectors _).mp (Tableau.direction_balanced represents.toCanonical inside)

theorem direction_cost (represents : Represents problem tableau) {column : ℕ}
    (inside : column ≤ problem.numVariables + problem.numConstraints) :
    (Tableau.ofProblem problem).costValue (tableau.direction column) = tableau.costAt column := by
  rw [← represents.sameCost _ (Tableau.direction_balanced represents.toCanonical inside)]
  exact Tableau.direction_cost represents.toCanonical inside

/-- The objective at any point, in terms of the cost row: the corner less what
the variables and the slacks of the point cost. -/
theorem objective_value_eq (represents : Represents problem tableau)
    (valid : problem.validate = .ok ()) (values : List ℚ) :
    problem.objectiveValue values =
      tableau.corner -
        ∑ column ∈ range problem.numVariables, tableau.costAt column * values.getD column 0 -
          ∑ row ∈ range problem.numConstraints,
            tableau.costAt (problem.numVariables + row) * problem.slack values row := by
  have balanced := (represents.sameVectors _).mpr (Problem.lift_balanced valid values)
  have same := represents.sameCost _ balanced
  rw [Problem.cost_value_of_problem valid, Tableau.costValue, represents.rhs_column, sum_columns,
    Problem.lift_rhs] at same
  have gains : ∑ column ∈ range problem.numVariables,
      problem.gain column * problem.lift values column = problem.objectiveValue values := by
    rw [Problem.objective_value_eq]
    apply sum_congr rfl
    intro column inside
    rw [Problem.lift_variable (mem_range.mp inside)]
  have costs : ∑ column ∈ range problem.numVariables,
      tableau.costAt column * problem.lift values column =
        ∑ column ∈ range problem.numVariables, tableau.costAt column * values.getD column 0 := by
    apply sum_congr rfl
    intro column inside
    rw [Problem.lift_variable (mem_range.mp inside)]
  have slacks : ∑ row ∈ range problem.numConstraints,
      tableau.costAt (problem.numVariables + row) *
        problem.lift values (problem.numVariables + row) =
          ∑ row ∈ range problem.numConstraints,
            tableau.costAt (problem.numVariables + row) * problem.slack values row := by
    apply sum_congr rfl
    intro row inside
    rw [Problem.lift_slack (mem_range.mp inside)]
  rw [gains, costs, slacks] at same
  rw [Tableau.corner, represents.rhs_column]
  linarith

/-! ## The basic point of a tableau -/

theorem values_eq (represents : Represents problem tableau) :
    tableau.values = problem.structural tableau.basicPoint :=
  Tableau.values_eq represents.toCanonical

theorem basic_point_balanced (represents : Represents problem tableau) :
    (Tableau.ofProblem problem).Balanced tableau.basicPoint := by
  have inside := represents.rhs_column.le
  rw [Tableau.basic_point_eq_scaled]
  exact Tableau.balanced_scaled _ (represents.direction_balanced inside)

/-- The corner is the objective at the values that are read off. -/
theorem objective_value_values (represents : Represents problem tableau)
    (valid : problem.validate = .ok ()) :
    problem.objectiveValue tableau.values = tableau.corner := by
  have inside := represents.rhs_column.le
  rw [represents.values_eq, Problem.objective_structural valid, Tableau.basic_point_eq_scaled,
    Tableau.cost_value_scaled, represents.direction_cost inside, neg_one_mul, neg_neg]
  rfl

theorem feasible_values_iff (represents : Represents problem tableau)
    (valid : problem.validate = .ok ()) :
    problem.Feasible tableau.values ↔ tableau.Nonnegative := by
  have isPoint := Tableau.basic_point_rhs_column represents.toShaped
  rw [represents.values_eq,
    Problem.feasible_structural_iff valid represents.basic_point_balanced isPoint]
  exact Tableau.basic_point_nonneg_iff represents.toCanonical

/-! ## Tableaux with the same basis -/

section SharedBasis

variable {first second : Tableau ℚ}

theorem cell_eq_of_basis (representsFirst : Represents problem first)
    (representsSecond : Represents problem second)
    (shared : ∀ column ∈ first.basis, column ∈ second.basis) {row other : ℕ}
    (rowInside : row < problem.numConstraints) (otherInside : other < problem.numConstraints)
    (same : first.basicColumn row = second.basicColumn other) {column : ℕ}
    (inside : column ≤ problem.numVariables + problem.numConstraints) :
    second.cell other column = first.cell row column := by
  apply Tableau.cell_eq_of_shared_basis representsFirst.toCanonical
    representsSecond.toCanonical _ shared rowInside otherInside same inside
  intro vector balanced
  rw [representsSecond.sameVectors, ← representsFirst.sameVectors]
  exact balanced

theorem cost_eq_of_basis (representsFirst : Represents problem first)
    (representsSecond : Represents problem second)
    (shared : ∀ column ∈ first.basis, column ∈ second.basis) {column : ℕ}
    (inside : column ≤ problem.numVariables + problem.numConstraints) :
    second.costAt column = first.costAt column := by
  apply Tableau.cost_eq_of_shared_basis representsFirst.toCanonical
    representsSecond.toCanonical _ shared inside
  intro vector balanced
  have common := (representsFirst.sameVectors vector).mp balanced
  rw [representsFirst.sameCost vector balanced,
    representsSecond.sameCost vector ((representsSecond.sameVectors vector).mpr common)]

theorem corner_eq_of_basis (representsFirst : Represents problem first)
    (representsSecond : Represents problem second)
    (same : first.basis.toFinset = second.basis.toFinset) : first.corner = second.corner := by
  have shared : ∀ column ∈ second.basis, column ∈ first.basis := by
    intro column member
    rw [← List.mem_toFinset, same, List.mem_toFinset]
    exact member
  rw [Tableau.corner, Tableau.corner, representsFirst.rhs_column, representsSecond.rhs_column]
  exact cost_eq_of_basis representsSecond representsFirst shared le_rfl

theorem eq_of_basis (representsFirst : Represents problem first)
    (representsSecond : Represents problem second) (same : first.basis = second.basis) :
    first = second := by
  have shared : ∀ column ∈ second.basis, column ∈ first.basis := by
    intro column member
    rw [same]
    exact member
  apply Tableau.eq_of_cells representsFirst.toShaped representsSecond.toShaped _ _ same
  · intro row rowInside column inside
    apply cell_eq_of_basis representsSecond representsFirst shared rowInside rowInside _ inside
    rw [Tableau.basicColumn, Tableau.basicColumn, same]
  · intro column inside
    exact cost_eq_of_basis representsSecond representsFirst shared inside

end SharedBasis

end Represents

namespace Simplex

variable {settings : Settings ℚ} {problem : Problem ℚ}

theorem final_represents (valid : problem.validate = .ok ()) (positive : 0 < settings.tolerance) :
    Represents problem (final settings problem) :=
  Represents.visited valid positive _ (final_mem settings problem)

theorem Answered.represents {solution : Solution ℚ}
    (answered : Answered settings problem solution) :
    Represents problem (final settings problem) :=
  final_represents answered.valid answered.positive

theorem Unlimited.represents {column : ℕ} (unlimited : Unlimited settings problem column) :
    Represents problem (final settings problem) :=
  final_represents unlimited.valid unlimited.positive

end Simplex

end LinearProgram
