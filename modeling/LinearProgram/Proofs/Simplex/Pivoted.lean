import LinearProgram.Proofs.Simplex.Represents

/-!
# Rows after any pivots

The pivots of this module need not be those that the method chooses. After any
sequence of them, each on a nonzero entry, a row is the combination of the first
rows that its own slack entries spell out, and the rows together have the solutions
of the problem with its slacks.
-/

namespace LinearProgram

open Finset Scalar

namespace Tableau

/-- The tableaux that pivots on nonzero entries lead to from the first tableau of
a problem. -/
inductive Pivoted (problem : Problem ℚ) : Tableau ℚ → Prop where
  | start : Pivoted problem (ofProblem problem)
  | pivot {tableau : Tableau ℚ} {row column : ℕ} (before : Pivoted problem tableau)
      (rowInside : row < problem.numConstraints)
      (columnInside : column < problem.numVariables + problem.numConstraints)
      (pivotable : tableau.cell row column ≠ 0) :
      Pivoted problem (tableau.pivot row column)

/-! ## Rows as combinations of the first rows -/

/-- Entry `n + k` of a row is its factor for row `k` of the first tableau. -/
structure Combined (problem : Problem ℚ) (tableau : Tableau ℚ) : Prop where
  row : ∀ row < problem.numConstraints,
    ∀ column ≤ problem.numVariables + problem.numConstraints,
      tableau.cell row column = ∑ index ∈ range problem.numConstraints,
        tableau.cell row (problem.numVariables + index) *
          (ofProblem problem).cell index column
  cost : ∀ column ≤ problem.numVariables + problem.numConstraints,
    tableau.costAt column = (ofProblem problem).costAt column +
      ∑ index ∈ range problem.numConstraints,
        tableau.costAt (problem.numVariables + index) * (ofProblem problem).cell index column

variable {problem : Problem ℚ} {tableau : Tableau ℚ}

theorem combined_of_problem (valid : problem.validate = .ok ()) :
    Combined problem (ofProblem problem) := by
  constructor
  · intro row rowInside column _
    rw [sum_eq_single row]
    · rw [cell_of_problem_slack valid rowInside rowInside, if_pos rfl, one_mul]
    · intro index indexInside different
      rw [cell_of_problem_slack valid rowInside (mem_range.mp indexInside), if_neg different,
        zero_mul]
    · intro outside
      exact absurd (mem_range.mpr rowInside) outside
  · intro column _
    rw [sum_eq_zero, add_zero]
    intro index _
    rw [cost_of_problem_rest problem (Nat.le_add_right _ _), zero_mul]

/-- A pivot takes the same multiple of its row off every entry of another row, the
slack entries included. -/
theorem Combined.pivot (combined : Combined problem tableau)
    (shaped : Shaped problem.numVariables problem.numConstraints tableau) {row column : ℕ}
    (rowInside : row < problem.numConstraints) :
    Combined problem (tableau.pivot row column) := by
  have slackInside {index : ℕ} (inside : index ∈ range problem.numConstraints) :
      problem.numVariables + index ≤ problem.numVariables + problem.numConstraints :=
    Nat.add_le_add_left (mem_range.mp inside).le _
  constructor
  · intro index indexInside position inside
    rw [pivot_cell shaped rowInside indexInside inside]
    split_ifs with same
    · rw [combined.row row rowInside position inside, ← sum_scaled]
      apply sum_congr rfl
      intro slack slackMember
      rw [pivot_cell shaped rowInside indexInside (slackInside slackMember), if_pos same]
    · rw [combined.row row rowInside position inside,
        combined.row index indexInside position inside, ← sum_cleared]
      apply sum_congr rfl
      intro slack slackMember
      rw [pivot_cell shaped rowInside indexInside (slackInside slackMember), if_neg same]
  · intro position inside
    rw [pivot_cost shaped rowInside inside, combined.row row rowInside position inside,
      combined.cost position inside, add_sub_assoc, ← sum_cleared]
    congr 1
    apply sum_congr rfl
    intro slack slackMember
    rw [pivot_cost shaped rowInside (slackInside slackMember)]

/-! ## Solutions of the rows -/

/-- The values, one for each column but the right-hand side, solve every constraint row. -/
def SolvedBy (tableau : Tableau ℚ) (values : List ℚ) : Prop :=
  ∀ row < tableau.rows.length,
    ∑ column ∈ range tableau.rhsColumn, tableau.cell row column * values.getD column 0 =
      tableau.rhs row

/-- Values for the columns, with minus one for the right-hand side. -/
def extended (width : ℕ) (values : List ℚ) (position : ℕ) : ℚ :=
  if position < width then values.getD position 0 else -1

theorem sum_mul_extended (form : ℕ → ℚ) (width : ℕ) (values : List ℚ) :
    ∑ position ∈ range (width + 1), form position * extended width values position =
      ∑ position ∈ range width, form position * values.getD position 0 - form width := by
  have front : ∑ position ∈ range width, form position * extended width values position =
      ∑ position ∈ range width, form position * values.getD position 0 := by
    apply sum_congr rfl
    intro position inside
    rw [extended, if_pos (mem_range.mp inside)]
  rw [sum_range_succ, front, extended, if_neg (lt_irrefl width), mul_neg_one, sub_eq_add_neg]

theorem balanced_extended_iff (tableau : Tableau ℚ) (values : List ℚ) :
    tableau.Balanced (extended tableau.rhsColumn values) ↔ tableau.SolvedBy values := by
  unfold Balanced SolvedBy
  apply forall₂_congr
  intro row _
  rw [rowValue, sum_mul_extended, sub_eq_zero]
  rfl

theorem cost_value_extended (tableau : Tableau ℚ) (values : List ℚ) :
    tableau.costValue (extended tableau.rhsColumn values) =
      ∑ column ∈ range tableau.rhsColumn, tableau.costAt column * values.getD column 0 -
        tableau.corner := by
  rw [costValue, sum_mul_extended]
  rfl

end Tableau

open Tableau

namespace Problem

variable {problem : Problem ℚ}

theorem structural_extended {values : List ℚ}
    (length : values.length = problem.numVariables + problem.numConstraints) :
    problem.structural (extended (problem.numVariables + problem.numConstraints) values) =
      values.take problem.numVariables := by
  apply List.ext_getElem
  · rw [structural_length, List.length_take, length, min_eq_left (Nat.le_add_right _ _)]
  · intro column inside _
    rw [structural_length] at inside
    simp only [structural, List.getElem_map, List.getElem_range, List.getElem_take, extended]
    rw [if_pos (by omega), List.getD_eq_getElem]

/-- Each row, with its slack added, is equal to its right-hand side. -/
def SolvedBy (problem : Problem ℚ) (values : List ℚ) : Prop :=
  ∀ row < problem.numConstraints,
    dot (problem.row row) (values.take problem.numVariables) +
      values.getD (problem.numVariables + row) 0 = problem.bound row

instance (problem : Problem ℚ) (values : List ℚ) : Decidable (problem.SolvedBy values) :=
  inferInstanceAs (Decidable (∀ row < problem.numConstraints,
    dot (problem.row row) (values.take problem.numVariables) +
      values.getD (problem.numVariables + row) 0 = problem.bound row))

theorem solved_by_of_problem_iff (valid : problem.validate = .ok ()) {values : List ℚ}
    (length : values.length = problem.numVariables + problem.numConstraints) :
    (ofProblem problem).SolvedBy values ↔ problem.SolvedBy values := by
  have shaped := shaped_of_problem valid
  rw [← balanced_extended_iff, shaped.rhs_column, Tableau.Balanced, shaped.rowCount]
  apply forall₂_congr
  intro row inside
  rw [row_value_of_problem valid inside, ← dot_structural valid inside,
    structural_extended length]
  simp only [extended, if_neg (lt_irrefl _)]
  rw [if_pos (Nat.add_lt_add_left inside _), mul_neg_one, ← sub_eq_add_neg, sub_eq_zero]

end Problem

namespace Represents

variable {problem : Problem ℚ} {tableau : Tableau ℚ}

theorem pivoted (valid : problem.validate = .ok ()) (pivoted : Pivoted problem tableau) :
    Represents problem tableau := by
  induction pivoted with
  | start => exact start valid
  | pivot _ rowInside columnInside pivotable ih =>
      exact ih.pivot rowInside columnInside pivotable

theorem solved_by_iff (represents : Represents problem tableau) (valid : problem.validate = .ok ())
    {values : List ℚ} (length : values.length = problem.numVariables + problem.numConstraints) :
    tableau.SolvedBy values ↔ problem.SolvedBy values := by
  rw [← Problem.solved_by_of_problem_iff valid length, ← balanced_extended_iff,
    ← balanced_extended_iff, represents.rhs_column, (shaped_of_problem valid).rhs_column]
  exact represents.sameVectors _

theorem objective_of_solution (represents : Represents problem tableau)
    (valid : problem.validate = .ok ()) {values : List ℚ}
    (length : values.length = problem.numVariables + problem.numConstraints)
    (solved : tableau.SolvedBy values) :
    problem.objectiveValue (values.take problem.numVariables) =
      tableau.corner -
        ∑ column ∈ range (problem.numVariables + problem.numConstraints),
          tableau.costAt column * values.getD column 0 := by
  have balanced := (balanced_extended_iff tableau values).mpr solved
  have cost := represents.sameCost _ balanced
  rw [cost_value_extended, represents.rhs_column] at cost
  rw [← Problem.structural_extended length, Problem.objective_structural valid, ← cost, neg_sub]

end Represents

namespace Tableau

variable {problem : Problem ℚ} {tableau : Tableau ℚ}

theorem Pivoted.combined (pivoted : Pivoted problem tableau)
    (valid : problem.validate = .ok ()) : Combined problem tableau := by
  induction pivoted with
  | start => exact combined_of_problem valid
  | pivot before rowInside _ _ ih =>
      exact ih.pivot (Represents.pivoted valid before).toShaped rowInside

/-- After any pivots on nonzero entries the rows are combinations of the first rows,
with their own slack entries as factors. Together they have the solutions of the
problem, and at each of these the cost row gives the objective. -/
theorem pivoted_rows (valid : problem.validate = .ok ()) (pivoted : Pivoted problem tableau) :
    (∀ row < problem.numConstraints,
      ∀ column ≤ problem.numVariables + problem.numConstraints,
        tableau.cell row column = ∑ index ∈ range problem.numConstraints,
          tableau.cell row (problem.numVariables + index) *
            (ofProblem problem).cell index column) ∧
      (∀ column ≤ problem.numVariables + problem.numConstraints,
        tableau.costAt column = (ofProblem problem).costAt column +
          ∑ index ∈ range problem.numConstraints,
            tableau.costAt (problem.numVariables + index) *
              (ofProblem problem).cell index column) ∧
      ∀ values : List ℚ, values.length = problem.numVariables + problem.numConstraints →
        (tableau.SolvedBy values ↔ problem.SolvedBy values) ∧
          (tableau.SolvedBy values →
            problem.objectiveValue (values.take problem.numVariables) =
              tableau.corner -
                ∑ column ∈ range (problem.numVariables + problem.numConstraints),
                  tableau.costAt column * values.getD column 0) := by
  have combined := pivoted.combined valid
  have represents := Represents.pivoted valid pivoted
  refine ⟨combined.row, combined.cost, ?_⟩
  intro values length
  exact ⟨represents.solved_by_iff valid length, represents.objective_of_solution valid length⟩

def threeRows : Problem ℚ :=
  ⟨[3, 5], [[1, 0], [0, 2], [3, 2]], [4, 12, 18]⟩

/-- Two pivots, the second on the entry `-1/3`. -/
def crossed : Tableau ℚ :=
  ((ofProblem threeRows).pivot 2 0).pivot 0 4

theorem pivoted_crossed : Pivoted threeRows crossed := by
  have first : Pivoted threeRows ((ofProblem threeRows).pivot 2 0) :=
    .pivot .start (by decide) (by decide) (by decide +kernel)
  exact .pivot first (by decide) (by decide) (by decide +kernel)

/-- The last row of `crossed` has the slack entries `1, 0, 0`: it is the first row of
the problem again. -/
theorem pivoted_rows_crossed :
    (∀ column ≤ 5, crossed.cell 2 column = (ofProblem threeRows).cell 0 column) ∧
      crossed.SolvedBy [2, 6, 2, 0, 0] ∧
      threeRows.objectiveValue [2, 6] = crossed.corner + 24 := by
  have valid : threeRows.validate = .ok () := by decide
  obtain ⟨rows, _, solutions⟩ := pivoted_rows valid pivoted_crossed
  obtain ⟨solved_iff, objective⟩ := solutions [2, 6, 2, 0, 0] rfl
  have solved : crossed.SolvedBy [2, 6, 2, 0, 0] := solved_iff.mpr (by decide +kernel)
  have slackEntries : crossed.cell 2 2 = 1 ∧ crossed.cell 2 3 = 0 ∧ crossed.cell 2 4 = 0 := by
    decide +kernel
  have costs : ∑ column ∈ range 5, crossed.costAt column * [2, 6, 2, 0, 0].getD column 0 =
      -24 := by decide +kernel
  refine ⟨?_, solved, ?_⟩
  · intro column inside
    have row := rows 2 (by decide) column inside
    have count : threeRows.numConstraints = 3 := rfl
    have width : threeRows.numVariables = 2 := rfl
    simpa [count, width, sum_range_succ, slackEntries] using row
  · have value := objective solved
    have width : threeRows.numVariables + threeRows.numConstraints = 5 := rfl
    rw [width, costs, sub_neg_eq_add] at value
    exact value

end Tableau

end LinearProgram
