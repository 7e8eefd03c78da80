import LinearProgram.Proofs.Simplex.Pivoted

/-!
# The basic solution

After any pivots on nonzero entries the basis names different columns, each of them
a unit column without cost. What is read off such a tableau solves the problem
exactly: the variables by `values`, the slacks by the rows that hold them. The
objective of these values is the corner.
-/

namespace LinearProgram

open Finset Scalar

namespace Tableau

variable {n m : ℕ} {tableau : Tableau ℚ} {tolerance : ℚ}

/-- The slack of a constraint: the right-hand side of the row that holds it, and zero
if no row does. -/
def slackValue (tableau : Tableau ℚ) (index : ℕ) : ℚ :=
  match tableau.basis.idxOf? (tableau.numVariables + index) with
  | some row => tableau.rhs row
  | none => 0

theorem slack_value_eq (canonical : Canonical n m tableau) {index : ℕ} (inside : index < m) :
    tableau.slackValue index = tableau.basicPoint (n + index) := by
  have columnInside : n + index < n + m := Nat.add_lt_add_left inside n
  unfold slackValue
  rw [canonical.variableCount]
  split
  · next row found =>
    obtain ⟨rowInBasis, holds, _⟩ := List.idxOf?_eq_some_iff.mp found
    have rowInside : row < m := canonical.basisCount ▸ rowInBasis
    have basic : tableau.basicColumn row = n + index := by
      rw [basicColumn, List.getD_eq_getElem _ _ rowInBasis, holds]
    rw [← basic, basic_point_basic canonical rowInside]
  · next missing =>
    rw [List.idxOf?_eq_none_iff, mem_basis_iff canonical.toShaped] at missing
    rw [basic_point_nonbasic canonical.toShaped columnInside]
    intro row rowInside same
    exact missing ⟨row, rowInside, same⟩

/-- A basic column costs nothing, so it never enters. -/
theorem entering_column_nonbasic (canonical : Canonical n m tableau) (positive : 0 < tolerance)
    {column : ℕ} (entering : tableau.enteringColumn tolerance = some column) :
    column ∉ tableau.basis := by
  intro basic
  obtain ⟨row, inside, rfl⟩ := (mem_basis_iff canonical.toShaped column).mp basic
  have costly := (entering_column_some canonical.toShaped entering).2
  rw [canonical.free row inside] at costly
  linarith

end Tableau

open Tableau

namespace Represents

variable {problem : Problem ℚ} {tableau : Tableau ℚ}

theorem dot_row_values (represents : Represents problem tableau)
    (valid : problem.validate = .ok ()) {row : ℕ} (inside : row < problem.numConstraints) :
    dot (problem.row row) tableau.values + tableau.slackValue row = problem.bound row := by
  have isPoint := basic_point_rhs_column represents.toShaped
  rw [slack_value_eq represents.toCanonical inside, represents.values_eq,
    Problem.dot_row_structural valid represents.basic_point_balanced inside, isPoint]
  ring

end Represents

namespace Tableau

variable {problem : Problem ℚ} {tableau : Tableau ℚ}

/-- After any pivots on nonzero entries the basis is a list of different columns, all
of them unit columns, and none of them can enter. The values and slacks that are read
off meet every right-hand side exactly, and the corner is their objective. -/
theorem pivoted_basic_solution (valid : problem.validate = .ok ())
    (pivoted : Pivoted problem tableau) :
    (tableau.basis.length = problem.numConstraints ∧ tableau.basis.Nodup ∧
        ∀ column ∈ tableau.basis, column < problem.numVariables + problem.numConstraints) ∧
      (∀ row < problem.numConstraints, tableau.costAt (tableau.basicColumn row) = 0 ∧
        ∀ other < problem.numConstraints,
          tableau.cell other (tableau.basicColumn row) = if other = row then 1 else 0) ∧
      (∀ tolerance, 0 < tolerance → ∀ column ∈ tableau.enteringColumn tolerance,
        column ∉ tableau.basis) ∧
      (∀ row < problem.numConstraints,
        dot (problem.row row) tableau.values + tableau.slackValue row = problem.bound row) ∧
      problem.objectiveValue tableau.values = tableau.corner := by
  have represents := Represents.pivoted valid pivoted
  have canonical := represents.toCanonical
  refine ⟨⟨canonical.basisCount, canonical.basis_nodup, canonical.basisInside⟩, ?_, ?_, ?_,
    represents.objective_value_values valid⟩
  · intro row inside
    refine ⟨canonical.free row inside, ?_⟩
    intro other otherInside
    exact canonical.unit other otherInside row inside
  · intro tolerance positive column entering
    exact entering_column_nonbasic canonical positive entering
  · intro row inside
    exact represents.dot_row_values valid inside

/-- The slack of the first row is not basic, the other two are. -/
theorem pivoted_basic_solution_crossed :
    crossed.basis = [4, 3, 0] ∧ crossed.values = [4, 0] ∧
      [crossed.slackValue 0, crossed.slackValue 1, crossed.slackValue 2] = [0, 12, 6] ∧
      (∀ row < 3, dot (threeRows.row row) [4, 0] + crossed.slackValue row =
        threeRows.bound row) ∧
      threeRows.objectiveValue [4, 0] = crossed.corner := by
  have values : crossed.values = [4, 0] := by decide +kernel
  obtain ⟨_, _, _, rows, objective⟩ :=
    pivoted_basic_solution (by decide : threeRows.validate = .ok ()) pivoted_crossed
  rw [values] at rows objective
  exact ⟨by decide +kernel, values, by decide +kernel, rows, objective⟩

end Tableau

end LinearProgram
