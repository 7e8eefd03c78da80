import LinearProgram.Proofs.Simplex.Pivoted

/-!
# Different pivots to the same basis

The pivots that led to a tableau leave no trace in it but the basis. When two tableaux
have the same basic columns, in any order, their cost rows are the same, and so are the
two rows that hold a basic column. A pivot can therefore be taken back: the column that
it put out of the basis enters again in the same row.
-/

namespace LinearProgram

open Tableau

namespace Represents

variable {problem : Problem ℚ} {first second tableau : Tableau ℚ}

theorem row_eq_of_basis (representsFirst : Represents problem first)
    (representsSecond : Represents problem second)
    (shared : ∀ column ∈ second.basis, column ∈ first.basis) {row other : ℕ}
    (rowInside : row < problem.numConstraints) (otherInside : other < problem.numConstraints)
    (same : second.basicColumn other = first.basicColumn row) :
    first.rows.getD row [] = second.rows.getD other [] := by
  apply row_eq_of_cells representsFirst.toShaped representsSecond.toShaped rowInside otherInside
  intro column inside
  exact cell_eq_of_basis representsSecond representsFirst shared otherInside rowInside same inside

theorem cost_row_eq_of_basis (representsFirst : Represents problem first)
    (representsSecond : Represents problem second)
    (shared : ∀ column ∈ second.basis, column ∈ first.basis) : first.cost = second.cost := by
  apply eq_of_entries representsFirst.costWidth representsSecond.costWidth
  intro column inside
  exact cost_eq_of_basis representsSecond representsFirst shared inside

/-- A column that is basic takes the right-hand side of the row that holds it, which is
the same row in both tableaux; any other column is zero in both. -/
theorem basic_point_eq_of_basis (representsFirst : Represents problem first)
    (representsSecond : Represents problem second)
    (same : ∀ column, column ∈ first.basis ↔ column ∈ second.basis) {position : ℕ}
    (inside : position < problem.numVariables + problem.numConstraints) :
    first.basicPoint position = second.basicPoint position := by
  have shared : ∀ column ∈ second.basis, column ∈ first.basis := fun column => (same column).mpr
  by_cases basic : position ∈ first.basis
  · obtain ⟨row, rowInside, rfl⟩ := (mem_basis_iff representsFirst.toShaped _).mp basic
    obtain ⟨other, otherInside, holds⟩ :=
      (mem_basis_iff representsSecond.toShaped _).mp ((same _).mp basic)
    have rhs := cell_eq_of_basis representsSecond representsFirst shared otherInside rowInside
      holds le_rfl
    rw [← holds, basic_point_basic representsSecond.toCanonical otherInside, holds,
      basic_point_basic representsFirst.toCanonical rowInside, Tableau.rhs, Tableau.rhs,
      representsFirst.rhs_column, representsSecond.rhs_column, rhs]
  · have firstNonbasic : ∀ row < problem.numConstraints, first.basicColumn row ≠ position := by
      intro row rowInside holds
      exact basic ((mem_basis_iff representsFirst.toShaped _).mpr ⟨row, rowInside, holds⟩)
    have secondNonbasic : ∀ row < problem.numConstraints, second.basicColumn row ≠ position := by
      intro row rowInside holds
      exact basic (shared _
        ((mem_basis_iff representsSecond.toShaped _).mpr ⟨row, rowInside, holds⟩))
    rw [basic_point_nonbasic representsFirst.toShaped inside firstNonbasic,
      basic_point_nonbasic representsSecond.toShaped inside secondNonbasic]

theorem values_eq_of_basis (representsFirst : Represents problem first)
    (representsSecond : Represents problem second)
    (same : ∀ column, column ∈ first.basis ↔ column ∈ second.basis) :
    first.values = second.values := by
  rw [representsFirst.values_eq, representsSecond.values_eq]
  apply List.map_congr_left
  intro column member
  have inside := List.mem_range.mp member
  exact basic_point_eq_of_basis representsFirst representsSecond same
    (Nat.lt_add_right _ inside)

/-! ## Taking a pivot back -/

/-- The column that leaves the basis becomes the pivot column divided by the pivot: its
entry in the pivot row is one over the pivot. -/
theorem pivot_old_cell (represents : Represents problem tableau) {row : ℕ} (column : ℕ)
    (rowInside : row < problem.numConstraints) :
    (tableau.pivot row column).cell row (tableau.basicColumn row) =
      1 / tableau.cell row column := by
  have inside := (represents.basic_column_lt rowInside).le
  rw [pivot_cell represents.toShaped rowInside rowInside inside, if_pos rfl,
    represents.unit row rowInside row rowInside, if_pos rfl]

theorem pivot_back_basis (represents : Represents problem tableau) {row : ℕ} (column : ℕ)
    (rowInside : row < problem.numConstraints) :
    ((tableau.pivot row column).pivot row (tableau.basicColumn row)).basis = tableau.basis := by
  have inBasis : row < tableau.basis.length := represents.basisCount.symm ▸ rowInside
  change (tableau.basis.set row column).set row (tableau.basicColumn row) = tableau.basis
  rw [List.set_set, basicColumn, List.getD_eq_getElem _ _ inBasis, List.set_getElem_self]

theorem pivot_back (represents : Represents problem tableau) {row column : ℕ}
    (rowInside : row < problem.numConstraints)
    (columnInside : column < problem.numVariables + problem.numConstraints)
    (pivotable : tableau.cell row column ≠ 0) :
    (tableau.pivot row column).pivot row (tableau.basicColumn row) = tableau := by
  have forth := represents.pivot rowInside columnInside pivotable
  have oldInside := represents.basic_column_lt rowInside
  have old_ne_zero : (tableau.pivot row column).cell row (tableau.basicColumn row) ≠ 0 := by
    rw [represents.pivot_old_cell column rowInside]
    exact one_div_ne_zero pivotable
  have back := forth.pivot rowInside oldInside old_ne_zero
  exact eq_of_basis back represents (represents.pivot_back_basis column rowInside)

end Represents

namespace Tableau

variable {problem : Problem ℚ} {first second : Tableau ℚ}

/-- Two ways of pivoting on nonzero entries that end with the same basic columns, in any
order, end with the same cost row, the same values, and the same row for each basic
column. One more pivot is undone by pivoting on the column that it put out. -/
theorem basis_determines_tableau (valid : problem.validate = .ok ())
    (firstPivoted : Pivoted problem first) (secondPivoted : Pivoted problem second)
    (same : first.basis.Perm second.basis) :
    first.cost = second.cost ∧
      (∀ column row other : ℕ, first.basis[row]? = some column →
        second.basis[other]? = some column →
        ∃ cells, first.rows[row]? = some cells ∧ second.rows[other]? = some cells) ∧
      first.values = second.values ∧
      ∀ row < problem.numConstraints,
        ∀ column < problem.numVariables + problem.numConstraints, first.cell row column ≠ 0 →
          (first.pivot row column).cell row (first.basicColumn row) ≠ 0 ∧
            (first.pivot row column).pivot row (first.basicColumn row) = first := by
  have representsFirst := Represents.pivoted valid firstPivoted
  have representsSecond := Represents.pivoted valid secondPivoted
  have shared : ∀ column ∈ second.basis, column ∈ first.basis := fun _ => same.mem_iff.mpr
  refine ⟨representsFirst.cost_row_eq_of_basis representsSecond shared, ?_,
    representsFirst.values_eq_of_basis representsSecond fun _ => same.mem_iff, ?_⟩
  · intro column row other isRow isOther
    obtain ⟨rowInside, holds⟩ := representsFirst.basis_get isRow
    obtain ⟨otherInside, otherHolds⟩ := representsSecond.basis_get isOther
    have rows := representsFirst.row_eq_of_basis representsSecond shared rowInside otherInside
      (otherHolds.trans holds.symm)
    refine ⟨first.rows.getD row [], representsFirst.row_get rowInside, ?_⟩
    rw [rows]
    exact representsSecond.row_get otherInside
  · intro row rowInside column columnInside pivotable
    constructor
    · rw [representsFirst.pivot_old_cell column rowInside]
      exact one_div_ne_zero pivotable
    · exact representsFirst.pivot_back rowInside columnInside pivotable

/-- One pivot instead of the two of `crossed`. -/
def direct : Tableau ℚ :=
  (ofProblem threeRows).pivot 0 0

theorem pivoted_direct : Pivoted threeRows direct :=
  .pivot .start (by decide) (by decide) (by decide +kernel)

/-- The first and the last row have changed places. -/
theorem basis_determines_tableau_crossed :
    crossed.basis = [4, 3, 0] ∧ direct.basis = [0, 3, 4] ∧ crossed.cost = direct.cost ∧
      (∃ cells, crossed.rows[2]? = some cells ∧ direct.rows[0]? = some cells) ∧
      crossed.values = direct.values ∧ (crossed.pivot 1 1).pivot 1 3 = crossed := by
  have valid : threeRows.validate = .ok () := by decide
  have crossedBasis : crossed.basis = [4, 3, 0] := by decide +kernel
  have directBasis : direct.basis = [0, 3, 4] := by decide +kernel
  have same : crossed.basis.Perm direct.basis := by
    rw [crossedBasis, directBasis]
    decide
  obtain ⟨cost, rows, values, undone⟩ :=
    basis_determines_tableau valid pivoted_crossed pivoted_direct same
  refine ⟨crossedBasis, directBasis, cost, ?_, values, ?_⟩
  · apply rows 0
    · rw [crossedBasis]
      rfl
    · rw [directBasis]
      rfl
  · have pivotable : crossed.cell 1 1 ≠ 0 := by decide +kernel
    have held : crossed.basicColumn 1 = 3 := by
      rw [basicColumn, crossedBasis]
      rfl
    rw [← held]
    exact (undone 1 (by decide) 1 (by decide) pivotable).2

end Tableau

end LinearProgram
