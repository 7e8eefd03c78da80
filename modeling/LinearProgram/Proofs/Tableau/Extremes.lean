import Mathlib.Order.Bounds.Basic
import LinearProgram.Proofs.Tableau.Choice

/-!
# The chosen pivot as a first minimum

Among the columns before the right-hand side the entering one is the first of least
cost, and among the rows above the tolerance the leaving one is the first of least
ratio. Nothing is asked of the basis: the choices read the entries alone.
-/

namespace LinearProgram.Tableau

variable {tableau : Tableau ℚ}

/-- The constraint rows and the cost row have an entry for each variable, each slack and
the right-hand side. -/
structure Rectangular (tableau : Tableau ℚ) : Prop where
  rowWidth : ∀ row ∈ tableau.rows, row.length = tableau.rhsColumn + 1
  costWidth : tableau.cost.length = tableau.rhsColumn + 1

/-- The least of the indices at which the key is least. -/
def IsFirstMinimum (admitted : Set ℕ) (key : ℕ → ℚ) (index : ℕ) : Prop :=
  IsLeast {candidate ∈ admitted | ∀ other ∈ admitted, key candidate ≤ key other} index

/-- The rows that the ratio test looks at. -/
def limitingRows (tolerance : ℚ) (tableau : Tableau ℚ) (column : ℕ) : Set ℕ :=
  {row | row < tableau.rows.length ∧ tolerance < tableau.cell row column}

/-- How far a row lets a column rise. -/
def ratioAt (tableau : Tableau ℚ) (column row : ℕ) : ℚ :=
  tableau.rhs row / tableau.cell row column

theorem is_first_minimum_of_earlier {admitted : Set ℕ} {key : ℕ → ℚ} {index : ℕ}
    (member : index ∈ admitted) (least : ∀ other ∈ admitted, key index ≤ key other)
    (first : ∀ other ∈ admitted, other < index → key index < key other) :
    IsFirstMinimum admitted key index := by
  refine ⟨⟨member, least⟩, ?_⟩
  rintro other ⟨otherMember, otherLeast⟩
  by_contra earlier
  have below := first other otherMember (not_le.mp earlier)
  exact absurd (otherLeast index member) (not_le.mpr below)

/-- The choices do not see the basis, so the slacks may stand for it. -/
theorem Rectangular.shaped (rectangular : tableau.Rectangular) :
    Shaped tableau.numVariables tableau.rows.length
      { tableau with
        basis := (List.range tableau.rows.length).map (tableau.numVariables + ·) } := by
  refine ⟨rfl, rfl, rectangular.rowWidth, rectangular.costWidth, by simp, ?_⟩
  intro column member
  obtain ⟨row, inside, rfl⟩ := List.mem_map.mp member
  exact Nat.add_lt_add_left (List.mem_range.mp inside) _

theorem Rectangular.entering_column_is_some_iff (rectangular : tableau.Rectangular)
    (tolerance : ℚ) :
    (tableau.enteringColumn tolerance).isSome = true ↔
      ∃ column < tableau.rhsColumn, tableau.costAt column < -tolerance := by
  rw [Option.isSome_iff_exists]
  constructor
  · rintro ⟨column, chosen⟩
    exact ⟨column, entering_column_some rectangular.shaped chosen⟩
  · rintro ⟨column, inside, costly⟩
    cases chosen : tableau.enteringColumn tolerance with
    | none =>
        have cheap := entering_column_none rectangular.shaped chosen inside
        exact absurd costly (not_lt.mpr cheap)
    | some other => exact ⟨other, rfl⟩

theorem Rectangular.entering_column_first (rectangular : tableau.Rectangular) {tolerance : ℚ}
    {column : ℕ} (chosen : tableau.enteringColumn tolerance = some column) :
    IsFirstMinimum {column | column < tableau.rhsColumn} tableau.costAt column := by
  have inside := (entering_column_some rectangular.shaped chosen).1
  obtain ⟨least, first⟩ := entering_column_least rectangular.shaped chosen
  exact is_first_minimum_of_earlier inside least fun other _ earlier => first other earlier

theorem Rectangular.leaving_row_is_some_iff (rectangular : tableau.Rectangular) (tolerance : ℚ)
    (column : ℕ) :
    (tableau.leavingRow tolerance column).isSome = true ↔
      ∃ row < tableau.rows.length, tolerance < tableau.cell row column := by
  rw [Option.isSome_iff_exists]
  constructor
  · rintro ⟨row, chosen⟩
    obtain ⟨inside, large, _⟩ := leaving_row_some rectangular.shaped chosen
    exact ⟨row, inside, large⟩
  · rintro ⟨row, inside, large⟩
    cases chosen : tableau.leavingRow tolerance column with
    | none =>
        have small := leaving_row_none rectangular.shaped chosen inside
        exact absurd large (not_lt.mpr small)
    | some other => exact ⟨other, rfl⟩

theorem Rectangular.leaving_row_first (rectangular : tableau.Rectangular) {tolerance : ℚ}
    {column row : ℕ} (chosen : tableau.leavingRow tolerance column = some row) :
    IsFirstMinimum (tableau.limitingRows tolerance column) (tableau.ratioAt column) row := by
  obtain ⟨inside, large, least⟩ := leaving_row_some rectangular.shaped chosen
  have first := Tableau.leaving_row_first rectangular.shaped chosen
  have member : row ∈ tableau.limitingRows tolerance column := ⟨inside, large⟩
  apply is_first_minimum_of_earlier member
  · rintro other ⟨otherInside, otherLarge⟩
    exact least other otherInside otherLarge
  · rintro other ⟨_, otherLarge⟩ earlier
    exact first other earlier otherLarge

/-- A column enters exactly when one before the right-hand side costs less than minus the
tolerance, and then it is the first of least cost. A row leaves exactly when one has an
entry above the tolerance, and then it is the first of least ratio among those. -/
theorem choices_first_minima (rectangular : tableau.Rectangular) (tolerance : ℚ) :
    ((tableau.enteringColumn tolerance).isSome = true ↔
        ∃ column < tableau.rhsColumn, tableau.costAt column < -tolerance) ∧
      (∀ column, tableau.enteringColumn tolerance = some column →
        IsFirstMinimum {column | column < tableau.rhsColumn} tableau.costAt column) ∧
      ∀ column,
        ((tableau.leavingRow tolerance column).isSome = true ↔
          ∃ row < tableau.rows.length, tolerance < tableau.cell row column) ∧
        ∀ row, tableau.leavingRow tolerance column = some row →
          IsFirstMinimum (tableau.limitingRows tolerance column) (tableau.ratioAt column) row := by
  refine ⟨rectangular.entering_column_is_some_iff tolerance, ?_, ?_⟩
  · intro column chosen
    exact rectangular.entering_column_first chosen
  · intro column
    refine ⟨rectangular.leaving_row_is_some_iff tolerance column, ?_⟩
    intro row chosen
    exact rectangular.leaving_row_first chosen

/-- Two columns of least cost beside a smaller corner, and in the first of them two rows of
least ratio, a negative one, beside a row in the tolerance band. -/
def tiedChoices : Tableau ℚ where
  numVariables := 2
  rows := [[1 / 4, 1, 1, 0, 0, 0, -9], [1, 2, 0, 1, 0, 0, -1], [2, 0, 0, 0, 1, 0, -2],
    [1, 0, 0, 0, 0, 1, 5]]
  cost := [-3, 1, -3, 0, 0, 0, -7]
  basis := [2, 3, 4, 5]

/-- The first of each pair is chosen, and neither the corner nor the row in the band. -/
theorem choices_first_minima_of_ties :
    tiedChoices.Rectangular ∧ tiedChoices.enteringColumn (1 / 2) = some 0 ∧
      tiedChoices.leavingRow (1 / 2) 0 = some 1 ∧
      IsFirstMinimum {column | column < 6} tiedChoices.costAt 0 ∧
      IsFirstMinimum (tiedChoices.limitingRows (1 / 2) 0) (tiedChoices.ratioAt 0) 1 := by
  have rectangular : tiedChoices.Rectangular := ⟨by decide, by decide⟩
  have entering : tiedChoices.enteringColumn (1 / 2) = some 0 := by decide +kernel
  have leaving : tiedChoices.leavingRow (1 / 2) 0 = some 1 := by decide +kernel
  obtain ⟨_, columns, rows⟩ := choices_first_minima rectangular (1 / 2)
  exact ⟨rectangular, entering, leaving, columns 0 entering, (rows 0).2 1 leaving⟩

end LinearProgram.Tableau
