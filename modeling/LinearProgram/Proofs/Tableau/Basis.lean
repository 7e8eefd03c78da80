import LinearProgram.Proofs.Tableau.Equations

/-!
# A basis determines the tableau

Two tableaux with the same balanced vectors and the same costs at them differ
only by the choice of the basic columns. Where the basic columns are the same, so
are the cost row and, for each basic column, the row that holds it.
-/

namespace LinearProgram.Tableau

open Finset

section Shape

variable {α : Type} {n m : ℕ} {tableau first second : Tableau α}

theorem mem_basis_iff (shaped : Shaped n m tableau) (column : ℕ) :
    column ∈ tableau.basis ↔ ∃ row < m, tableau.basicColumn row = column := by
  rw [List.mem_iff_getElem]
  constructor
  · rintro ⟨row, inside, found⟩
    refine ⟨row, shaped.basisCount ▸ inside, ?_⟩
    rw [basicColumn, List.getD_eq_getElem _ _ inside, found]
  · rintro ⟨row, inside, found⟩
    rw [← shaped.basisCount] at inside
    refine ⟨row, inside, ?_⟩
    rw [← List.getD_eq_getElem _ 0, ← found, basicColumn]

theorem Shaped.row_get (shaped : Shaped n m tableau) {row : ℕ} (inside : row < m) :
    tableau.rows[row]? = some (tableau.rows.getD row []) := by
  rw [← shaped.rowCount] at inside
  rw [List.getD_eq_getElem _ _ inside, List.getElem?_eq_getElem inside]

/-- A place of the basis is a constraint row, and the column there is basic in it. -/
theorem Shaped.basis_get (shaped : Shaped n m tableau) {row column : ℕ}
    (found : tableau.basis[row]? = some column) :
    row < m ∧ tableau.basicColumn row = column := by
  obtain ⟨inside, holds⟩ := List.getElem?_eq_some_iff.mp found
  rw [basicColumn, List.getD_eq_getElem _ _ inside]
  exact ⟨shaped.basisCount ▸ inside, holds⟩

theorem eq_of_entries [Scalar α] {width : ℕ} {first second : List α}
    (firstLength : first.length = width + 1) (secondLength : second.length = width + 1)
    (entries : ∀ column ≤ width, entry first column = entry second column) : first = second := by
  apply List.ext_getElem (by rw [firstLength, secondLength])
  intro column inFirst inSecond
  have same := entries column (by omega)
  rw [entry, entry, List.getD_eq_getElem _ _ inFirst, List.getD_eq_getElem _ _ inSecond] at same
  exact same

theorem row_eq_of_cells [Scalar α] (firstShaped : Shaped n m first)
    (secondShaped : Shaped n m second) {row other : ℕ} (rowInside : row < m)
    (otherInside : other < m)
    (cells : ∀ column ≤ n + m, first.cell row column = second.cell other column) :
    first.rows.getD row [] = second.rows.getD other [] :=
  eq_of_entries (firstShaped.row_length rowInside) (secondShaped.row_length otherInside) cells

theorem eq_of_cells [Scalar α] (firstShaped : Shaped n m first) (secondShaped : Shaped n m second)
    (cells : ∀ row < m, ∀ column ≤ n + m, first.cell row column = second.cell row column)
    (costs : ∀ column ≤ n + m, first.costAt column = second.costAt column)
    (basis : first.basis = second.basis) : first = second := by
  have rows : first.rows = second.rows := by
    apply List.ext_getElem (by rw [firstShaped.rowCount, secondShaped.rowCount])
    intro row inFirst inSecond
    have inside : row < m := firstShaped.rowCount ▸ inFirst
    rw [← List.getD_eq_getElem _ [], ← List.getD_eq_getElem _ []]
    exact row_eq_of_cells firstShaped secondShaped inside inside (cells row inside)
  have cost : first.cost = second.cost :=
    eq_of_entries firstShaped.costWidth secondShaped.costWidth costs
  have variableCount : first.numVariables = second.numVariables := by
    rw [firstShaped.variableCount, secondShaped.variableCount]
  cases first
  cases second
  dsimp only at rows cost basis variableCount
  rw [rows, cost, basis, variableCount]

end Shape

variable {n m : ℕ} {first second : Tableau ℚ}

/-- Read a row of the second tableau at the vector that the first one gives to a
column: it vanishes there, and of the basic columns only its own contributes. -/
theorem cell_eq_of_shared_basis (firstCanonical : Canonical n m first)
    (secondCanonical : Canonical n m second)
    (vectors : ∀ vector, first.Balanced vector → second.Balanced vector)
    (shared : ∀ column ∈ first.basis, column ∈ second.basis) {row other : ℕ}
    (rowInside : row < m) (otherInside : other < m)
    (same : first.basicColumn row = second.basicColumn other) {column : ℕ}
    (inside : column ≤ n + m) : second.cell other column = first.cell row column := by
  have balanced := vectors _ (direction_balanced firstCanonical inside) other
    (by rw [secondCanonical.rowCount]; exact otherInside)
  have spread := sum_mul_direction firstCanonical.toShaped (second.cell other) inside
  have basic : ∑ index ∈ range m, second.cell other (first.basicColumn index) *
      first.cell index column = first.cell row column := by
    rw [sum_eq_single row]
    · rw [same, secondCanonical.unit other otherInside other otherInside, if_pos rfl, one_mul]
    · intro index indexInside different
      rw [mem_range] at indexInside
      have member := (mem_basis_iff firstCanonical.toShaped _).mpr ⟨index, indexInside, rfl⟩
      obtain ⟨holder, holderInside, holds⟩ :=
        (mem_basis_iff secondCanonical.toShaped _).mp (shared _ member)
      rw [← holds, secondCanonical.unit other otherInside holder holderInside, if_neg, zero_mul]
      intro isOther
      rw [← isOther, ← same] at holds
      exact different
        (firstCanonical.basic_column_injective rowInside indexInside holds).symm
    · intro outside
      exact absurd (mem_range.mpr rowInside) outside
  rw [rowValue, secondCanonical.rhs_column, ← firstCanonical.rhs_column, spread, basic] at balanced
  exact sub_eq_zero.mp balanced

theorem cost_eq_of_shared_basis (firstCanonical : Canonical n m first)
    (secondCanonical : Canonical n m second)
    (costs : ∀ vector, first.Balanced vector → second.costValue vector = first.costValue vector)
    (shared : ∀ column ∈ first.basis, column ∈ second.basis) {column : ℕ}
    (inside : column ≤ n + m) : second.costAt column = first.costAt column := by
  have value := costs _ (direction_balanced firstCanonical inside)
  have spread := sum_mul_direction firstCanonical.toShaped second.costAt inside
  have basic : ∑ index ∈ range m, second.costAt (first.basicColumn index) *
      first.cell index column = 0 := by
    apply sum_eq_zero
    intro index indexInside
    have member := (mem_basis_iff firstCanonical.toShaped _).mpr
      ⟨index, mem_range.mp indexInside, rfl⟩
    obtain ⟨holder, holderInside, holds⟩ :=
      (mem_basis_iff secondCanonical.toShaped _).mp (shared _ member)
    rw [← holds, secondCanonical.free holder holderInside, zero_mul]
  rw [direction_cost firstCanonical inside, costValue, secondCanonical.rhs_column,
    ← firstCanonical.rhs_column, spread, basic, sub_zero] at value
  exact value

end LinearProgram.Tableau
