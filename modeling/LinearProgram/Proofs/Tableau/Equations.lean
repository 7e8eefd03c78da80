import LinearProgram.Proofs.Tableau.Shape

/-!
# The equations of a tableau

A vector gives a value to every column, the right-hand side included: minus one
there makes it a point, zero a direction. A tableau asks each of its constraint
rows to vanish at the vector. Pivots on a nonzero entry keep the vectors that do
so and the cost of each of them. While the basic columns are unit columns, each
column gives one such vector: it raises that column alone and lets the basic
columns follow.
-/

namespace LinearProgram.Tableau

open Finset

variable {n m : ℕ} {tableau : Tableau ℚ}

def rowValue (tableau : Tableau ℚ) (row : ℕ) (vector : ℕ → ℚ) : ℚ :=
  ∑ column ∈ range (tableau.rhsColumn + 1), tableau.cell row column * vector column

def costValue (tableau : Tableau ℚ) (vector : ℕ → ℚ) : ℚ :=
  ∑ column ∈ range (tableau.rhsColumn + 1), tableau.costAt column * vector column

def Balanced (tableau : Tableau ℚ) (vector : ℕ → ℚ) : Prop :=
  ∀ row < tableau.rows.length, tableau.rowValue row vector = 0

/-! ## Pivots keep the equations -/

theorem sum_scaled (width : ℕ) (entries vector : ℕ → ℚ) (divisor : ℚ) :
    ∑ column ∈ range width, entries column / divisor * vector column =
      (∑ column ∈ range width, entries column * vector column) / divisor := by
  rw [sum_div]
  apply sum_congr rfl
  intro column _
  ring

theorem sum_cleared (width : ℕ) (target source vector : ℕ → ℚ) (divisor factor : ℚ) :
    ∑ column ∈ range width, (target column - source column / divisor * factor) * vector column =
      ∑ column ∈ range width, target column * vector column -
        (∑ column ∈ range width, source column * vector column) / divisor * factor := by
  rw [← sum_scaled, sum_mul, ← sum_sub_distrib]
  apply sum_congr rfl
  intro column _
  ring

theorem pivot_row_value (shaped : Shaped n m tableau) {row column index : ℕ}
    (rowInside : row < m) (columnInside : column < n + m) (indexInside : index < m)
    (vector : ℕ → ℚ) :
    (tableau.pivot row column).rowValue index vector =
      if index = row then tableau.rowValue row vector / tableau.cell row column
      else tableau.rowValue index vector -
        tableau.rowValue row vector / tableau.cell row column * tableau.cell index column := by
  have pivoted := pivot_shaped shaped rowInside columnInside
  unfold rowValue
  rw [pivoted.rhs_column, shaped.rhs_column]
  split_ifs with same
  · rw [← sum_scaled]
    apply sum_congr rfl
    intro position inside
    rw [pivot_cell shaped rowInside indexInside (Nat.lt_succ_iff.mp (mem_range.mp inside)),
      if_pos same]
  · rw [← sum_cleared]
    apply sum_congr rfl
    intro position inside
    rw [pivot_cell shaped rowInside indexInside (Nat.lt_succ_iff.mp (mem_range.mp inside)),
      if_neg same]

theorem pivot_cost_value (shaped : Shaped n m tableau) {row column : ℕ}
    (rowInside : row < m) (columnInside : column < n + m) (vector : ℕ → ℚ) :
    (tableau.pivot row column).costValue vector =
      tableau.costValue vector -
        tableau.rowValue row vector / tableau.cell row column * tableau.costAt column := by
  have pivoted := pivot_shaped shaped rowInside columnInside
  unfold costValue rowValue
  rw [pivoted.rhs_column, shaped.rhs_column, ← sum_cleared]
  apply sum_congr rfl
  intro position inside
  rw [pivot_cost shaped rowInside (Nat.lt_succ_iff.mp (mem_range.mp inside))]

theorem pivot_balanced_iff (shaped : Shaped n m tableau) {row column : ℕ}
    (rowInside : row < m) (columnInside : column < n + m)
    (pivotable : tableau.cell row column ≠ 0) (vector : ℕ → ℚ) :
    (tableau.pivot row column).Balanced vector ↔ tableau.Balanced vector := by
  have values (index : ℕ) (inside : index < m) :=
    pivot_row_value shaped rowInside columnInside inside vector
  unfold Balanced
  rw [(pivot_shaped shaped rowInside columnInside).rowCount, shaped.rowCount]
  constructor
  · intro balanced index inside
    have pivotZero : tableau.rowValue row vector = 0 := by
      have scaled := balanced row rowInside
      rw [values row rowInside, if_pos rfl, div_eq_zero_iff] at scaled
      exact scaled.resolve_right pivotable
    by_cases same : index = row
    · rw [same]
      exact pivotZero
    · have cleared := balanced index inside
      rw [values index inside, if_neg same, pivotZero, zero_div, zero_mul, sub_zero] at cleared
      exact cleared
  · intro balanced index inside
    rw [values index inside, balanced row rowInside, balanced index inside]
    simp

theorem pivot_cost_value_of_balanced (shaped : Shaped n m tableau) {row column : ℕ}
    (rowInside : row < m) (columnInside : column < n + m) {vector : ℕ → ℚ}
    (balanced : tableau.Balanced vector) :
    (tableau.pivot row column).costValue vector = tableau.costValue vector := by
  have zero : tableau.rowValue row vector = 0 :=
    balanced row (by rw [shaped.rowCount]; exact rowInside)
  rw [pivot_cost_value shaped rowInside columnInside, zero, zero_div, zero_mul, sub_zero]

/-! ## Unit columns -/

/-- The basic columns are the columns of the identity, and cost nothing. -/
structure Canonical (n m : ℕ) (tableau : Tableau ℚ) : Prop extends Shaped n m tableau where
  unit : ∀ row < m, ∀ other < m,
    tableau.cell row (tableau.basicColumn other) = if row = other then 1 else 0
  free : ∀ row < m, tableau.costAt (tableau.basicColumn row) = 0

theorem canonical_of_problem {problem : Problem ℚ} (valid : problem.validate = .ok ()) :
    Canonical problem.numVariables problem.numConstraints (ofProblem problem) := by
  refine ⟨shaped_of_problem valid, ?_, ?_⟩
  · intro row rowInside other otherInside
    rw [basic_column_of_problem problem otherInside,
      cell_of_problem_slack valid rowInside otherInside]
    simp only [eq_comm]
  · intro row inside
    rw [basic_column_of_problem problem inside]
    exact cost_of_problem_rest problem (Nat.le_add_right _ _)

theorem pivot_canonical (canonical : Canonical n m tableau) {row column : ℕ}
    (rowInside : row < m) (columnInside : column < n + m)
    (pivotable : tableau.cell row column ≠ 0) :
    Canonical n m (tableau.pivot row column) := by
  have shaped := canonical.toShaped
  refine ⟨pivot_shaped shaped rowInside columnInside, ?_, ?_⟩
  · intro index indexInside other otherInside
    rw [pivot_basic_column shaped otherInside]
    by_cases entered : other = row
    · rw [if_pos entered, pivot_cell shaped rowInside indexInside columnInside.le,
        div_self pivotable, entered, one_mul, sub_self]
    · rw [if_neg entered, pivot_cell shaped rowInside indexInside
        (shaped.basic_column_lt otherInside).le]
      -- an older basic column is zero in the pivot row, so nothing moves in it
      rw [canonical.unit row rowInside other otherInside, if_neg (Ne.symm entered), zero_div,
        zero_mul, sub_zero, canonical.unit index indexInside other otherInside]
      by_cases pivotRow : index = row
      · rw [if_pos pivotRow, if_neg]
        intro same
        exact entered (same.symm.trans pivotRow)
      · rw [if_neg pivotRow]
  · intro index indexInside
    rw [pivot_basic_column shaped indexInside]
    by_cases entered : index = row
    · rw [if_pos entered, pivot_cost shaped rowInside columnInside.le, div_self pivotable,
        one_mul, sub_self]
    · rw [if_neg entered, pivot_cost shaped rowInside (shaped.basic_column_lt indexInside).le,
        canonical.unit row rowInside index indexInside, if_neg (Ne.symm entered), zero_div,
        zero_mul, sub_zero]
      exact canonical.free index indexInside

theorem Canonical.basic_column_injective (canonical : Canonical n m tableau) {row other : ℕ}
    (rowInside : row < m) (otherInside : other < m)
    (same : tableau.basicColumn row = tableau.basicColumn other) : row = other := by
  have own := canonical.unit row rowInside row rowInside
  rw [same, canonical.unit row rowInside other otherInside, if_pos rfl] at own
  by_contra different
  rw [if_neg different] at own
  exact zero_ne_one own

/-! ## The vector of a column -/

/-- One more of `column`, with the basic columns making up for it. -/
def direction (tableau : Tableau ℚ) (column position : ℕ) : ℚ :=
  (if position = column then 1 else 0) -
    ∑ row ∈ range tableau.rows.length,
      if tableau.basicColumn row = position then tableau.cell row column else 0

theorem direction_basic (canonical : Canonical n m tableau) {row : ℕ} (inside : row < m)
    (column : ℕ) :
    tableau.direction column (tableau.basicColumn row) =
      (if tableau.basicColumn row = column then 1 else 0) - tableau.cell row column := by
  rw [direction, canonical.rowCount, sum_eq_single row]
  · rw [if_pos rfl]
  · intro other otherInside different
    rw [if_neg]
    intro same
    exact different (canonical.basic_column_injective (mem_range.mp otherInside) inside same)
  · intro outside
    exact absurd (mem_range.mpr inside) outside

theorem direction_nonbasic (shaped : Shaped n m tableau) {position : ℕ}
    (nonbasic : ∀ row < m, tableau.basicColumn row ≠ position) (column : ℕ) :
    tableau.direction column position = if position = column then 1 else 0 := by
  rw [direction, shaped.rowCount, sum_eq_zero, sub_zero]
  intro row inside
  exact if_neg (nonbasic row (mem_range.mp inside))

theorem direction_rhs_column (shaped : Shaped n m tableau) (column : ℕ) :
    tableau.direction column tableau.rhsColumn = if tableau.rhsColumn = column then 1 else 0 := by
  apply direction_nonbasic shaped
  intro row inside
  rw [shaped.rhs_column]
  exact (shaped.basic_column_lt inside).ne

/-- A linear form at the vector of a column: its entry there, less what the basic
columns take off it. -/
theorem sum_mul_direction (shaped : Shaped n m tableau) (form : ℕ → ℚ) {column : ℕ}
    (inside : column ≤ n + m) :
    ∑ position ∈ range (tableau.rhsColumn + 1), form position * tableau.direction column position =
      form column -
        ∑ row ∈ range m, form (tableau.basicColumn row) * tableau.cell row column := by
  have own : ∑ position ∈ range (tableau.rhsColumn + 1),
      form position * (if position = column then 1 else 0) = form column := by
    rw [sum_eq_single column]
    · rw [if_pos rfl, mul_one]
    · intro position _ different
      rw [if_neg different, mul_zero]
    · intro outside
      rw [shaped.rhs_column, mem_range] at outside
      omega
  have basic : ∀ row ∈ range m,
      ∑ position ∈ range (tableau.rhsColumn + 1),
        form position *
          (if tableau.basicColumn row = position then tableau.cell row column else 0) =
      form (tableau.basicColumn row) * tableau.cell row column := by
    intro row rowInside
    have basicInside := shaped.basic_column_lt (mem_range.mp rowInside)
    rw [sum_eq_single (tableau.basicColumn row)]
    · rw [if_pos rfl]
    · intro position _ different
      rw [if_neg (Ne.symm different), mul_zero]
    · intro outside
      rw [shaped.rhs_column, mem_range] at outside
      omega
  simp only [direction, mul_sub, sum_sub_distrib, own, mul_sum]
  rw [sum_comm, shaped.rowCount, sum_congr rfl basic]

theorem direction_balanced (canonical : Canonical n m tableau) {column : ℕ}
    (inside : column ≤ n + m) : tableau.Balanced (tableau.direction column) := by
  intro index indexInside
  rw [canonical.rowCount] at indexInside
  have spread := sum_mul_direction canonical.toShaped (tableau.cell index) inside
  rw [rowValue, spread, sum_eq_single index]
  · rw [canonical.unit index indexInside index indexInside, if_pos rfl, one_mul, sub_self]
  · intro row rowInside different
    rw [canonical.unit index indexInside row (mem_range.mp rowInside),
      if_neg (Ne.symm different), zero_mul]
  · intro outside
    exact absurd (mem_range.mpr indexInside) outside

theorem direction_cost (canonical : Canonical n m tableau) {column : ℕ}
    (inside : column ≤ n + m) :
    tableau.costValue (tableau.direction column) = tableau.costAt column := by
  have spread := sum_mul_direction canonical.toShaped tableau.costAt inside
  rw [costValue, spread, sum_eq_zero, sub_zero]
  intro row rowInside
  rw [canonical.free row (mem_range.mp rowInside), zero_mul]

end LinearProgram.Tableau
