import LinearProgram.Proofs.Feasibility
import LinearProgram.Tableau

/-!
# Shape and entries of a tableau

A tableau for `n` variables and `m` constraints keeps its shape through every
pivot, and each entry after a pivot is one formula of the entries before it. No
law of arithmetic is used here, so all of it holds for doubles as well.
-/

namespace LinearProgram.Tableau

open Scalar

variable {α : Type} {n m : Nat} {tableau : Tableau α}

def basicColumn (tableau : Tableau α) (row : Nat) : Nat :=
  tableau.basis.getD row 0

structure Shaped (n m : Nat) (tableau : Tableau α) : Prop where
  variableCount : tableau.numVariables = n
  rowCount : tableau.rows.length = m
  rowWidth : ∀ row ∈ tableau.rows, row.length = n + m + 1
  costWidth : tableau.cost.length = n + m + 1
  basisCount : tableau.basis.length = m
  basisInside : ∀ column ∈ tableau.basis, column < n + m

namespace Shaped

theorem row_mem (shaped : Shaped n m tableau) {row : Nat} (inside : row < m) :
    tableau.rows.getD row [] ∈ tableau.rows := by
  rw [← shaped.rowCount] at inside
  rw [List.getD_eq_getElem _ _ inside]
  exact List.getElem_mem inside

theorem row_length (shaped : Shaped n m tableau) {row : Nat} (inside : row < m) :
    (tableau.rows.getD row []).length = n + m + 1 :=
  shaped.rowWidth _ (shaped.row_mem inside)

theorem basic_column_lt (shaped : Shaped n m tableau) {row : Nat} (inside : row < m) :
    tableau.basicColumn row < n + m := by
  rw [← shaped.basisCount] at inside
  rw [basicColumn, List.getD_eq_getElem _ _ inside]
  exact shaped.basisInside _ (List.getElem_mem inside)

theorem rhs_column (shaped : Shaped n m tableau) : tableau.rhsColumn = n + m := by
  rw [rhsColumn, shaped.variableCount, shaped.rowCount]

end Shaped

theorem fold_set_length (assigned : List α → α) (pairs : List (ℕ × List α)) (start : List α) :
    (pairs.foldl (fun values pair => values.set pair.1 (assigned pair.2)) start).length =
      start.length := by
  induction pairs generalizing start with
  | nil => rfl
  | cons pair rest ih => rw [List.foldl_cons, ih, List.length_set]

variable [Scalar α]

def cell (tableau : Tableau α) (row column : Nat) : α :=
  entry (tableau.rows.getD row []) column

/-- The right-hand side of a constraint row. -/
def rhs (tableau : Tableau α) (row : Nat) : α :=
  tableau.cell row tableau.rhsColumn

def costAt (tableau : Tableau α) (column : Nat) : α :=
  entry tableau.cost column

/-- The last entry of the cost row. -/
def corner (tableau : Tableau α) : α :=
  tableau.costAt tableau.rhsColumn

/-! ## Entries of the first tableau -/

theorem unit_row_length (length index : Nat) :
    (unitRow length index : List α).length = length := by
  simp [unitRow]

theorem unit_row_get {length index position : Nat} (inside : position < length) :
    (unitRow length index : List α).getD position 0 = if position = index then 1 else 0 := by
  rw [List.getD_eq_getElem _ _ (by rw [unit_row_length]; exact inside)]
  simp [unitRow]

variable {problem : Problem α}

theorem rows_of_problem (valid : problem.validate = .ok ()) {row : Nat}
    (inside : row < problem.numConstraints) :
    (ofProblem problem).rows.getD row [] =
      problem.row row ++ unitRow problem.numConstraints row ++ [problem.bound row] := by
  have rowCount := ((Problem.validate_eq_ok_iff problem).mp valid).1
  have rowInside : row < problem.constraints.length := by rw [rowCount]; exact inside
  have pairInside : row < (problem.constraints.zip problem.rhs).length := by
    rw [List.length_zip]
    exact lt_min rowInside inside
  rw [ofProblem, List.getD_eq_getElem _ _ (by rw [List.length_mapIdx]; exact pairInside)]
  rw [List.getElem_mapIdx, List.getElem_zip]
  rw [Problem.row, Problem.bound, List.getD_eq_getElem _ _ rowInside,
    List.getD_eq_getElem _ _ inside]
  rfl

theorem shaped_of_problem (valid : problem.validate = .ok ()) :
    Shaped problem.numVariables problem.numConstraints (ofProblem problem) := by
  obtain ⟨rowCount, rowWidth⟩ := (Problem.validate_eq_ok_iff problem).mp valid
  have pairCount : (ofProblem problem).rows.length = problem.numConstraints := by
    rw [ofProblem, List.length_mapIdx, List.length_zip, rowCount]
    exact min_self _
  refine ⟨rfl, pairCount, ?_, ?_, ?_, ?_⟩
  · intro row member
    obtain ⟨index, inside, rfl⟩ := List.mem_iff_getElem.mp member
    rw [pairCount] at inside
    rw [← List.getD_eq_getElem _ [], rows_of_problem valid inside]
    simp [Problem.row_length valid inside, unit_row_length, Nat.add_assoc]
  · simp [ofProblem, Problem.numVariables, Nat.add_assoc]
  · simp [ofProblem]
  · intro column member
    obtain ⟨index, inside, rfl⟩ := List.mem_map.mp member
    exact Nat.add_lt_add_left (List.mem_range.mp inside) _

theorem cell_of_problem_variable (valid : problem.validate = .ok ()) {row column : Nat}
    (rowInside : row < problem.numConstraints) (columnInside : column < problem.numVariables) :
    (ofProblem problem).cell row column = problem.coefficient row column := by
  have width := Problem.row_length valid rowInside
  rw [cell, rows_of_problem valid rowInside, entry, Problem.coefficient, List.append_assoc]
  exact List.getD_append _ _ _ _ (by rw [width]; exact columnInside)

theorem cell_of_problem_slack (valid : problem.validate = .ok ()) {row index : Nat}
    (rowInside : row < problem.numConstraints) (indexInside : index < problem.numConstraints) :
    (ofProblem problem).cell row (problem.numVariables + index) =
      if index = row then 1 else 0 := by
  have width := Problem.row_length valid rowInside
  rw [cell, rows_of_problem valid rowInside, entry, List.append_assoc]
  rw [List.getD_append_right _ _ _ _ (by rw [width]; exact Nat.le_add_right _ _), width,
    Nat.add_sub_cancel_left]
  rw [List.getD_append _ _ _ _ (by rw [unit_row_length]; exact indexInside)]
  exact unit_row_get indexInside

theorem rhs_of_problem (valid : problem.validate = .ok ()) {row : Nat}
    (inside : row < problem.numConstraints) :
    (ofProblem problem).rhs row = problem.bound row := by
  have width : (problem.row row ++ unitRow problem.numConstraints row).length =
      problem.numVariables + problem.numConstraints := by
    rw [List.length_append, Problem.row_length valid inside, unit_row_length]
  rw [rhs, cell, (shaped_of_problem valid).rhs_column, rows_of_problem valid inside, entry]
  rw [List.getD_append_right _ _ _ _ width.le, width, Nat.sub_self]
  rfl

theorem cost_of_problem_variable (problem : Problem α) {column : Nat}
    (inside : column < problem.numVariables) :
    (ofProblem problem).costAt column = -problem.gain column := by
  have width : (problem.objective.map (- ·)).length = problem.numVariables := List.length_map _
  rw [costAt, ofProblem, entry, List.append_assoc]
  rw [List.getD_append _ _ _ _ (by rw [width]; exact inside)]
  rw [Problem.gain, List.getD_eq_getElem _ _ (by rw [width]; exact inside),
    List.getD_eq_getElem _ _ inside, List.getElem_map]
  rfl

/-- Slacks and the right-hand side start without a cost. -/
theorem cost_of_problem_rest (problem : Problem α) {column : Nat}
    (outside : problem.numVariables ≤ column) :
    (ofProblem problem).costAt column = 0 := by
  have width : (problem.objective.map (- ·)).length = problem.numVariables := List.length_map _
  rw [costAt, ofProblem, entry, List.append_assoc]
  rw [List.getD_append_right _ _ _ _ (by rw [width]; exact outside), width]
  rw [show ([0] : List α) = List.replicate 1 0 from rfl, ← List.replicate_add]
  rcases Nat.lt_or_ge (column - problem.numVariables) (problem.numConstraints + 1) with
    inside | past
  · exact List.getD_replicate _ inside
  · exact List.getD_eq_default _ _ (by rw [List.length_replicate]; exact past)

theorem basic_column_of_problem (problem : Problem α) {row : Nat}
    (inside : row < problem.numConstraints) :
    (ofProblem problem).basicColumn row = problem.numVariables + row := by
  rw [basicColumn, ofProblem, List.getD_eq_getElem _ _ (by simpa using inside)]
  simp

/-! ## Entries after a pivot -/

theorem entry_scale_row (column : Nat) {row : List α} {position : Nat}
    (inside : position < row.length) :
    entry (scaleRow column row) position = entry row position / entry row column := by
  rw [entry, scaleRow, List.getD_eq_getElem _ _ (by rw [List.length_map]; exact inside),
    List.getElem_map, ← List.getD_eq_getElem _ 0]
  rfl

theorem entry_clear_column (column : Nat) {source row : List α} {position : Nat}
    (sourceInside : position < source.length) (inside : position < row.length) :
    entry (clearColumn column source row) position =
      entry row position - entry source position * entry row column := by
  have bothInside : position < (clearColumn column source row).length := by
    rw [clearColumn, List.length_zipWith]
    exact lt_min inside sourceInside
  have targetEntry : entry row position = row[position] := List.getD_eq_getElem _ _ inside
  have sourceEntry : entry source position = source[position] :=
    List.getD_eq_getElem _ _ sourceInside
  rw [targetEntry, sourceEntry, entry, List.getD_eq_getElem _ _ bothInside]
  exact List.getElem_zipWith

theorem scale_row_length (column : Nat) (row : List α) :
    (scaleRow column row).length = row.length :=
  List.length_map _

theorem clear_column_length (column : Nat) {source row : List α}
    (same : row.length = source.length) :
    (clearColumn column source row).length = row.length := by
  rw [clearColumn, List.length_zipWith, same, min_self]

theorem pivot_row (tableau : Tableau α) (row column index : Nat)
    (inside : index < tableau.rows.length) :
    (tableau.pivot row column).rows.getD index [] =
      if index = row then scaleRow column (tableau.rows.getD row [])
      else clearColumn column (scaleRow column (tableau.rows.getD row []))
        (tableau.rows.getD index []) := by
  rw [pivot, List.getD_eq_getElem _ _ (by rw [List.length_mapIdx]; exact inside),
    List.getElem_mapIdx, ← List.getD_eq_getElem _ []]

theorem pivot_cell (shaped : Shaped n m tableau) {row column index position : Nat}
    (rowInside : row < m) (indexInside : index < m) (positionInside : position ≤ n + m) :
    (tableau.pivot row column).cell index position =
      if index = row then tableau.cell row position / tableau.cell row column
      else tableau.cell index position -
        tableau.cell row position / tableau.cell row column * tableau.cell index column := by
  have sourceInside : position < (tableau.rows.getD row []).length := by
    rw [shaped.row_length rowInside]
    omega
  rw [cell, pivot_row _ _ _ _ (by rw [shaped.rowCount]; exact indexInside)]
  split_ifs
  · exact entry_scale_row column sourceInside
  · have targetInside : position < (tableau.rows.getD index []).length := by
      rw [shaped.row_length indexInside]
      omega
    rw [entry_clear_column column (by rw [scale_row_length]; exact sourceInside) targetInside,
      entry_scale_row column sourceInside]
    rfl

theorem pivot_cost (shaped : Shaped n m tableau) {row column position : Nat}
    (rowInside : row < m) (positionInside : position ≤ n + m) :
    (tableau.pivot row column).costAt position =
      tableau.costAt position -
        tableau.cell row position / tableau.cell row column * tableau.costAt column := by
  have sourceInside : position < (tableau.rows.getD row []).length := by
    rw [shaped.row_length rowInside]
    omega
  have targetInside : position < tableau.cost.length := by
    rw [shaped.costWidth]
    omega
  rw [costAt, pivot, entry_clear_column column (by rw [scale_row_length]; exact sourceInside)
    targetInside, entry_scale_row column sourceInside]
  rfl

theorem pivot_basic_column (shaped : Shaped n m tableau) {row column index : Nat}
    (indexInside : index < m) :
    (tableau.pivot row column).basicColumn index =
      if index = row then column else tableau.basicColumn index := by
  rw [← shaped.basisCount] at indexInside
  rw [basicColumn, pivot, List.getD_eq_getElem _ _ (by rw [List.length_set]; exact indexInside),
    List.getElem_set, basicColumn, List.getD_eq_getElem _ _ indexInside]
  simp only [eq_comm]

theorem pivot_shaped (shaped : Shaped n m tableau) {row column : Nat}
    (rowInside : row < m) (columnInside : column < n + m) :
    Shaped n m (tableau.pivot row column) := by
  have sourceWidth : (scaleRow column (tableau.rows.getD row [])).length = n + m + 1 := by
    rw [scale_row_length]
    exact shaped.row_length rowInside
  have rowCount : (tableau.pivot row column).rows.length = m := by
    rw [pivot, List.length_mapIdx]
    exact shaped.rowCount
  refine ⟨shaped.variableCount, rowCount, ?_, ?_, ?_, ?_⟩
  · intro target member
    obtain ⟨index, inside, rfl⟩ := List.mem_iff_getElem.mp member
    rw [rowCount] at inside
    rw [← List.getD_eq_getElem _ [], pivot_row _ _ _ _ (by rw [shaped.rowCount]; exact inside)]
    split_ifs
    · exact sourceWidth
    · have targetWidth := shaped.row_length inside
      rw [clear_column_length column (by rw [targetWidth, sourceWidth])]
      exact targetWidth
  · rw [pivot, clear_column_length column (by rw [shaped.costWidth, sourceWidth])]
    exact shaped.costWidth
  · rw [pivot, List.length_set]
    exact shaped.basisCount
  · intro position member
    rcases List.mem_or_eq_of_mem_set member with old | rfl
    · exact shaped.basisInside position old
    · exact columnInside

/-! ## The values that are read off -/

theorem values_eq_fold (tableau : Tableau α) :
    tableau.values = (tableau.basis.zip tableau.rows).foldl
      (fun values pair => values.set pair.1 (entry pair.2 tableau.rhsColumn))
      (List.replicate tableau.numVariables 0) :=
  rfl

theorem values_length (shaped : Shaped n m tableau) : tableau.values.length = n := by
  rw [values_eq_fold, fold_set_length fun row => entry row tableau.rhsColumn,
    List.length_replicate, shaped.variableCount]

end LinearProgram.Tableau
