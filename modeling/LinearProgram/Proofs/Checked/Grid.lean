import LinearProgram.Proofs.Checked.Access
import LinearProgram.Proofs.Tableau.Choice

/-!
# Tableaux as grids

A grid holds the constraint rows and the cost row of a tableau in one list. It is
worked on in place and by index, and every access is checked. On a grid that comes
from a tableau of the right shape no access fails, and the results are those of the
tableau.
-/

namespace LinearProgram.Checked

structure Grid (α : Type) where
  numVariables : ℕ
  numRows : ℕ
  cells : List (List α)
  basis : List ℕ

namespace Grid

variable {α : Type}

def rhsColumn (grid : Grid α) : ℕ :=
  grid.numVariables + grid.numRows

def read (grid : Grid α) (row column : ℕ) : Option α := do
  let cells ← grid.cells[row]?
  cells[column]?

def ofTableau (tableau : Tableau α) : Grid α where
  numVariables := tableau.numVariables
  numRows := tableau.rows.length
  cells := tableau.rows ++ [tableau.cost]
  basis := tableau.basis

variable [Scalar α]

/-- One constraint row of the first grid, written into a row of zeros. -/
def writeRow (problem : Problem α) (width index : ℕ) (target : List α) : Option (List α) := do
  let row ← problem.constraints[index]?
  let target ← copyFront target problem.numVariables row
  let target ← write target (problem.numVariables + index) 1
  let last ← subtract width 1
  let bound ← problem.rhs[index]?
  write target last bound

/-- One entry of the first cost row; what was there is not looked at. -/
def writeCost (problem : Problem α) (column : ℕ) (_ : α) : Option α := do
  let gain ← problem.objective[column]?
  some (-gain)

def ofProblem (problem : Problem α) : Option (Grid α) := do
  let width := problem.numVariables + problem.numConstraints + 1
  let zeros := List.replicate (problem.numConstraints + 1) (List.replicate width 0)
  let cells ← update (writeRow problem width) problem.constraints.length zeros
  let costs ← cells[problem.numConstraints]?
  let costs ← update (writeCost problem) problem.numVariables costs
  let cells ← write cells problem.numConstraints costs
  some ⟨problem.numVariables, problem.numConstraints, cells,
    (List.range problem.constraints.length).map (problem.numVariables + ·)⟩

/-- The column of the smaller cost, the earlier one on a tie. -/
def cheaper (costs : List α) (least column : ℕ) : Option ℕ := do
  let cost ← costs[column]?
  let leastCost ← costs[least]?
  some (if cost < leastCost then column else least)

def enteringColumn (tolerance : α) (grid : Grid α) : Option (Option ℕ) := do
  let costs ← grid.cells[grid.numRows]?
  if grid.rhsColumn = 0 then some none
  else
    let least ← (List.range' 1 (grid.rhsColumn - 1)).foldlM (cheaper costs) 0
    let leastCost ← costs[least]?
    some (if -tolerance ≤ leastCost then none else some least)

/-- The row that limits a column more. The ratio of the earlier row is computed anew. -/
def tighter (tolerance : α) (grid : Grid α) (column : ℕ) (best : Option ℕ) (row : ℕ) :
    Option (Option ℕ) := do
  let entry ← grid.read row column
  if entry ≤ tolerance then some best
  else
    match best with
    | none => some (some row)
    | some other =>
        let bound ← grid.read row grid.rhsColumn
        let otherBound ← grid.read other grid.rhsColumn
        let otherEntry ← grid.read other column
        some (some (if bound / entry < otherBound / otherEntry then row else other))

def leavingRow (tolerance : α) (grid : Grid α) (column : ℕ) : Option (Option ℕ) :=
  (List.range' 0 grid.numRows).foldlM (tighter tolerance grid column) none

/-- Subtract the multiple of the pivot row that clears a column of `target`. -/
def clear (source : List α) (width column : ℕ) (target : List α) : Option (List α) := do
  let factor ← target[column]?
  update (fun position value => do
    let above ← source[position]?
    some (value - above * factor)) width target

def pivot (grid : Grid α) (row column : ℕ) : Option (Grid α) := do
  let width := grid.rhsColumn + 1
  let source ← grid.cells[row]?
  let divisor ← source[column]?
  let source ← update (fun _ value => some (value / divisor)) width source
  let cells ← write grid.cells row source
  let cells ← update (fun index target =>
    if index = row then some target else clear source width column target) cells.length cells
  let basis ← write grid.basis row column
  some { grid with cells := cells, basis := basis }

/-- Give the basic variable of a row its value, unless it is a slack. -/
def assign (grid : Grid α) (values : List α) (row : ℕ) : Option (List α) := do
  let basic ← grid.basis[row]?
  if basic < grid.numVariables then
    let bound ← grid.read row grid.rhsColumn
    write values basic bound
  else some values

def values (grid : Grid α) : Option (List α) :=
  (List.range' 0 grid.basis.length).foldlM grid.assign (List.replicate grid.numVariables 0)

end Grid

open Grid Tableau

variable {α : Type} {n m : ℕ} {tableau : Tableau α}

/-! ## Reading a grid -/

theorem grid_row {row : ℕ} (inside : row < tableau.rows.length) :
    (ofTableau tableau).cells[row]? = some (tableau.rows.getD row []) := by
  rw [List.getD_eq_getElem _ _ inside]
  exact (List.getElem?_append_left inside).trans (List.getElem?_eq_getElem inside)

theorem grid_cost (tableau : Tableau α) :
    (ofTableau tableau).cells[(ofTableau tableau).numRows]? = some tableau.cost := by
  rw [ofTableau, List.getElem?_append_right le_rfl, Nat.sub_self]
  rfl

theorem grid_width (shaped : Shaped n m tableau) :
    ∀ cells ∈ (ofTableau tableau).cells, cells.length = n + m + 1 := by
  intro cells member
  rcases List.mem_append.mp member with isRow | isCost
  · exact shaped.rowWidth cells isRow
  · rw [List.mem_singleton.mp isCost]
    exact shaped.costWidth

variable [Scalar α]

theorem read_entry {cells : List α} {column : ℕ} (inside : column < cells.length) :
    cells[column]? = some (entry cells column) := by
  rw [entry, List.getD_eq_getElem _ _ inside, List.getElem?_eq_getElem inside]

theorem grid_read (shaped : Shaped n m tableau) {row column : ℕ} (rowInside : row < m)
    (inside : column ≤ n + m) :
    (ofTableau tableau).read row column = some (tableau.cell row column) := by
  have width := shaped.row_length rowInside
  rw [Grid.read, grid_row (shaped.rowCount.symm ▸ rowInside)]
  exact read_entry (by omega)

/-! ## The choice of a pivot -/

/-- The scan of the costs keeps the column of the least cost, where the tableau keeps
the cost as well. -/
theorem cheaper_scan {costs rest : List α} {first : α}
    (readable : ∀ item ∈ (first :: rest).zipIdx, costs[item.2]? = some item.1) :
    ∃ winner, firstLeast (first :: rest).zipIdx = some winner ∧
      (List.range' 1 rest.length).foldlM (cheaper costs) 0 = some winner.2 ∧
      costs[winner.2]? = some winner.1 := by
  rw [List.zipIdx_cons, List.forall_mem_cons] at readable
  obtain ⟨_, scan, rfl, winnerCost⟩ := fold_follows
    (fun least best => least = best.2 ∧ costs[best.2]? = some best.1) rest 1 (cheaper costs)
    (fun best next => if next.1 < best.1 then next else best)
    (by
      rintro item member _ best ⟨rfl, bestCost⟩
      have cost := readable.2 item member
      refine ⟨_, by rw [cheaper, cost, bestCost]; rfl, ?_⟩
      split_ifs
      · exact ⟨rfl, cost⟩
      · exact ⟨rfl, bestCost⟩)
    0 (first, 0) ⟨rfl, readable.1⟩
  exact ⟨_, rfl, scan, winnerCost⟩

theorem grid_entering_column (shaped : Shaped n m tableau) (tolerance : α) :
    (ofTableau tableau).enteringColumn tolerance = some (tableau.enteringColumn tolerance) := by
  have width : (ofTableau tableau).rhsColumn = tableau.rhsColumn := rfl
  have length : (tableau.cost.take tableau.rhsColumn).length = tableau.rhsColumn := by
    rw [List.length_take, shaped.costWidth, shaped.rhs_column]
    omega
  rw [Grid.enteringColumn, grid_cost, width, Tableau.enteringColumn]
  cases costs : tableau.cost.take tableau.rhsColumn with
  | nil =>
      rw [costs, List.length_nil] at length
      simp [← length, firstLeast]
  | cons first rest =>
      rw [costs, List.length_cons] at length
      have readable : ∀ item ∈ (first :: rest).zipIdx, tableau.cost[item.2]? = some item.1 := by
        intro item member
        rw [← costs, List.mem_zipIdx_iff_getElem?, List.getElem?_take] at member
        split_ifs at member
        exact member
      obtain ⟨winner, found, scan, winnerCost⟩ := cheaper_scan readable
      have count : tableau.rhsColumn - 1 = rest.length := by omega
      have nonempty : tableau.rhsColumn ≠ 0 := by omega
      rw [found, Option.bind_eq_bind, Option.bind_some, if_neg nonempty, count, scan,
        Option.bind_eq_bind, Option.bind_some, winnerCost]
      rfl

/-- Keep the lesser of two candidates, the earlier one on a tie. -/
def lesser (best : Option (α × ℕ)) (next : α × ℕ) : Option (α × ℕ) :=
  match best with
  | none => some next
  | some best => some (if next.1 < best.1 then next else best)

theorem first_least_eq_foldl (candidates : List (α × ℕ)) :
    firstLeast candidates = candidates.foldl lesser none := by
  cases candidates with
  | nil => rfl
  | cons first rest =>
      rw [firstLeast, List.foldl_cons, lesser]
      induction rest generalizing first with
      | nil => rfl
      | cons next rest ih =>
          rw [List.foldl_cons, List.foldl_cons]
          exact ih _

/-- What one row adds to the search for the least ratio. -/
def limited (tolerance : α) (tableau : Tableau α) (column : ℕ) (best : Option (α × ℕ)) (row : ℕ) :
    Option (α × ℕ) :=
  if tableau.cell row column ≤ tolerance then best
  else lesser best (tableau.cell row tableau.rhsColumn / tableau.cell row column, row)

theorem leaving_row_eq_foldl (tableau : Tableau α) (tolerance : α) (column : ℕ) :
    tableau.leavingRow tolerance column =
      (tableau.rows.zipIdx.foldl
        (fun best item => limited tolerance tableau column best item.2) none).map (·.2) := by
  rw [Tableau.leavingRow, first_least_eq_foldl, ratios, List.foldl_filterMap]
  apply congrArg (Option.map Prod.snd)
  apply List.foldl_ext
  rintro best ⟨cells, row⟩ member
  have isRow : tableau.rows.getD row [] = cells := by
    rw [List.getD_eq_getElem?_getD, List.mk_mem_zipIdx_iff_getElem?.mp member, Option.getD_some]
  rw [limited, cell, cell, isRow]
  dsimp only
  split_ifs <;> rfl

structure IsRatio (m column : ℕ) (tableau : Tableau α) (pair : α × ℕ) : Prop where
  inside : pair.2 < m
  ratio : pair.1 = tableau.cell pair.2 tableau.rhsColumn / tableau.cell pair.2 column

/-- One turn of the search keeps the row of the least ratio. -/
theorem grid_tighter (shaped : Shaped n m tableau) (tolerance : α) {column row : ℕ}
    (inside : column < n + m) (rowInside : row < m) {best : Option (α × ℕ)}
    (isRatio : ∀ pair ∈ best, IsRatio m column tableau pair) :
    tighter tolerance (ofTableau tableau) column (best.map (·.2)) row =
      some ((limited tolerance tableau column best row).map (·.2)) := by
  have rhsRead : ∀ {row}, row < m → (ofTableau tableau).read row (ofTableau tableau).rhsColumn =
      some (tableau.cell row tableau.rhsColumn) :=
    fun inside => grid_read shaped inside shaped.rhs_column.le
  rw [tighter, grid_read shaped rowInside inside.le, Option.bind_eq_bind, Option.bind_some, limited]
  split_ifs
  · rfl
  · cases best with
    | none => rfl
    | some pair =>
        obtain ⟨otherInside, ratio⟩ := isRatio pair rfl
        rw [Option.map_some]
        dsimp only
        rw [rhsRead rowInside, rhsRead otherInside, grid_read shaped otherInside inside.le, lesser,
          ratio]
        simp only [Option.bind_some, Option.map_some, apply_ite Prod.snd]

theorem limited_is_ratio (tolerance : α) {column row : ℕ} (rowInside : row < m)
    {best : Option (α × ℕ)} (isRatio : ∀ pair ∈ best, IsRatio m column tableau pair) :
    ∀ pair ∈ limited tolerance tableau column best row, IsRatio m column tableau pair := by
  have next : IsRatio m column tableau
      (tableau.cell row tableau.rhsColumn / tableau.cell row column, row) := ⟨rowInside, rfl⟩
  rw [limited]
  split_ifs
  · exact isRatio
  · cases best with
    | none =>
        intro pair found
        rwa [← Option.some.inj found]
    | some other =>
        rw [lesser]
        split_ifs
        · intro pair found
          rwa [← Option.some.inj found]
        · exact isRatio

theorem grid_leaving_row (shaped : Shaped n m tableau) (tolerance : α) {column : ℕ}
    (inside : column < n + m) :
    (ofTableau tableau).leavingRow tolerance column =
      some (tableau.leavingRow tolerance column) := by
  -- the grid keeps the row of the least ratio, the tableau the ratio as well
  obtain ⟨_, scan, rfl, _⟩ := fold_follows
    (fun best least => best = least.map (·.2) ∧ ∀ pair ∈ least, IsRatio m column tableau pair)
    tableau.rows 0 (tighter tolerance (ofTableau tableau) column)
    (fun best item => limited tolerance tableau column best item.2)
    (by
      rintro item member _ best ⟨rfl, isRatio⟩
      have rowInside : item.2 < m := by
        rw [← shaped.rowCount]
        exact List.snd_lt_of_mem_zipIdx member
      exact ⟨_, grid_tighter shaped tolerance inside rowInside isRatio, rfl,
        limited_is_ratio tolerance rowInside isRatio⟩)
    none none ⟨rfl, by simp⟩
  rw [leaving_row_eq_foldl]
  exact scan

/-! ## The pivot and the values -/

theorem clear_eq {source target : List α} {width column : ℕ} (sourceWidth : source.length = width)
    (targetWidth : target.length = width) (inside : column < width) :
    clear source width column target = some (clearColumn column source target) := by
  rw [clear, read_entry (by omega), Option.bind_eq_bind, Option.bind_some]
  rw [update_all _ (fun position value => value - entry source position * entry target column)
    targetWidth]
  · apply congrArg some
    apply List.ext_getElem
    · rw [List.length_mapIdx, clearColumn, List.length_zipWith]
      omega
    · intro position inside _
      rw [List.length_mapIdx] at inside
      have above : entry source position = source[position] := List.getD_eq_getElem _ _ (by omega)
      simp only [List.getElem_mapIdx, clearColumn, List.getElem_zipWith, above]
  · intro position inside
    rw [read_entry (by omega)]
    rfl

theorem scale_eq {source : List α} {width column : ℕ} (sourceWidth : source.length = width) :
    update (fun _ value => some (value / entry source column)) width source =
      some (scaleRow column source) := by
  rw [update_all _ (fun _ value => value / entry source column) sourceWidth fun _ _ => rfl]
  apply congrArg some
  apply List.ext_getElem (by rw [List.length_mapIdx, scale_row_length])
  intro position _ _
  simp only [List.getElem_mapIdx, scaleRow, List.getElem_map]

theorem pivot_cells (tableau : Tableau α) {row : ℕ} (column : ℕ)
    (inside : row < tableau.rows.length) :
    ((ofTableau tableau).cells.set row (scaleRow column (tableau.rows.getD row []))).mapIdx
        (fun index target => if index = row then target
          else clearColumn column (scaleRow column (tableau.rows.getD row [])) target) =
      (ofTableau (tableau.pivot row column)).cells := by
  rw [ofTableau, ofTableau, List.set_append_left _ _ inside, List.mapIdx_append, List.length_set,
    Tableau.pivot]
  congr 1
  · apply List.ext_getElem (by simp)
    intro index _ _
    simp only [List.getElem_mapIdx, List.getElem_set, eq_comm (a := row)]
    split_ifs <;> rfl
  · rw [List.mapIdx_singleton, if_neg (by omega)]

theorem clear_others (shaped : Shaped n m tableau) {source : List α} {row column : ℕ}
    (isSource : tableau.rows.getD row [] = source) (rowInside : row < m)
    (inside : column < n + m) :
    update (fun index target => if index = row then some target
        else clear (scaleRow column source) (n + m + 1) column target)
      ((ofTableau tableau).cells.set row (scaleRow column source)).length
      ((ofTableau tableau).cells.set row (scaleRow column source)) =
        some (ofTableau (tableau.pivot row column)).cells := by
  subst isSource
  have scaledWidth : (scaleRow column (tableau.rows.getD row [])).length = n + m + 1 := by
    rw [scale_row_length]
    exact shaped.row_length rowInside
  rw [update_all _ (fun index target => if index = row then target
    else clearColumn column (scaleRow column (tableau.rows.getD row [])) target) rfl,
    pivot_cells _ _ (shaped.rowCount.symm ▸ rowInside)]
  intro index indexInside
  split_ifs with same
  · rfl
  · apply clear_eq scaledWidth _ (by omega)
    rw [List.getElem_set_ne (Ne.symm same)]
    exact grid_width shaped _ (List.getElem_mem _)

theorem grid_pivot (shaped : Shaped n m tableau) {row column : ℕ} (rowInside : row < m)
    (inside : column < n + m) :
    (ofTableau tableau).pivot row column = some (ofTableau (tableau.pivot row column)) := by
  have width : (ofTableau tableau).rhsColumn + 1 = n + m + 1 :=
    congrArg (· + 1) shaped.rhs_column
  have rowIndex : row < tableau.rows.length := shaped.rowCount.symm ▸ rowInside
  have cellIndex : row < (ofTableau tableau).cells.length := by
    rw [ofTableau, List.length_append]
    omega
  have basisIndex : row < (ofTableau tableau).basis.length := by
    rw [ofTableau, shaped.basisCount]
    exact rowInside
  obtain ⟨source, isSource⟩ : ∃ source, tableau.rows.getD row [] = source := ⟨_, rfl⟩
  have sourceWidth : source.length = n + m + 1 := by
    rw [← isSource]
    exact shaped.row_length rowInside
  rw [Grid.pivot, width, grid_row rowIndex, isSource, Option.bind_eq_bind, Option.bind_some,
    read_entry (by omega)]
  dsimp only [Option.bind_eq_bind, Option.bind_some]
  rw [scale_eq sourceWidth, Option.bind_some, write_inside cellIndex, Option.bind_some,
    clear_others shaped isSource rowInside inside, Option.bind_some, write_inside basisIndex,
    Option.bind_some, ofTableau, ofTableau, Tableau.pivot, List.length_mapIdx]

theorem grid_assign (shaped : Shaped n m tableau) {values : List α} (length : values.length = n)
    {row : ℕ} (rowInside : row < m) :
    (ofTableau tableau).assign values row =
      some (values.set (tableau.basicColumn row) (tableau.rhs row)) := by
  have rhsRead : (ofTableau tableau).read row (ofTableau tableau).rhsColumn =
      some (tableau.rhs row) := grid_read shaped rowInside shaped.rhs_column.le
  have isBasic : (ofTableau tableau).basis[row]? = some (tableau.basicColumn row) := by
    rw [← shaped.basisCount] at rowInside
    rw [basicColumn, List.getD_eq_getElem _ _ rowInside]
    exact List.getElem?_eq_getElem rowInside
  have count : (ofTableau tableau).numVariables = values.length := by
    rw [length]
    exact shaped.variableCount
  rw [assign, isBasic, Option.bind_eq_bind, Option.bind_some, count]
  split_ifs with structural
  · rw [rhsRead]
    exact write_inside structural _
  · rw [List.set_eq_of_length_le (not_lt.mp structural)]

theorem grid_values (shaped : Shaped n m tableau) :
    (ofTableau tableau).values = some tableau.values := by
  have items : (tableau.basis.zip tableau.rows).length = (ofTableau tableau).basis.length := by
    rw [List.length_zip, shaped.rowCount, ofTableau, shaped.basisCount, min_self]
  obtain ⟨_, scan, rfl, _⟩ := fold_follows
    (fun values target => values = target ∧ target.length = n) (tableau.basis.zip tableau.rows) 0
    (ofTableau tableau).assign
    (fun values item => values.set item.1.1 (entry item.1.2 tableau.rhsColumn))
    (by
      rintro ⟨⟨basic, cells⟩, row⟩ member _ values ⟨rfl, length⟩
      obtain ⟨isBasic, isRow⟩ := List.getElem?_zip_eq_some.mp
        (List.mk_mem_zipIdx_iff_getElem?.mp member)
      have rowInside : row < m := by
        rw [← shaped.rowCount]
        exact (List.getElem?_eq_some_iff.mp isRow).1
      refine ⟨_, grid_assign shaped length rowInside, ?_, by rw [List.length_set, length]⟩
      rw [basicColumn, rhs, cell, List.getD_eq_getElem?_getD, List.getD_eq_getElem?_getD, isBasic,
        isRow]
      rfl)
    _ (List.replicate tableau.numVariables 0)
    ⟨rfl, by rw [List.length_replicate, shaped.variableCount]⟩
  rw [items] at scan
  rw [Grid.values, values_eq_fold, ← List.zipIdx_map_fst 0 (tableau.basis.zip tableau.rows),
    List.foldl_map]
  exact scan

/-! ## The first grid -/

variable {problem : Problem α}

theorem unit_row_eq_set (length index : ℕ) :
    (unitRow length index : List α) = (List.replicate length 0).set index 1 := by
  apply List.ext_getElem (by rw [unit_row_length, List.length_set, List.length_replicate])
  intro position _ _
  simp only [unitRow, List.getElem_map, List.getElem_range, List.getElem_set,
    List.getElem_replicate, eq_comm (a := position)]

theorem write_row (valid : problem.validate = .ok ()) {index : ℕ}
    (inside : index < problem.numConstraints) :
    writeRow problem (problem.numVariables + problem.numConstraints + 1) index
        (List.replicate (problem.numVariables + problem.numConstraints + 1) 0) =
      some ((Tableau.ofProblem problem).rows.getD index []) := by
  have width := Problem.row_length valid inside
  have rowIndex : index < problem.constraints.length := by
    rw [((Problem.validate_eq_ok_iff problem).mp valid).1]
    exact inside
  have isRow : problem.constraints[index]? = some (problem.row index) := by
    rw [Problem.row, List.getD_eq_getElem _ _ rowIndex, List.getElem?_eq_getElem rowIndex]
  have isBound : problem.rhs[index]? = some (problem.bound index) := read_entry inside
  -- behind the row there are zeros for the slacks and one for the right-hand side
  have copied : copyFront
      (List.replicate (problem.numVariables + problem.numConstraints + 1) (0 : α))
      problem.numVariables (problem.row index) =
        some (problem.row index ++ (List.replicate problem.numConstraints 0 ++ [0])) := by
    rw [copy_front_of_length (by rw [List.length_replicate]; omega) width, List.drop_replicate,
      ← List.replicate_succ']
    congr 3
    omega
  have slack : write (problem.row index ++ (List.replicate problem.numConstraints 0 ++ [0]))
      (problem.numVariables + index) 1 =
        some (problem.row index ++ (unitRow problem.numConstraints index ++ [0])) := by
    have slackInside : index < (List.replicate problem.numConstraints (0 : α)).length := by
      rw [List.length_replicate]
      exact inside
    rw [← width, write_behind _ (by rw [List.length_append]; omega),
      List.set_append_left _ _ slackInside, unit_row_eq_set]
  have last : write (problem.row index ++ (unitRow problem.numConstraints index ++ [0]))
      (problem.numVariables + problem.numConstraints) (problem.bound index) =
        some (problem.row index ++ (unitRow problem.numConstraints index ++
          [problem.bound index])) := by
    have unitLength : (unitRow problem.numConstraints index : List α).length =
        problem.numConstraints := unit_row_length _ _
    rw [← width, write_behind _ (by rw [List.length_append, unitLength]; exact Nat.lt_succ_self _),
      List.set_append_right _ _ unitLength.le, unitLength, Nat.sub_self, List.set_cons_zero]
  rw [writeRow, isRow, Option.bind_eq_bind, Option.bind_some, copied]
  dsimp only [Option.bind_eq_bind, Option.bind_some]
  rw [slack, Option.bind_some, subtract_of_le (Nat.le_add_left 1 _), Option.bind_some, isBound,
    Option.bind_some, Nat.add_sub_cancel, last, rows_of_problem valid inside, List.append_assoc]

theorem write_rows (valid : problem.validate = .ok ()) :
    update (writeRow problem (problem.numVariables + problem.numConstraints + 1))
        problem.constraints.length
        (List.replicate (problem.numConstraints + 1)
          (List.replicate (problem.numVariables + problem.numConstraints + 1) 0)) =
      some ((Tableau.ofProblem problem).rows ++
        [List.replicate (problem.numVariables + problem.numConstraints + 1) 0]) := by
  have rowCount := ((Problem.validate_eq_ok_iff problem).mp valid).1
  have tableauRows := (shaped_of_problem valid).rowCount
  rw [rowCount, update_eq _ (fun index _ => (Tableau.ofProblem problem).rows.getD index []) _
    (by rw [List.length_replicate]; exact Nat.le_succ _)]
  · apply congrArg some
    apply List.ext_getElem (by simp [tableauRows])
    intro index inside _
    rw [List.length_mapIdx, List.length_replicate] at inside
    rw [List.getElem_mapIdx, List.getElem_replicate]
    rcases Nat.lt_succ_iff_lt_or_eq.mp inside with isRow | rfl
    · have rowIndex : index < (Tableau.ofProblem problem).rows.length := by
        rw [tableauRows]
        exact isRow
      rw [if_pos isRow, List.getElem_append_left rowIndex, List.getD_eq_getElem _ _ rowIndex]
    · rw [if_neg (lt_irrefl _), List.getElem_append_right tableauRows.le]
      simp
  · intro index _ inside
    rw [List.getElem_replicate]
    exact write_row valid inside

theorem write_costs (problem : Problem α) :
    update (writeCost problem) problem.numVariables
        (List.replicate (problem.numVariables + problem.numConstraints + 1) 0) =
      some (Tableau.ofProblem problem).cost := by
  rw [update_eq _ (fun column _ => -problem.gain column) _
    (by rw [List.length_replicate]; omega)]
  · apply congrArg some
    apply List.ext_getElem (by simp [Tableau.ofProblem, Problem.numVariables, Nat.add_assoc])
    intro column _ inside
    have isCost : (Tableau.ofProblem problem).cost[column] =
        (Tableau.ofProblem problem).costAt column := (List.getD_eq_getElem _ _ inside).symm
    rw [List.getElem_mapIdx, List.getElem_replicate, isCost]
    split_ifs with structural
    · rw [cost_of_problem_variable problem structural]
    · rw [cost_of_problem_rest problem (not_lt.mp structural)]
  · intro column _ inside
    rw [writeCost, read_entry inside]
    rfl

theorem grid_of_problem (valid : problem.validate = .ok ()) :
    Grid.ofProblem problem = some (ofTableau (Tableau.ofProblem problem)) := by
  have tableauRows := (shaped_of_problem valid).rowCount
  have rowCount := ((Problem.validate_eq_ok_iff problem).mp valid).1
  rw [Grid.ofProblem, write_rows valid, Option.bind_eq_bind, Option.bind_some,
    List.getElem?_append_right tableauRows.le, tableauRows, Nat.sub_self]
  dsimp only [Option.bind_eq_bind, List.getElem?_cons_zero, Option.bind_some]
  have lastRow : 0 <
      [List.replicate (problem.numVariables + problem.numConstraints + 1) (0 : α)].length :=
    Nat.one_pos
  have costs := write_behind (Tableau.ofProblem problem).rows lastRow
    (Tableau.ofProblem problem).cost
  rw [tableauRows, Nat.add_zero problem.numConstraints, List.set_cons_zero] at costs
  rw [write_costs, Option.bind_some, costs, Option.bind_some, ofTableau, tableauRows, rowCount]
  rfl

end LinearProgram.Checked
