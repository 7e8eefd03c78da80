import LinearProgram.Problem

/-!
# Simplex tableaux

A tableau for `n` variables and `m` constraints holds `m` constraint rows and a
cost row of `n + m + 1` entries each: the variables, the slacks, the right-hand
side. `basis` names the basic column of each constraint row.
-/

namespace LinearProgram

open Scalar

structure Tableau (α : Type) where
  numVariables : Nat
  rows : List (List α)
  cost : List α
  basis : List Nat
deriving DecidableEq, Repr

namespace Tableau

variable {α : Type} [Scalar α]

/-- `length` zeros but for a one at `index`. -/
def unitRow (length index : Nat) : List α :=
  (List.range length).map fun position => if position = index then 1 else 0

/-- `[A | I | b]` over `[-c | 0 | 0]`, with the slacks as basis. -/
def ofProblem (problem : Problem α) : Tableau α where
  numVariables := problem.numVariables
  rows := (problem.constraints.zip problem.rhs).mapIdx fun index (row, bound) =>
    row ++ unitRow problem.numConstraints index ++ [bound]
  cost := problem.objective.map (- ·) ++ List.replicate problem.numConstraints 0 ++ [0]
  basis := (List.range problem.numConstraints).map (problem.numVariables + ·)

/-- Number of columns before the right-hand side, which is also its index. -/
def rhsColumn (tableau : Tableau α) : Nat :=
  tableau.numVariables + tableau.rows.length

def entry (row : List α) (column : Nat) : α :=
  row.getD column 0

/-- Of the candidates, each a key with an index, the first one with the least
key. A later key replaces the current one only when it is strictly smaller. -/
def firstLeast : List (α × Nat) → Option (α × Nat)
  | [] => none
  | first :: rest => some (rest.foldl (fun best next => if next.1 < best.1 then next else best) first)

/-- The column with the most negative cost, the first of them on a tie, unless
that cost is at least `-tolerance`. -/
def enteringColumn (tolerance : α) (tableau : Tableau α) : Option Nat :=
  match firstLeast (tableau.cost.take tableau.rhsColumn).zipIdx with
  | none => none
  | some (least, column) => if -tolerance ≤ least then none else some column

/-- The rows that limit the increase of a column, each with its ratio of
right-hand side to entry. Entries up to the tolerance impose no limit. -/
def ratios (tolerance : α) (tableau : Tableau α) (column : Nat) : List (α × Nat) :=
  tableau.rows.zipIdx.filterMap fun (row, index) =>
    if entry row column ≤ tolerance then none
    else some (entry row tableau.rhsColumn / entry row column, index)

def leavingRow (tolerance : α) (tableau : Tableau α) (column : Nat) : Option Nat :=
  (firstLeast (tableau.ratios tolerance column)).map (·.2)

def scaleRow (column : Nat) (row : List α) : List α :=
  row.map (· / entry row column)

/-- Subtract the multiple of the pivot row that clears a column of `row`. -/
def clearColumn (column : Nat) (pivotRow row : List α) : List α :=
  List.zipWith (fun target source => target - source * entry row column) row pivotRow

/-- Make `column` the basic column of row `row`. -/
def pivot (tableau : Tableau α) (row column : Nat) : Tableau α :=
  let pivotRow := scaleRow column (tableau.rows.getD row [])
  { tableau with
    rows := tableau.rows.mapIdx fun index target =>
      if index = row then pivotRow else clearColumn column pivotRow target
    cost := clearColumn column pivotRow tableau.cost
    basis := tableau.basis.set row column }

/-- The basic solution: a variable in the basis takes the right-hand side of its
row, every other variable is zero. -/
def values (tableau : Tableau α) : List α :=
  (tableau.basis.zip tableau.rows).foldl
    (fun values (basic, row) => values.set basic (entry row tableau.rhsColumn))
    (List.replicate tableau.numVariables 0)

end Tableau

end LinearProgram
