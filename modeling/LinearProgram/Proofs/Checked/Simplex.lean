import LinearProgram.Proofs.Checked.Grid
import LinearProgram.Proofs.Simplex.Shapes

/-!
# The simplex method on grids

The method with every access checked. Whatever the problem and the arithmetic, no
access fails, and the run is that of the method on tableaux: the grid of each tableau
of a run has the shape that validation establishes.
-/

namespace LinearProgram.Checked

open Grid Tableau
open Simplex (Settings Verdict)

variable {α : Type} [Scalar α]

/-- The grid where the pivots end, and the pivots done, in order. -/
structure Descent (α : Type) where
  grid : Grid α
  pivots : List (Event α)
  verdict : Verdict

def descend (tolerance : α) :
    (remaining done : ℕ) → Grid α → (log : List (Event α)) → Option (Descent α)
  | 0, _, grid, log => do
      match ← grid.enteringColumn tolerance with
      | none => some ⟨grid, log.reverse, .optimal⟩
      | some _ => some ⟨grid, log.reverse, .limitReached⟩
  | remaining + 1, done, grid, log => do
      match ← grid.enteringColumn tolerance with
      | none => some ⟨grid, log.reverse, .optimal⟩
      | some column =>
          match ← grid.leavingRow tolerance column with
          | none => some ⟨grid, log.reverse, .unbounded⟩
          | some row =>
              let following ← grid.pivot row column
              descend tolerance remaining (done + 1) following (.pivot done column row :: log)

def conclude (settings : Settings α) (problem : Problem α) (descent : Descent α) :
    Option (Except (SolveError α) (Solution α)) :=
  match descent.verdict with
  | .unbounded => some (.error .unbounded)
  | .limitReached => some (.error (.iterationLimit settings.maxPivots))
  | .optimal => do
      let values ← descent.grid.values
      let objective := problem.objectiveValue values
      if objective < -settings.tolerance then some (.error (.infeasible objective))
      else some (.ok ⟨objective, values⟩)

def simplexSolve (settings : Settings α) (problem : Problem α) : Option (Run α (Solution α)) :=
  match problem.validate with
  | .error cause => some ⟨[], .error cause⟩
  | .ok () =>
      if 0 < settings.tolerance then do
        let grid ← Grid.ofProblem problem
        let descent ← descend settings.tolerance settings.maxPivots 0 grid []
        let outcome ← conclude settings problem descent
        some ⟨descent.pivots, outcome⟩
      else
        some ⟨[], .error (.invalidParameter (.toleranceNotPositive settings.tolerance))⟩

/-! ## No access fails -/

def Descent.ofTableau (descent : Simplex.Descent α) : Descent α :=
  ⟨Grid.ofTableau descent.tableau, descent.pivots, descent.verdict⟩

variable {n m : ℕ} {tableau : Tableau α}

theorem descend_eq (tolerance : α) (remaining done : ℕ) (shaped : Shaped n m tableau)
    (log : List (Event α)) :
    descend tolerance remaining done (Grid.ofTableau tableau) log =
      some (.ofTableau (Simplex.descend tolerance remaining done tableau log)) := by
  induction remaining generalizing done tableau log with
  | zero =>
      rw [descend, grid_entering_column shaped, Simplex.descend]
      cases tableau.enteringColumn tolerance <;> rfl
  | succ remaining ih =>
      rw [descend, grid_entering_column shaped, Simplex.descend]
      cases entering : tableau.enteringColumn tolerance with
      | none => rfl
      | some column =>
          have columnInside := entering_column_lt shaped entering
          dsimp only [Option.bind_eq_bind, Option.bind_some]
          rw [grid_leaving_row shaped tolerance columnInside]
          cases leaving : tableau.leavingRow tolerance column with
          | none => rfl
          | some row =>
              have rowInside := leaving_row_lt shaped leaving
              dsimp only [Option.bind_some]
              rw [grid_pivot shaped rowInside columnInside]
              exact ih (done + 1) (pivot_shaped shaped rowInside columnInside) _

theorem conclude_eq (settings : Settings α) (problem : Problem α) {descent : Simplex.Descent α}
    (shaped : Shaped n m descent.tableau) :
    conclude settings problem (.ofTableau descent) =
      some (Simplex.conclude settings problem descent) := by
  obtain ⟨tableau, pivots, verdict⟩ := descent
  cases verdict with
  | unbounded => rfl
  | limitReached => rfl
  | optimal =>
      rw [conclude, Simplex.conclude]
      dsimp only [Descent.ofTableau]
      rw [grid_values shaped, Option.bind_eq_bind, Option.bind_some]
      split_ifs <;> rfl

/-- Whatever the arithmetic, a simplex solve reads and writes inside its lists. -/
theorem simplex_solve_eq (settings : Settings α) (problem : Problem α) :
    simplexSolve settings problem = some (Simplex.solve settings problem) := by
  rw [simplexSolve, Simplex.solve]
  cases valid : problem.validate with
  | error cause => rfl
  | ok =>
      dsimp only
      split_ifs
      · have shaped := shaped_of_problem valid
        have ending := Simplex.tableaux_shaped settings valid _
          (Simplex.final_mem settings problem)
        rw [grid_of_problem valid, Option.bind_eq_bind, Option.bind_some, descend_eq _ _ _ shaped,
          Option.bind_eq_bind, Option.bind_some]
        change (conclude settings problem (.ofTableau (Simplex.optimize _ _ _))).bind _ = _
        rw [conclude_eq settings problem ending]
        rfl
      · rfl

end LinearProgram.Checked
