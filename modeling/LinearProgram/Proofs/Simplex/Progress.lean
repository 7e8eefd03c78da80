import LinearProgram.Proofs.Simplex.Reached
import LinearProgram.Proofs.Simplex.RatioTest

/-!
# Runs without degenerate pivots

A pivot whose leaving row has a positive right-hand side raises the corner, and
the corner depends on the set of basic columns only. A run of such pivots never
sees a set of basic columns twice, so it is shorter than the number of those sets.
-/

namespace LinearProgram

open Finset

namespace Tableau

variable {n m : ℕ} {tableau : Tableau ℚ} {tolerance : ℚ}

/-- The next pivot, if there is one, moves the basic point. -/
def Nondegenerate (tolerance : ℚ) (tableau : Tableau ℚ) : Prop :=
  ∀ column ∈ tableau.enteringColumn tolerance,
    ∀ row ∈ tableau.leavingRow tolerance column, 0 < tableau.rhs row

instance (tolerance : ℚ) (tableau : Tableau ℚ) : Decidable (tableau.Nondegenerate tolerance) :=
  inferInstanceAs (Decidable (∀ column ∈ tableau.enteringColumn tolerance,
    ∀ row ∈ tableau.leavingRow tolerance column, 0 < tableau.rhs row))

theorem pivot_corner_lt (shaped : Shaped n m tableau) (positive : 0 < tolerance)
    {column row : ℕ} (entering : tableau.enteringColumn tolerance = some column)
    (leaving : tableau.leavingRow tolerance column = some row) (room : 0 < tableau.rhs row) :
    tableau.corner < (tableau.pivot row column).corner := by
  obtain ⟨columnInside, costBelow⟩ := entering_column_some shaped entering
  obtain ⟨rowInside, large, _⟩ := leaving_row_some shaped leaving
  have step : 0 < tableau.rhs row / tableau.cell row column :=
    div_pos room (lt_trans positive large)
  have costNegative : tableau.costAt column < 0 := by linarith
  have gained := mul_neg_of_pos_of_neg step costNegative
  rw [pivot_corner shaped rowInside columnInside]
  linarith

theorem basis_mem_powerset_card (canonical : Canonical n m tableau) :
    tableau.basis.toFinset ∈ powersetCard m (range (n + m)) := by
  rw [mem_powersetCard, List.toFinset_card_of_nodup canonical.basis_nodup, canonical.basisCount]
  refine ⟨?_, rfl⟩
  intro column member
  rw [List.mem_toFinset] at member
  exact mem_range.mpr (canonical.basisInside column member)

/-- Distinct sets of basic columns are counted by a binomial coefficient. -/
theorem length_le_choose {run : List (Tableau ℚ)}
    (canonical : ∀ tableau ∈ run, Canonical n m tableau)
    (distinct : run.Pairwise fun first second => first.basis.toFinset ≠ second.basis.toFinset) :
    run.length ≤ (n + m).choose m := by
  have nodup : (run.map fun tableau => tableau.basis.toFinset).Nodup :=
    List.pairwise_map.mpr distinct
  have inside : (run.map fun tableau => tableau.basis.toFinset).toFinset ⊆
      powersetCard m (range (n + m)) := by
    intro columns member
    obtain ⟨tableau, tableauMember, rfl⟩ := List.mem_map.mp (List.mem_toFinset.mp member)
    exact basis_mem_powerset_card (canonical tableau tableauMember)
  have count := card_le_card inside
  rw [List.toFinset_card_of_nodup nodup, List.length_map, card_powersetCard, card_range] at count
  exact count

end Tableau

namespace Simplex

open Tableau

variable {settings : Settings ℚ} {problem : Problem ℚ}

/-- `dropLast` leaves the tableaux that the pivots of the run start from. -/
theorem corner_strictly_rises (valid : problem.validate = .ok ())
    (positive : 0 < settings.tolerance)
    (nondegenerate : ∀ tableau ∈ (tableaux settings problem).dropLast,
      tableau.Nondegenerate settings.tolerance) :
    (tableaux settings problem).IsChain
      fun tableau following => tableau.corner < following.corner := by
  apply performed_is_chain
  intro tableau member following step
  have represents := Represents.visited valid positive tableau (List.mem_of_mem_dropLast member)
  obtain ⟨column, row, entering, leaving, rfl⟩ := next_eq_some step
  exact pivot_corner_lt represents.toShaped positive entering leaving
    (nondegenerate tableau member column entering row leaving)

theorem bases_distinct (valid : problem.validate = .ok ()) (positive : 0 < settings.tolerance)
    (rises : (tableaux settings problem).IsChain
      fun tableau following => tableau.corner < following.corner) :
    (tableaux settings problem).Pairwise
      fun first second => first.basis.toFinset ≠ second.basis.toFinset := by
  have represents : ∀ tableau ∈ tableaux settings problem, Represents problem tableau :=
    Represents.visited valid positive
  have apart : (tableaux settings problem).Pairwise
      fun first second => first.corner < second.corner := by
    rw [← List.isChain_iff_pairwise]
    exact rises
  apply apart.imp_of_mem
  intro first second firstMember secondMember below same
  have corners := Represents.corner_eq_of_basis (represents first firstMember)
    (represents second secondMember) same
  exact below.ne corners

theorem pivots_lt_choose (valid : problem.validate = .ok ()) (positive : 0 < settings.tolerance)
    (distinct : (tableaux settings problem).Pairwise
      fun first second => first.basis.toFinset ≠ second.basis.toFinset) :
    (solve settings problem).pivotCells.length <
      (problem.numVariables + problem.numConstraints).choose problem.numConstraints := by
  have canonical : ∀ tableau ∈ tableaux settings problem,
      Canonical problem.numVariables problem.numConstraints tableau := by
    intro tableau member
    exact (Represents.visited valid positive tableau member).toCanonical
  have short := length_le_choose canonical distinct
  have count := pivot_cells_length valid positive
  omega

/-- Without degenerate pivots the corner rises at each pivot, no set of basic columns
comes twice, and the run ends by itself within the number of those sets. The tableaux are
those that the pivots of the solve lead through, up to the one of its verdict. -/
theorem nondegenerate_run_terminates (valid : problem.validate = .ok ())
    (positive : 0 < settings.tolerance)
    (nondegenerate : ∀ tableau ∈ (tableaux settings problem).dropLast,
      tableau.Nondegenerate settings.tolerance) :
    ((tableaux settings problem).Pairwise
        fun first second => first.basis.toFinset ≠ second.basis.toFinset) ∧
      ((tableaux settings problem).IsChain
        fun tableau following => tableau.corner < following.corner) ∧
      (solve settings problem).pivotCells.length <
        (problem.numVariables + problem.numConstraints).choose problem.numConstraints ∧
      ((problem.numVariables + problem.numConstraints).choose problem.numConstraints ≤
          settings.maxPivots →
        ∀ count, (solve settings problem).outcome ≠ .error (.iterationLimit count)) ∧
      tableaux settings problem =
        (solve settings problem).pivotCells.scanl pivotAt (.ofProblem problem) ∧
      (tableaux settings problem).getLast? = some (final settings problem) ∧
      (solve settings problem).outcome = conclude settings problem
        (optimize settings.tolerance settings.maxPivots (.ofProblem problem)) := by
  have rises := corner_strictly_rises valid positive nondegenerate
  have distinct := bases_distinct valid positive rises
  have short := pivots_lt_choose valid positive distinct
  have unlimited : (problem.numVariables + problem.numConstraints).choose problem.numConstraints ≤
      settings.maxPivots →
        ∀ count, (solve settings problem).outcome ≠ .error (.iterationLimit count) := by
    intro enough count limited
    have used := pivots_of_limit valid positive limited
    omega
  exact ⟨distinct, rises, short, unlimited, tableaux_eq_scanl valid positive,
    final_is_last settings problem, solve_outcome valid positive⟩

/-- The method pivots twice on the way to the optimum. -/
def twoEdges : Problem ℚ :=
  ⟨[3, 5], [[1, 0], [0, 2], [3, 2]], [4, 12, 18]⟩

theorem nondegenerate_run_terminates_of_two_pivots :
    (∀ tableau ∈ (tableaux ⟨1 / 10, 10⟩ twoEdges).dropLast, tableau.Nondegenerate (1 / 10)) ∧
      (tableaux ⟨1 / 10, 10⟩ twoEdges).map (·.basis) = [[2, 3, 4], [2, 1, 4], [2, 1, 0]] ∧
      (solve ⟨1 / 10, 10⟩ twoEdges).pivotCells = [(1, 1), (0, 2)] ∧
      tableaux ⟨1 / 10, 10⟩ twoEdges =
        [(1, 1), (0, 2)].scanl pivotAt (.ofProblem twoEdges) ∧
      (tableaux ⟨1 / 10, 10⟩ twoEdges).getLast? = some (final ⟨1 / 10, 10⟩ twoEdges) ∧
      ∀ count, (solve ⟨1 / 10, 10⟩ twoEdges).outcome ≠ .error (.iterationLimit count) := by
  have nondegenerate : ∀ tableau ∈ (tableaux ⟨1 / 10, 10⟩ twoEdges).dropLast,
      tableau.Nondegenerate (1 / 10) := by
    decide +kernel
  have bases : (tableaux ⟨1 / 10, 10⟩ twoEdges).map (·.basis) =
      [[2, 3, 4], [2, 1, 4], [2, 1, 0]] := by
    decide +kernel
  have cells : (solve ⟨1 / 10, 10⟩ twoEdges).pivotCells = [(1, 1), (0, 2)] := by decide +kernel
  obtain ⟨_, _, _, unlimited, scanned, last, _⟩ :=
    nondegenerate_run_terminates (by decide +kernel) (by decide +kernel) nondegenerate
  rw [cells] at scanned
  exact ⟨nondegenerate, bases, cells, scanned, last, unlimited (by decide)⟩

end Simplex

end LinearProgram
