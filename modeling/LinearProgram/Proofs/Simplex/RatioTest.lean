import LinearProgram.Proofs.Simplex.Represents

/-!
# What the ratio test protects

The ratio test passes over every row whose entry is at most the tolerance. A
positive entry among them lies in the tolerance band: its row limits the step,
and the test does not see it. A pivot keeps the right-hand sides nonnegative
exactly when no such row has a smaller ratio than the leaving row.
-/

namespace LinearProgram

namespace Tableau

variable {n m : ℕ} {tableau : Tableau ℚ} {tolerance : ℚ}

/-- No entry of the entering column lies in the tolerance band. -/
def BandFree (tolerance : ℚ) (tableau : Tableau ℚ) : Prop :=
  ∀ column ∈ tableau.enteringColumn tolerance, ∀ row < tableau.rows.length,
    ¬(0 < tableau.cell row column ∧ tableau.cell row column ≤ tolerance)

/-- The rows in the tolerance band allow the step that the leaving row allows. -/
def Guarded (tolerance : ℚ) (tableau : Tableau ℚ) : Prop :=
  ∀ column ∈ tableau.enteringColumn tolerance,
    ∀ leaving ∈ tableau.leavingRow tolerance column, ∀ row < tableau.rows.length,
      0 < tableau.cell row column → tableau.cell row column ≤ tolerance →
        tableau.rhs leaving / tableau.cell leaving column ≤
          tableau.rhs row / tableau.cell row column

instance (tolerance : ℚ) (tableau : Tableau ℚ) : Decidable (tableau.BandFree tolerance) :=
  inferInstanceAs (Decidable (∀ column ∈ tableau.enteringColumn tolerance,
    ∀ row < tableau.rows.length,
      ¬(0 < tableau.cell row column ∧ tableau.cell row column ≤ tolerance)))

instance (tolerance : ℚ) (tableau : Tableau ℚ) : Decidable (tableau.Guarded tolerance) :=
  inferInstanceAs (Decidable (∀ column ∈ tableau.enteringColumn tolerance,
    ∀ leaving ∈ tableau.leavingRow tolerance column, ∀ row < tableau.rows.length,
      0 < tableau.cell row column → tableau.cell row column ≤ tolerance →
        tableau.rhs leaving / tableau.cell leaving column ≤
          tableau.rhs row / tableau.cell row column))

theorem BandFree.guarded (bandFree : tableau.BandFree tolerance) : tableau.Guarded tolerance := by
  intro column entering leaving _ row inside positive small
  exact absurd ⟨positive, small⟩ (bandFree column entering row inside)

theorem pivot_rhs (shaped : Shaped n m tableau) {row column index : ℕ} (rowInside : row < m)
    (columnInside : column < n + m) (indexInside : index < m) :
    (tableau.pivot row column).rhs index =
      if index = row then tableau.rhs row / tableau.cell row column
      else tableau.rhs index -
        tableau.rhs row / tableau.cell row column * tableau.cell index column := by
  rw [rhs, (pivot_shaped shaped rowInside columnInside).rhs_column, rhs, rhs, shaped.rhs_column]
  exact pivot_cell shaped rowInside indexInside le_rfl

theorem pivot_corner (shaped : Shaped n m tableau) {row column : ℕ} (rowInside : row < m)
    (columnInside : column < n + m) :
    (tableau.pivot row column).corner =
      tableau.corner - tableau.rhs row / tableau.cell row column * tableau.costAt column := by
  rw [corner, (pivot_shaped shaped rowInside columnInside).rhs_column, corner, rhs,
    shaped.rhs_column]
  exact pivot_cost shaped rowInside le_rfl

/-- How far a row lets the entering column rise before its right-hand side turns
negative; only a positive entry limits it. -/
theorem limit_iff {bound entry step : ℚ} (nonneg : 0 ≤ bound) (stepNonneg : 0 ≤ step) :
    0 ≤ bound - step * entry ↔ (0 < entry → step ≤ bound / entry) := by
  rcases lt_or_ge 0 entry with positive | notPositive
  · rw [sub_nonneg, le_div_iff₀ positive]
    exact ⟨fun limit _ => limit, fun limit => limit positive⟩
  · have product := mul_nonpos_of_nonneg_of_nonpos stepNonneg notPositive
    constructor
    · intro _ positive
      exact absurd positive (not_lt.mpr notPositive)
    · intro _
      linarith

theorem pivot_nonnegative_iff (shaped : Shaped n m tableau) (positive : 0 < tolerance)
    (nonnegative : tableau.Nonnegative) {column row : ℕ}
    (entering : tableau.enteringColumn tolerance = some column)
    (leaving : tableau.leavingRow tolerance column = some row) :
    (tableau.pivot row column).Nonnegative ↔ tableau.Guarded tolerance := by
  have columnInside := (entering_column_some shaped entering).1
  obtain ⟨rowInside, large, least⟩ := leaving_row_some shaped leaving
  have entryPositive := lt_trans positive large
  unfold Nonnegative at nonnegative ⊢
  rw [shaped.rowCount] at nonnegative
  rw [(pivot_shaped shaped rowInside columnInside).rowCount]
  have stepNonneg := div_nonneg (nonnegative row rowInside) entryPositive.le
  constructor
  · intro kept enteringColumn isEntering leavingRow isLeaving index inside bandPositive _
    obtain rfl : column = enteringColumn := Option.some.inj (entering.symm.trans isEntering)
    obtain rfl : row = leavingRow := Option.some.inj (leaving.symm.trans isLeaving)
    rw [shaped.rowCount] at inside
    have after := kept index inside
    rw [pivot_rhs shaped rowInside columnInside inside] at after
    split_ifs at after with same
    · rw [same]
    · exact (limit_iff (nonnegative index inside) stepNonneg).mp after bandPositive
  · intro guarded index inside
    rw [pivot_rhs shaped rowInside columnInside inside]
    split_ifs with same
    · exact stepNonneg
    · rw [limit_iff (nonnegative index inside) stepNonneg]
      intro indexPositive
      -- above the tolerance the ratio test decides, below it the guard
      rcases lt_or_ge tolerance (tableau.cell index column) with tested | skipped
      · exact least index inside tested
      · exact guarded column entering row leaving index (by rw [shaped.rowCount]; exact inside)
          indexPositive skipped

/-- The corner grows by the step times what the entering column gains. -/
theorem pivot_corner_le (shaped : Shaped n m tableau) (positive : 0 < tolerance)
    (nonnegative : tableau.Nonnegative) {column row : ℕ}
    (entering : tableau.enteringColumn tolerance = some column)
    (leaving : tableau.leavingRow tolerance column = some row) :
    tableau.corner ≤ (tableau.pivot row column).corner := by
  obtain ⟨columnInside, costBelow⟩ := entering_column_some shaped entering
  obtain ⟨rowInside, large, _⟩ := leaving_row_some shaped leaving
  have rhsNonneg := nonnegative row (by rw [shaped.rowCount]; exact rowInside)
  have stepNonneg := div_nonneg rhsNonneg (lt_trans positive large).le
  have costNegative : tableau.costAt column ≤ 0 := by linarith
  have gained := mul_nonpos_of_nonneg_of_nonpos stepNonneg costNegative
  rw [pivot_corner shaped rowInside columnInside]
  linarith

theorem nonnegative_of_problem {problem : Problem ℚ} (valid : problem.validate = .ok ())
    (origin : ∀ bound ∈ problem.rhs, 0 ≤ bound) : (ofProblem problem).Nonnegative := by
  intro row inside
  rw [(shaped_of_problem valid).rowCount] at inside
  rw [rhs_of_problem valid inside]
  exact origin _ (Problem.bound_mem inside)

theorem corner_of_problem {problem : Problem ℚ} (valid : problem.validate = .ok ()) :
    (ofProblem problem).corner = 0 := by
  rw [corner, (shaped_of_problem valid).rhs_column]
  exact cost_of_problem_rest problem (Nat.le_add_right _ _)

end Tableau

namespace Simplex

open Tableau

variable {problem : Problem ℚ} {tolerance : ℚ}

theorem visited_nonnegative (valid : problem.validate = .ok ()) (positive : 0 < tolerance)
    (origin : ∀ bound ∈ problem.rhs, 0 ≤ bound) {remaining : ℕ}
    (guarded : ∀ tableau ∈ visited tolerance remaining (ofProblem problem),
      tableau.Guarded tolerance) :
    ∀ tableau ∈ visited tolerance remaining (ofProblem problem), tableau.Nonnegative := by
  apply visited_induction Nonnegative (nonnegative_of_problem valid origin)
  intro tableau member following nonnegative step
  have represents := Represents.visited valid positive tableau member
  obtain ⟨column, row, entering, leaving, rfl⟩ := next_eq_some step
  rw [pivot_nonnegative_iff represents.toShaped positive nonnegative entering leaving]
  exact guarded tableau member

/-- In a run that ends by itself, the guard is all that nonnegative right-hand
sides ask for. -/
theorem visited_nonnegative_iff (valid : problem.validate = .ok ()) (positive : 0 < tolerance)
    (origin : ∀ bound ∈ problem.rhs, 0 ≤ bound) {remaining : ℕ} {last : Tableau ℚ}
    (ends : (visited tolerance remaining (ofProblem problem)).getLast? = some last)
    (finished : next tolerance last = none) :
    (∀ tableau ∈ visited tolerance remaining (ofProblem problem), tableau.Nonnegative) ↔
      ∀ tableau ∈ visited tolerance remaining (ofProblem problem), tableau.Guarded tolerance := by
  constructor
  · intro nonnegative tableau member column entering row leaving
    have represents := Represents.visited valid positive tableau member
    have step := next_of_pivot entering leaving
    have following := next_mem_visited ends finished tableau member _ step
    have guarded := (pivot_nonnegative_iff represents.toShaped positive
      (nonnegative tableau member) entering leaving).mp (nonnegative _ following)
    exact guarded column entering row leaving
  · intro guarded
    exact visited_nonnegative valid positive origin guarded

theorem corner_le_next (valid : problem.validate = .ok ()) (positive : 0 < tolerance)
    {remaining : ℕ} (nonnegative : ∀ tableau ∈ visited tolerance remaining (ofProblem problem),
      tableau.Nonnegative) :
    ∀ tableau ∈ visited tolerance remaining (ofProblem problem), ∀ following,
      next tolerance tableau = some following → tableau.corner ≤ following.corner := by
  intro tableau member following step
  have represents := Represents.visited valid positive tableau member
  obtain ⟨column, row, entering, leaving, rfl⟩ := next_eq_some step
  exact pivot_corner_le represents.toShaped positive (nonnegative tableau member) entering leaving

theorem corner_chain (valid : problem.validate = .ok ()) (positive : 0 < tolerance) {remaining : ℕ}
    (nonnegative : ∀ tableau ∈ visited tolerance remaining (ofProblem problem),
      tableau.Nonnegative) :
    (visited tolerance remaining (ofProblem problem)).IsChain
      fun tableau following => tableau.corner ≤ following.corner :=
  visited_is_chain (corner_le_next valid positive nonnegative)

theorem corner_nonneg (valid : problem.validate = .ok ()) (positive : 0 < tolerance) {remaining : ℕ}
    (nonnegative : ∀ tableau ∈ visited tolerance remaining (ofProblem problem),
      tableau.Nonnegative) :
    ∀ tableau ∈ visited tolerance remaining (ofProblem problem), 0 ≤ tableau.corner := by
  apply visited_induction (fun tableau => 0 ≤ tableau.corner) (corner_of_problem valid).ge
  intro tableau member following cornerNonneg step
  exact cornerNonneg.trans (corner_le_next valid positive nonnegative tableau member _ step)

end Simplex

end LinearProgram
