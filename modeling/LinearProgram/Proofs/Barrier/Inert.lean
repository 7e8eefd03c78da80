import LinearProgram.Proofs.Barrier.Coupling
import LinearProgram.Proofs.Barrier.Sizes
import LinearProgram.Proofs.Doubles

/-!
# The coupling variables in rounded arithmetic

With rounding, overflow and NaN a run on an augmented problem need not be the run
on the smaller problem without coupling. What is left of the padding is weaker:
its entries stay signless, so that no added column ever enters. This is enough to
keep the coupling variables at zero in every answer.
-/

namespace LinearProgram

open Scalar

namespace Tableau

variable {α : Type} [Scalar α] {n m n' m' : ℕ} {columns : ℕ → ℕ} {tableau : Tableau α}
  {tolerance : α}

/-- The padding of a padded tableau, as far as it survives in rounded arithmetic. -/
structure Inert (n m n' m' : ℕ) (columns : ℕ → ℕ) (tableau : Tableau α) : Prop where
  shaped : Shaped n' m' tableau
  idleCell : ∀ row < m, ∀ position ≤ n' + m', Idle n m columns position →
    Signless (tableau.cell row position)
  idleCost : ∀ position ≤ n' + m', Idle n m columns position →
    Signless (tableau.costAt position)
  idleRow : ∀ row < m', m ≤ row → ∀ column ≤ n + m, Signless (tableau.cell row (columns column))
  idleBasic : ∀ row < m', Idle n m columns (tableau.basicColumn row) →
    n' ≤ tableau.basicColumn row

namespace Inert

theorem values_idle (inert : Inert n m n' m' columns tableau) {position : ℕ}
    (inside : position < n') (idle : Idle n m columns position) :
    tableau.values.getD position 0 = 0 := by
  have nonbasic : ∀ row < m', tableau.basicColumn row ≠ position := by
    rintro row rowInside rfl
    exact absurd inside (inert.idleBasic row rowInside idle).not_gt
  rw [List.getD_eq_getElem?_getD, values_nonbasic inert.shaped inside nonbasic]
  rfl

variable [SignLaws α]

theorem entering (placement : Placement n m n' m' columns) (first : columns 0 = 0)
    (inert : Inert n m n' m' columns tableau) (positive : 0 < tolerance) {position : ℕ}
    (chosen : tableau.enteringColumn tolerance = some position) :
    ∃ column < n + m, columns column = position := by
  obtain ⟨inside, costly, least⟩ := entering_column_cases inert.shaped chosen
  rcases placement.column_cases inside with placed | idle
  · exact placed
  · rcases least with rfl | ⟨other, below⟩
    · exact absurd first (idle 0 (Nat.zero_le _))
    · have signless := inert.idleCost position inside.le idle
      exact absurd (SignLaws.neg_le signless positive below) costly

theorem pivot (placement : Placement n m n' m' columns)
    (inert : Inert n m n' m' columns tableau) (positive : 0 < tolerance) {row column : ℕ}
    (columnInside : column < n + m) (rowInside : row < m')
    (limits : ¬tableau.cell row (columns column) ≤ tolerance) :
    Inert n m n' m' columns (tableau.pivot row (columns column)) := by
  have shaped := inert.shaped
  -- an added row can only limit by an entry that is NaN, and then all of it turns to NaN
  have quotient {position : ℕ} (signless : row < m → Signless (tableau.cell row position)) :
      Signless (tableau.cell row position / tableau.cell row (columns column)) := by
    rcases Nat.lt_or_ge row m with own | added
    · exact SignLaws.div _ (signless own)
    · exact SignLaws.div_unordered _
        (inert.idleRow row rowInside added column columnInside.le) positive limits
  constructor
  case shaped => exact pivot_shaped shaped rowInside (placement.lt columnInside)
  case idleCell =>
    intro index indexInside position inside idle
    have indexInBig := lt_of_lt_of_le indexInside placement.rowCount
    have scaled := quotient fun own => inert.idleCell row own position inside idle
    rw [pivot_cell shaped rowInside indexInBig inside]
    split_ifs
    · exact scaled
    · exact SignLaws.sub (inert.idleCell index indexInside position inside idle)
        (SignLaws.mul_left _ scaled)
  case idleCost =>
    intro position inside idle
    have scaled := quotient fun own => inert.idleCell row own position inside idle
    rw [pivot_cost shaped rowInside inside]
    exact SignLaws.sub (inert.idleCost position inside idle) (SignLaws.mul_left _ scaled)
  case idleRow =>
    intro index indexInside added position inside
    rw [pivot_cell shaped rowInside indexInside (placement.le inside)]
    split_ifs with isRow
    · exact quotient fun own => absurd own (isRow ▸ added).not_gt
    · exact SignLaws.sub (inert.idleRow index indexInside added position inside)
        (SignLaws.mul_right _ (inert.idleRow index indexInside added column columnInside.le))
  case idleBasic =>
    intro index indexInside idle
    rw [pivot_basic_column shaped indexInside] at idle ⊢
    split_ifs at idle ⊢
    · exact absurd rfl (idle column columnInside.le)
    · exact inert.idleBasic index indexInside idle

theorem next (placement : Placement n m n' m' columns) (first : columns 0 = 0)
    (inert : Inert n m n' m' columns tableau) (positive : 0 < tolerance) {following : Tableau α}
    (step : Simplex.next tolerance tableau = some following) :
    Inert n m n' m' columns following := by
  obtain ⟨position, row, entering, leaving, rfl⟩ := Simplex.next_eq_some step
  obtain ⟨column, columnInside, rfl⟩ := inert.entering placement first positive entering
  obtain ⟨rowInside, limits⟩ := leaving_row_cases inert.shaped leaving
  exact inert.pivot placement positive columnInside rowInside limits

end Inert

end Tableau

namespace Barrier

open Tableau

variable {α : Type} [Scalar α] [SignLaws α] {problem : Problem α} {weights : List α}

theorem inert_start (barrier : α) (valid : problem.validate = .ok ())
    (weighted : weights.length = problem.numConstraints) :
    Inert (problem.numVariables + 1) problem.numConstraints
      (problem.numVariables + problem.numConstraints + 1) (problem.numConstraints + 1)
      (widen problem.numVariables problem.numConstraints)
      (ofProblem (augmented problem weights barrier)) := by
  have shaped := shaped_of_problem (augmented_valid barrier valid weighted)
  rw [augmented_num_variables, augmented_num_constraints] at shaped
  constructor
  case shaped => exact shaped
  case idleCell =>
    intro row rowInside position inside idle
    rw [start_idle_cell barrier valid weighted rowInside inside idle]
    exact SignLaws.zero
  case idleCost =>
    intro position inside idle
    rcases start_idle_cost_cases barrier problem weights inside idle with isZero | isNegated
    · rw [isZero]
      exact SignLaws.zero
    · rw [isNegated]
      exact SignLaws.neg SignLaws.zero
  case idleRow =>
    intro row rowInside added column inside
    obtain rfl : row = problem.numConstraints := by omega
    rw [start_last_row barrier valid weighted inside]
    exact SignLaws.zero
  case idleBasic =>
    intro row rowInside _
    rw [augmented_basic_column barrier problem weights rowInside]
    exact Nat.le_add_right _ _

theorem inert_tableaux (settings : Simplex.Settings α) (barrier : α)
    (valid : problem.validate = .ok ()) (weighted : weights.length = problem.numConstraints)
    (nonempty : 0 < problem.numVariables) (positive : 0 < settings.tolerance) :
    ∀ tableau ∈ Simplex.tableaux settings (augmented problem weights barrier),
      Inert (problem.numVariables + 1) problem.numConstraints
        (problem.numVariables + problem.numConstraints + 1) (problem.numConstraints + 1)
        (widen problem.numVariables problem.numConstraints) tableau := by
  apply Simplex.visited_induction _ (inert_start barrier valid weighted)
  intro tableau _ following inert step
  exact inert.next (widen_placement _ _) (widen_variable nonempty) positive step

/-- The coupling variables are zero in every inner answer, in rounded arithmetic too. -/
theorem inner_answer_coupling {settings : Settings α} {state : State α} {answer : List α}
    (accepted : Accepted settings problem) (sized : Sized problem state)
    (solved : (innerSolve settings problem state).outcome = .ok answer) {index : ℕ}
    (inside : index < problem.numConstraints) :
    answer.getD (problem.numVariables + index) 0 = 0 := by
  obtain ⟨solution, isSolution, rfl⟩ := inner_solve_eq_ok_iff.mp solved
  have last := inert_tableaux { tolerance := settings.tolerance } state.barrier accepted.valid
    sized.weights accepted.hasVariable accepted.tolerancePositive _
    (Simplex.final_mem _ _)
  rw [(Simplex.answered_of_ok isSolution).values]
  exact last.values_idle (by omega) (coupling_idle inside)

end Barrier

end LinearProgram
