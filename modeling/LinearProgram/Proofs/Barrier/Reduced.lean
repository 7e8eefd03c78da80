import LinearProgram.Proofs.Simplex.Padding
import LinearProgram.Barrier.Augmented

/-!
# Augmented problems without their coupling

Leaving the coupling variables and the last row out of an augmented problem gives
a smaller one. Its columns keep their order in the augmented problem, where the
coupling columns cost nothing and are zero in all rows but the last.
-/

namespace LinearProgram.Barrier

open Tableau

section Rows

variable {α : Type} {problem : Problem α} {weights : List α}

/-- An augmented problem without its coupling variables and its last row. -/
def reduced [Scalar α] (problem : Problem α) (weights : List α) (barrier : α) : Problem α where
  objective := problem.objective ++ [-barrier]
  constraints := List.zipWith (fun row weight => row ++ [weight]) problem.constraints weights
  rhs := problem.rhs

theorem zip_width {width wide : ℕ} {extended : List α → α → List α} {rows : List (List α)}
    (fits : ∀ row ∈ rows, row.length = width)
    (extends_to : ∀ row weight, row.length = width → (extended row weight).length = wide) :
    ∀ row ∈ List.zipWith extended rows weights, row.length = wide := by
  intro row member
  obtain ⟨index, inside, rfl⟩ := List.mem_iff_getElem.mp member
  rw [List.getElem_zipWith]
  exact extends_to _ _ (fits _ (List.getElem_mem _))

variable [Scalar α]

theorem zip_row (valid : problem.validate = .ok ())
    (weighted : weights.length = problem.numConstraints) (extended : List α → α → List α)
    {index : ℕ} (inside : index < problem.numConstraints) :
    (List.zipWith extended problem.constraints weights).getD index [] =
      extended (problem.row index) (weights.getD index 0) := by
  have rowInside : index < problem.constraints.length := by
    rw [((Problem.validate_eq_ok_iff problem).mp valid).1]
    exact inside
  have weightInside : index < weights.length := by rw [weighted]; exact inside
  have zipInside : index < (List.zipWith extended problem.constraints weights).length := by
    rw [List.length_zipWith]
    exact lt_min rowInside weightInside
  rw [List.getD_eq_getElem _ _ zipInside, List.getElem_zipWith, Problem.row,
    List.getD_eq_getElem _ _ rowInside, List.getD_eq_getElem _ _ weightInside]

variable (problem weights) (barrier : α)

theorem reduced_num_variables :
    (reduced problem weights barrier).numVariables = problem.numVariables + 1 := by
  simp [reduced, Problem.numVariables]

theorem reduced_num_constraints :
    (reduced problem weights barrier).numConstraints = problem.numConstraints :=
  rfl

theorem augmented_num_variables :
    (augmented problem weights barrier).numVariables =
      problem.numVariables + problem.numConstraints + 1 := by
  simp [augmented, Problem.numVariables, Nat.add_assoc]

theorem augmented_num_constraints :
    (augmented problem weights barrier).numConstraints = problem.numConstraints + 1 := by
  simp [augmented, Problem.numConstraints]

variable {problem weights}

theorem reduced_valid (valid : problem.validate = .ok ())
    (weighted : weights.length = problem.numConstraints) :
    (reduced problem weights barrier).validate = .ok () := by
  obtain ⟨rowCount, rowWidth⟩ := (Problem.validate_eq_ok_iff problem).mp valid
  rw [Problem.validate_eq_ok_iff, reduced_num_variables]
  refine ⟨?_, zip_width rowWidth ?_⟩
  · rw [reduced_num_constraints, reduced, List.length_zipWith, rowCount, weighted, min_self]
  · intro row weight width
    rw [List.length_append, width, List.length_singleton]

theorem augmented_valid (valid : problem.validate = .ok ())
    (weighted : weights.length = problem.numConstraints) :
    (augmented problem weights barrier).validate = .ok () := by
  obtain ⟨rowCount, rowWidth⟩ := (Problem.validate_eq_ok_iff problem).mp valid
  rw [Problem.validate_eq_ok_iff, augmented_num_variables, augmented_num_constraints, augmented]
  dsimp only
  rw [List.forall_mem_append, List.forall_mem_singleton]
  refine ⟨?_, zip_width rowWidth ?_, ?_⟩
  · rw [List.length_append, List.length_zipWith, rowCount, weighted, min_self,
      List.length_singleton]
  · intro row weight width
    simp [width, Nat.add_assoc]
  · simp [rowCount, Nat.add_assoc]

theorem reduced_row (valid : problem.validate = .ok ())
    (weighted : weights.length = problem.numConstraints) {index : ℕ}
    (inside : index < problem.numConstraints) :
    (reduced problem weights barrier).row index = problem.row index ++ [weights.getD index 0] :=
  zip_row valid weighted _ inside

theorem augmented_row (valid : problem.validate = .ok ())
    (weighted : weights.length = problem.numConstraints) {index : ℕ}
    (inside : index < problem.numConstraints) :
    (augmented problem weights barrier).row index =
      problem.row index ++ List.replicate problem.numConstraints 0 ++ [weights.getD index 0] := by
  have rowCount := ((Problem.validate_eq_ok_iff problem).mp valid).1
  rw [Problem.row, augmented, List.getD_append]
  · exact zip_row valid weighted _ inside
  · rw [List.length_zipWith, rowCount, weighted, min_self]
    exact inside

theorem augmented_last_row (valid : problem.validate = .ok ())
    (weighted : weights.length = problem.numConstraints) :
    (augmented problem weights barrier).row problem.numConstraints =
      List.replicate problem.numVariables 0 ++
        problem.constraints.map (·.getD (problem.numVariables - 1) 0) ++ [0] := by
  have rowCount := ((Problem.validate_eq_ok_iff problem).mp valid).1
  have width : (List.zipWith
      (fun row weight => row ++ List.replicate problem.numConstraints 0 ++ [weight])
        problem.constraints weights).length = problem.numConstraints := by
    rw [List.length_zipWith, rowCount, weighted, min_self]
  rw [Problem.row, augmented, List.getD_append_right _ _ _ _ width.le, width, Nat.sub_self]
  rfl

/-! ## Columns of the smaller problem in the augmented one -/

/-- Ahead of the barrier column stand `m` coupling columns, and ahead of the
right-hand side the slack of the last row. -/
def widen (n m column : ℕ) : ℕ :=
  if column < n then column else if column ≤ n + m then column + m else column + m + 1

theorem widen_variable {n m column : ℕ} (inside : column < n) : widen n m column = column :=
  if_pos inside

theorem widen_barrier (n m : ℕ) : widen n m n = n + m := by
  rw [widen, if_neg (lt_irrefl n), if_pos (Nat.le_add_right n m)]

theorem widen_slack {n m index : ℕ} (inside : index < m) :
    widen n m (n + 1 + index) = n + m + 1 + index := by
  rw [widen, if_neg (by omega), if_pos (by omega)]
  omega

theorem widen_lt {n m column : ℕ} (inside : column < n + 1) : widen n m column < n + m + 1 := by
  unfold widen
  split_ifs <;> omega

theorem le_widen {n m column : ℕ} (rest : n + 1 ≤ column) : n + m + 1 ≤ widen n m column := by
  unfold widen
  split_ifs <;> omega

theorem widen_placement (n m : ℕ) : Placement (n + 1) m (n + m + 1) (m + 1) (widen n m) := by
  refine ⟨?_, Nat.le_succ m, ?_⟩
  · intro first second before
    unfold widen
    split_ifs <;> omega
  · rw [widen, if_neg (by omega), if_neg (by omega)]
    omega

theorem widen_idle_cases {n m position : ℕ} (inside : position ≤ n + m + 1 + (m + 1))
    (idle : Idle (n + 1) m (widen n m) position) :
    (∃ index < m, position = n + index) ∨ position = n + m + 1 + m := by
  have notVariable := idle position
  have notMoved := idle (position - m)
  have notRhs := idle (position - m - 1)
  unfold widen at notVariable notMoved notRhs
  by_cases coupling : n ≤ position ∧ position < n + m
  · exact .inl ⟨position - n, by omega, by omega⟩
  · right
    split_ifs at notVariable notMoved notRhs <;> omega

theorem coupling_idle {n m index : ℕ} (inside : index < m) :
    Idle (n + 1) m (widen n m) (n + index) := by
  intro column columnInside
  unfold widen
  split_ifs <;> omega

theorem last_slack_idle (n m : ℕ) : Idle (n + 1) m (widen n m) (n + m + 1 + m) := by
  intro column inside
  unfold widen
  split_ifs <;> omega

theorem get_widen {front middle : List α} {n m : ℕ} (frontLength : front.length = n)
    (middleLength : middle.length = m) (last : α) {column : ℕ} (inside : column < n + 1) :
    (front ++ middle ++ [last]).getD (widen n m column) 0 = (front ++ [last]).getD column 0 := by
  rcases Nat.lt_or_ge column n with isVariable | isBarrier
  · rw [widen_variable isVariable, List.append_assoc,
      List.getD_append _ _ _ _ (by rw [frontLength]; exact isVariable),
      List.getD_append _ _ _ _ (by rw [frontLength]; exact isVariable)]
  · obtain rfl : column = n := by omega
    have bothLength : (front ++ middle).length = column + m := by
      rw [List.length_append, frontLength, middleLength]
    rw [widen_barrier, List.getD_append_right _ _ _ _ bothLength.le, bothLength, Nat.sub_self,
      List.getD_append_right _ _ _ _ frontLength.le, frontLength, Nat.sub_self]

theorem get_coupling {front : List α} {n m index : ℕ} (frontLength : front.length = n)
    (last : α) (inside : index < m) :
    (front ++ List.replicate m 0 ++ [last]).getD (n + index) 0 = 0 := by
  have bothLength : (front ++ List.replicate m (0 : α)).length = n + m := by
    rw [List.length_append, frontLength, List.length_replicate]
  rw [List.getD_append _ _ _ _ (by rw [bothLength]; omega),
    List.getD_append_right _ _ _ _ (by rw [frontLength]; omega), frontLength,
    Nat.add_sub_cancel_left, List.getD_replicate _ inside]

theorem coefficient_widen (valid : problem.validate = .ok ())
    (weighted : weights.length = problem.numConstraints) {index column : ℕ}
    (inside : index < problem.numConstraints) (columnInside : column < problem.numVariables + 1) :
    (augmented problem weights barrier).coefficient index
        (widen problem.numVariables problem.numConstraints column) =
      (reduced problem weights barrier).coefficient index column := by
  rw [Problem.coefficient, Problem.coefficient, augmented_row barrier valid weighted inside,
    reduced_row barrier valid weighted inside]
  exact get_widen (Problem.row_length valid inside) List.length_replicate _ columnInside

theorem coefficient_coupling (valid : problem.validate = .ok ())
    (weighted : weights.length = problem.numConstraints) {row index : ℕ}
    (rowInside : row < problem.numConstraints) (inside : index < problem.numConstraints) :
    (augmented problem weights barrier).coefficient row (problem.numVariables + index) = 0 := by
  rw [Problem.coefficient, augmented_row barrier valid weighted rowInside]
  exact get_coupling (Problem.row_length valid rowInside) _ inside

theorem coefficient_last_row (valid : problem.validate = .ok ())
    (weighted : weights.length = problem.numConstraints) {column : ℕ}
    (inside : column < problem.numVariables + 1) :
    (augmented problem weights barrier).coefficient problem.numConstraints
      (widen problem.numVariables problem.numConstraints column) = 0 := by
  have rowCount := ((Problem.validate_eq_ok_iff problem).mp valid).1
  rw [Problem.coefficient, augmented_last_row barrier valid weighted,
    get_widen List.length_replicate (by rw [List.length_map, rowCount]) _ inside,
    show ([0] : List α) = List.replicate 1 0 from rfl, ← List.replicate_add]
  exact List.getD_replicate _ inside

theorem gain_widen {column : ℕ} (inside : column < problem.numVariables + 1) :
    (augmented problem weights barrier).gain
        (widen problem.numVariables problem.numConstraints column) =
      (reduced problem weights barrier).gain column :=
  get_widen rfl List.length_replicate _ inside

theorem gain_coupling {index : ℕ} (inside : index < problem.numConstraints) :
    (augmented problem weights barrier).gain (problem.numVariables + index) = 0 :=
  get_coupling rfl _ inside

theorem bound_augmented {index : ℕ} (inside : index < problem.numConstraints) :
    (augmented problem weights barrier).bound index =
      (reduced problem weights barrier).bound index :=
  List.getD_append _ _ _ _ inside

theorem bound_last (problem : Problem α) (weights : List α) (barrier : α) :
    (augmented problem weights barrier).bound problem.numConstraints = 0 := by
  rw [Problem.bound, augmented, Problem.numConstraints,
    List.getD_append_right _ _ _ _ le_rfl, Nat.sub_self]
  rfl

end Rows

end LinearProgram.Barrier
