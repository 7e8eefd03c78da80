import LinearProgram.Proofs.Barrier.Target

/-!
# Augmented problems stand in for the problem

With nonnegative weights and barrier, a feasible point of the problem is one of the
augmented problem when nothing is added, and what a feasible point of the augmented
problem adds only costs. Both have the same bounds on their objective values, and the
same optimum. In a solve the weights and the barrier are positive throughout.
-/

namespace LinearProgram

open Scalar

/-- The objective values of the feasible points. -/
def Problem.attained (problem : Problem ℚ) : Set ℚ :=
  {value | ∃ point, problem.Feasible point ∧ problem.objectiveValue point = value}

namespace Barrier

variable {problem : Problem ℚ} {weights : List ℚ} (barrier : ℚ)

/-! ## Points of an augmented problem -/

theorem augmented_dot_row (valid : problem.validate = .ok ())
    (weighted : weights.length = problem.numConstraints) {index : ℕ}
    (inside : index < problem.numConstraints) {point coupling : List ℚ}
    (pointLength : point.length = problem.numVariables)
    (couplingLength : coupling.length = problem.numConstraints) (last : ℚ) :
    dot ((augmented problem weights barrier).row index) (point ++ coupling ++ [last]) =
      dot (problem.row index) point + weights.getD index 0 * last := by
  have rowLength := Problem.row_length valid inside
  rw [augmented_row barrier valid weighted inside, dot_append, dot_append, dot_zeros_left,
    dot_singleton, add_zero]
  · rw [rowLength, pointLength]
  · simp [rowLength, pointLength, couplingLength]

/-- The last row sees the coupling variables only. -/
theorem augmented_dot_last_row (valid : problem.validate = .ok ())
    (weighted : weights.length = problem.numConstraints) {point coupling : List ℚ}
    (pointLength : point.length = problem.numVariables)
    (couplingLength : coupling.length = problem.numConstraints) (last : ℚ) :
    dot ((augmented problem weights barrier).row problem.numConstraints)
        (point ++ coupling ++ [last]) =
      dot (problem.constraints.map (·.getD (problem.numVariables - 1) 0)) coupling := by
  have rowCount := ((Problem.validate_eq_ok_iff problem).mp valid).1
  rw [augmented_last_row barrier valid weighted, dot_append, dot_append, dot_zeros_left,
    dot_singleton, zero_mul, add_zero, zero_add]
  · rw [List.length_replicate, pointLength]
  · simp [rowCount, pointLength, couplingLength]

theorem augmented_objective_value (problem : Problem ℚ) (weights : List ℚ)
    {point coupling : List ℚ} (pointLength : point.length = problem.numVariables)
    (couplingLength : coupling.length = problem.numConstraints) (last : ℚ) :
    (augmented problem weights barrier).objectiveValue (point ++ coupling ++ [last]) =
      problem.objectiveValue point - barrier * last := by
  rw [Problem.objectiveValue, augmented, dot_append, dot_append, dot_zeros_left, dot_singleton,
    add_zero, neg_mul, ← sub_eq_add_neg]
  · rfl
  · exact pointLength.symm
  · rw [List.length_append, List.length_append, List.length_replicate, pointLength, couplingLength]
    rfl

/-- The parts of a point of the right length. -/
theorem augmented_point_parts (problem : Problem ℚ) (weights : List ℚ) {values : List ℚ}
    (length : values.length = (augmented problem weights barrier).numVariables) :
    ∃ point coupling last, point.length = problem.numVariables ∧
      coupling.length = problem.numConstraints ∧ values = point ++ coupling ++ [last] := by
  rw [augmented_num_variables] at length
  obtain ⟨front, last, rfl⟩ := (List.eq_nil_or_concat values).resolve_left (by
    rintro rfl
    simp at length)
  simp only [List.concat_eq_append, List.length_append, List.length_singleton,
    Nat.add_right_cancel_iff] at length
  refine ⟨front.take problem.numVariables, front.drop problem.numVariables, last, ?_, ?_, ?_⟩
  · rw [List.length_take, length, min_eq_left (Nat.le_add_right _ _)]
  · rw [List.length_drop, length, Nat.add_sub_cancel_left]
  · rw [List.take_append_drop, List.concat_eq_append]

/-! ## Feasible points -/

theorem feasible_padded (valid : problem.validate = .ok ())
    (weighted : weights.length = problem.numConstraints) {point : List ℚ}
    (feasible : problem.Feasible point) :
    (augmented problem weights barrier).Feasible
      (point ++ List.replicate problem.numConstraints 0 ++ [0]) := by
  have zerosLength : (List.replicate problem.numConstraints (0 : ℚ)).length =
      problem.numConstraints := List.length_replicate
  refine ⟨?_, ?_, ?_⟩
  · simp [augmented_num_variables, feasible.length, Nat.add_assoc]
  · intro index inside
    rw [augmented_num_constraints] at inside
    rcases Nat.lt_succ_iff_lt_or_eq.mp inside with own | rfl
    · rw [augmented_dot_row barrier valid weighted own feasible.length zerosLength, mul_zero,
        add_zero, bound_augmented barrier own]
      exact feasible.within index own
    · rw [augmented_dot_last_row barrier valid weighted feasible.length zerosLength,
        dot_zeros_right, bound_last]
  · rw [List.forall_mem_append, List.forall_mem_append]
    refine ⟨⟨feasible.nonneg, ?_⟩, ?_⟩
    · intro value member
      rw [List.eq_of_mem_replicate member]
    · intro value member
      rw [List.mem_singleton.mp member]

/-- Weights are at work against the barrier variable, so a row leaves the point at
least the room that the augmented row does. -/
theorem feasible_of_augmented (valid : problem.validate = .ok ())
    (weighted : weights.length = problem.numConstraints)
    (weightsNonneg : ∀ weight ∈ weights, 0 ≤ weight) {point coupling : List ℚ} {last : ℚ}
    (pointLength : point.length = problem.numVariables)
    (couplingLength : coupling.length = problem.numConstraints)
    (feasible : (augmented problem weights barrier).Feasible (point ++ coupling ++ [last])) :
    problem.Feasible point ∧ 0 ≤ last := by
  obtain ⟨_, within, nonneg⟩ := feasible
  rw [List.forall_mem_append, List.forall_mem_append, List.forall_mem_singleton] at nonneg
  obtain ⟨⟨pointNonneg, _⟩, lastNonneg⟩ := nonneg
  refine ⟨⟨pointLength, ?_, pointNonneg⟩, lastNonneg⟩
  intro index inside
  have weightInside : index < weights.length := weighted.symm ▸ inside
  have weightNonneg : 0 ≤ weights.getD index 0 := by
    rw [List.getD_eq_getElem _ _ weightInside]
    exact weightsNonneg _ (List.getElem_mem weightInside)
  have row := within index (by rw [augmented_num_constraints]; omega)
  rw [augmented_dot_row barrier valid weighted inside pointLength couplingLength,
    bound_augmented barrier inside] at row
  have room := mul_nonneg weightNonneg lastNonneg
  have bound : (reduced problem weights barrier).bound index = problem.bound index := rfl
  linarith

/-- A feasible point of either problem gives one of the other, the objective of the
augmented problem never being the larger one. -/
structure StandsIn (problem : Problem ℚ) (weights : List ℚ) (barrier : ℚ) : Prop where
  padded : ∀ point, problem.Feasible point →
    (augmented problem weights barrier).Feasible
        (point ++ List.replicate problem.numConstraints 0 ++ [0]) ∧
      (augmented problem weights barrier).objectiveValue
          (point ++ List.replicate problem.numConstraints 0 ++ [0]) =
        problem.objectiveValue point
  restricted : ∀ point coupling last, point.length = problem.numVariables →
    coupling.length = problem.numConstraints →
    (augmented problem weights barrier).Feasible (point ++ coupling ++ [last]) →
      problem.Feasible point ∧
        (augmented problem weights barrier).objectiveValue (point ++ coupling ++ [last]) ≤
          problem.objectiveValue point

theorem stands_in (valid : problem.validate = .ok ())
    (weighted : weights.length = problem.numConstraints)
    (weightsNonneg : ∀ weight ∈ weights, 0 ≤ weight) (barrierNonneg : 0 ≤ barrier) :
    StandsIn problem weights barrier := by
  constructor
  · intro point feasible
    refine ⟨feasible_padded barrier valid weighted feasible, ?_⟩
    rw [augmented_objective_value barrier problem weights feasible.length List.length_replicate,
      mul_zero, sub_zero]
  · intro point coupling last pointLength couplingLength feasible
    obtain ⟨pointFeasible, lastNonneg⟩ := feasible_of_augmented barrier valid weighted
      weightsNonneg pointLength couplingLength feasible
    refine ⟨pointFeasible, ?_⟩
    rw [augmented_objective_value barrier problem weights pointLength couplingLength]
    exact sub_le_self _ (mul_nonneg barrierNonneg lastNonneg)

namespace StandsIn

variable {barrier}

theorem attained_subset (standsIn : StandsIn problem weights barrier) :
    problem.attained ⊆ (augmented problem weights barrier).attained := by
  rintro value ⟨point, feasible, rfl⟩
  obtain ⟨paddedFeasible, same⟩ := standsIn.padded point feasible
  exact ⟨_, paddedFeasible, same⟩

theorem attained_cofinal (standsIn : StandsIn problem weights barrier) :
    IsCofinalFor (augmented problem weights barrier).attained problem.attained := by
  rintro value ⟨values, feasible, rfl⟩
  obtain ⟨point, coupling, last, pointLength, couplingLength, rfl⟩ :=
    augmented_point_parts barrier problem weights feasible.length
  obtain ⟨pointFeasible, atMost⟩ :=
    standsIn.restricted point coupling last pointLength couplingLength feasible
  exact ⟨_, ⟨point, pointFeasible, rfl⟩, atMost⟩

theorem upper_bounds_eq (standsIn : StandsIn problem weights barrier) :
    upperBounds (augmented problem weights barrier).attained = upperBounds problem.attained :=
  Set.Subset.antisymm (upperBounds_mono_set standsIn.attained_subset)
    (upperBounds_mono_of_isCofinalFor standsIn.attained_cofinal)

theorem bounded_iff (standsIn : StandsIn problem weights barrier) :
    BddAbove (augmented problem weights barrier).attained ↔ BddAbove problem.attained := by
  rw [BddAbove, BddAbove, standsIn.upper_bounds_eq]

theorem optimum_iff (standsIn : StandsIn problem weights barrier) (best : ℚ) :
    IsGreatest (augmented problem weights barrier).attained best ↔
      IsGreatest problem.attained best := by
  rw [IsGreatest, IsGreatest, standsIn.upper_bounds_eq]
  apply and_congr_left
  intro isBound
  constructor
  · intro attained
    obtain ⟨value, isValue, atMost⟩ := standsIn.attained_cofinal attained
    rw [le_antisymm atMost (isBound isValue)]
    exact isValue
  · intro attained
    exact standsIn.attained_subset attained

end StandsIn

/-! ## The augmented problems of a solve -/

variable {settings : Settings ℚ} {state : State ℚ}

theorem weights_pos (accepted : Accepted settings problem) {count : ℕ}
    (found : stateAfter settings problem count = some state) :
    ∀ weight ∈ state.weights, 0 < weight := by
  cases count with
  | zero =>
      obtain rfl := Option.some.inj found
      intro weight member
      rw [List.eq_of_mem_replicate member]
      exact zero_lt_one
  | succ count =>
      obtain ⟨before, isBefore, step⟩ := (state_after_succ_iff _ _ _ _).mp found
      have tracked := tracked_of_state_after accepted isBefore
      obtain ⟨_, answer, moved⟩ := target_step_of_iteration accepted tracked step
      rw [moved.weights, List.forall_mem_map]
      intro bound member
      exact div_pos (tracked.target_pos accepted)
        (add_pos (accepted.rhsPositive bound member) accepted.tolerancePositive)

theorem barrier_pos (accepted : Accepted settings problem) {count : ℕ}
    (found : stateAfter settings problem count = some state) : 0 < state.barrier := by
  rw [(tracked_of_state_after accepted found).barrier]
  exact pow_pos accepted.shrinkPositive count

/-- With nonnegative weights and barrier the augmented problem stands in for the
problem: the two are bounded together and have the same optimum. At the start of each
iteration of a solve the weights and the barrier are positive. -/
theorem augmented_stands_in (valid : problem.validate = .ok ()) :
    (∀ weights barrier, weights.length = problem.numConstraints →
      (∀ weight ∈ weights, 0 ≤ weight) → 0 ≤ barrier →
        StandsIn problem weights barrier ∧
          (BddAbove (augmented problem weights barrier).attained ↔
            BddAbove problem.attained) ∧
          upperBounds (augmented problem weights barrier).attained =
            upperBounds problem.attained ∧
          ∀ best, IsGreatest (augmented problem weights barrier).attained best ↔
            IsGreatest problem.attained best) ∧
      ∀ settings, checkInputs settings problem = .ok () → ∀ count ≤ settings.maxIterations,
        ∀ state ∈ stateAfter settings problem count,
          (∃ log, solve settings problem = iterate settings problem
            (settings.maxIterations - count) (count + 1) state log) ∧
          state.weights.length = problem.numConstraints ∧
          (∀ weight ∈ state.weights, 0 < weight) ∧ 0 < state.barrier ∧
          StandsIn problem state.weights state.barrier := by
  constructor
  · intro weights barrier weighted weightsNonneg barrierNonneg
    have standsIn := stands_in barrier valid weighted weightsNonneg barrierNonneg
    exact ⟨standsIn, standsIn.bounded_iff, standsIn.upper_bounds_eq, standsIn.optimum_iff⟩
  · intro settings passes count within state found
    have accepted := (check_inputs_eq_ok_iff settings problem).mp passes
    have weighted := (tracked_of_state_after accepted found).weightsLength
    have weightsPositive := weights_pos accepted found
    have barrierPositive := barrier_pos accepted found
    refine ⟨solve_eq_iterate passes found within, weighted, weightsPositive, barrierPositive, ?_⟩
    apply stands_in state.barrier valid weighted _ barrierPositive.le
    intro weight member
    exact (weightsPositive weight member).le

theorem two_rows_optimum : IsGreatest twoRows.attained 1 := by
  have value (point : ℚ) : twoRows.objectiveValue [point] = point := by
    simp [Problem.objectiveValue, dot_eq_range_sum, twoRows]
  constructor
  · have valid : twoRows.validate = .ok () := by decide
    have length : ([1] : List ℚ).length = twoRows.numVariables := rfl
    refine ⟨[1], ?_, value 1⟩
    rw [← Problem.max_violation_eq_zero_iff valid length]
    decide +kernel
  · rintro _ ⟨point, feasible, rfl⟩
    obtain ⟨entry, rfl⟩ := List.length_eq_one_iff.mp feasible.length
    have within := feasible.within 0 (by decide)
    rw [value]
    simpa [dot_eq_range_sum, Problem.row, Problem.bound, twoRows] using within

/-- The augmented problem of the second iteration has the optimum of the problem. -/
theorem augmented_stands_in_of_two_rows :
    checkInputs halving twoRows = .ok () ∧
      stateAfter halving twoRows 1 = some ⟨[7 / 2], [5 / 6, 5 / 18], 1 / 2⟩ ∧
      (∃ log, solve halving twoRows =
        iterate halving twoRows 2 2 ⟨[7 / 2], [5 / 6, 5 / 18], 1 / 2⟩ log) ∧
      (innerSolve halving twoRows ⟨[7 / 2], [5 / 6, 5 / 18], 1 / 2⟩).outcome =
        .ok [1, 0, 0, 0] ∧
      StandsIn twoRows [5 / 6, 5 / 18] (1 / 2) ∧
      IsGreatest (augmented twoRows [5 / 6, 5 / 18] (1 / 2)).attained 1 := by
  have accepted : checkInputs halving twoRows = .ok () := by decide +kernel
  have second : stateAfter halving twoRows 1 = some ⟨[7 / 2], [5 / 6, 5 / 18], 1 / 2⟩ := by
    decide +kernel
  obtain ⟨standIns, states⟩ := augmented_stands_in (by decide : twoRows.validate = .ok ())
  have solved : (innerSolve halving twoRows ⟨[7 / 2], [5 / 6, 5 / 18], 1 / 2⟩).outcome =
      .ok [1, 0, 0, 0] := by decide +kernel
  obtain ⟨loop, weighted, weightsPositive, barrierPositive, standsIn⟩ :=
    states halving accepted 1 (by decide) _ second
  have weightsNonneg : ∀ weight ∈ [(5 / 6 : ℚ), 5 / 18], 0 ≤ weight := by
    intro weight member
    exact (weightsPositive weight member).le
  have optimum := (standIns _ _ weighted weightsNonneg barrierPositive.le).2.2.2 1
  exact ⟨accepted, second, loop, solved, standsIn, optimum.mpr two_rows_optimum⟩

end Barrier

end LinearProgram
