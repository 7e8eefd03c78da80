import LinearProgram.Proofs.Barrier.Coupling
import LinearProgram.Proofs.Barrier.Sizes

/-!
# The targets of the iterations

In exact arithmetic the coupling variables are zero in every inner answer, so each
correction sets the weights from the target alone, and the next target is the last
one times a fixed positive ratio. No target is ever zero, so every iteration leaves
a gap open and a solve has no answer.
-/

namespace LinearProgram.Barrier

open Scalar

variable {settings : Settings ℚ} {problem : Problem ℚ} {state : State ℚ} {answer : List ℚ}

/-- The target of the first iteration. -/
def firstTarget (settings : Settings ℚ) (problem : Problem ℚ) : ℚ :=
  1 / (settings.shrinkFactor * problem.numConstraints) *
    (problem.rhs.map fun bound => 1 / bound).sum

/-- What each target is multiplied with to give the next. -/
def targetRatio (settings : Settings ℚ) (problem : Problem ℚ) : ℚ :=
  1 / (settings.shrinkFactor * problem.numConstraints) *
    (problem.rhs.map fun bound => 1 / (bound * (bound + settings.tolerance))).sum

/-- The target that an iteration takes from the state before it. -/
def stateTarget (settings : Settings ℚ) (problem : Problem ℚ) (state : State ℚ) : ℚ :=
  state.barrier / (settings.shrinkFactor * state.barrier) *
    dualityMeasure state.weights problem.rhs

theorem sum_map_pos {bounds : List ℚ} (nonempty : 0 < bounds.length) {term : ℚ → ℚ}
    (positive : ∀ bound ∈ bounds, 0 < term bound) : 0 < (bounds.map term).sum := by
  apply List.sum_pos
  · rw [List.forall_mem_map]
    exact positive
  · rw [Ne, List.map_eq_nil_iff, ← List.length_eq_zero_iff]
    exact nonempty.ne'

namespace Accepted

theorem scale_pos (accepted : Accepted settings problem) :
    0 < 1 / (settings.shrinkFactor * problem.numConstraints) := by
  have height : (0 : ℚ) < problem.numConstraints := Nat.cast_pos.mpr accepted.hasConstraint
  exact one_div_pos.mpr (mul_pos accepted.shrinkPositive height)

theorem first_target_pos (accepted : Accepted settings problem) :
    0 < firstTarget settings problem := by
  apply mul_pos accepted.scale_pos
  apply sum_map_pos accepted.hasConstraint
  intro bound member
  exact one_div_pos.mpr (accepted.rhsPositive bound member)

theorem target_ratio_pos (accepted : Accepted settings problem) :
    0 < targetRatio settings problem := by
  apply mul_pos accepted.scale_pos
  apply sum_map_pos accepted.hasConstraint
  intro bound member
  have boundPositive := accepted.rhsPositive bound member
  exact one_div_pos.mpr
    (mul_pos boundPositive (add_pos boundPositive accepted.tolerancePositive))

end Accepted

/-! ## The target of a state -/

/-- The measure of weights that are a function of the right-hand sides. -/
theorem duality_measure_map (weight : ℚ → ℚ) (rhs : List ℚ) :
    dualityMeasure (rhs.map weight) rhs =
      (rhs.map fun bound => weight bound / bound).sum / rhs.length := by
  rw [dualityMeasure, sum_eq_list_sum, List.zipWith_map_left, List.zipWith_self, List.length_map]

theorem state_target_eq (settings : Settings ℚ) (weight : ℚ → ℚ)
    (weights : state.weights = problem.rhs.map weight) (positive : 0 < state.barrier) :
    stateTarget settings problem state =
      1 / (settings.shrinkFactor * problem.numConstraints) *
        (problem.rhs.map fun bound => weight bound / bound).sum := by
  have cancelled : state.barrier / (settings.shrinkFactor * state.barrier) =
      1 / settings.shrinkFactor := by
    rw [mul_comm, ← div_div, div_self positive.ne']
  rw [stateTarget, weights, duality_measure_map, cancelled, Problem.numConstraints,
    ← one_div_mul_one_div]
  ring

theorem target_of_initial (settings : Settings ℚ) (problem : Problem ℚ) :
    stateTarget settings problem (.initial problem) = firstTarget settings problem := by
  have weights : (State.initial problem).weights = problem.rhs.map fun _ => 1 := by
    rw [List.map_const']
    rfl
  exact state_target_eq settings _ weights zero_lt_one

theorem target_of_corrected {target : ℚ}
    (weights : state.weights = problem.rhs.map fun bound => target / (bound + settings.tolerance))
    (positive : 0 < state.barrier) :
    stateTarget settings problem state = target * targetRatio settings problem := by
  have terms : (problem.rhs.map fun bound => target / (bound + settings.tolerance) / bound) =
      problem.rhs.map fun bound => target * (1 / (bound * (bound + settings.tolerance))) := by
    apply List.map_congr_left
    intro bound _
    rw [div_div, mul_comm bound, mul_one_div]
  rw [state_target_eq settings _ weights positive, terms, List.sum_map_mul_left, targetRatio]
  ring

/-! ## Corrections of an answer without coupling -/

theorem close_gap_of_zero {target : ℚ} (positive : 0 < target) (second base divisor current : ℚ) :
    closeGap (gap target 0 second) base divisor current = (base + target / divisor, true) := by
  rw [closeGap, gap, zero_mul, sub_zero, if_pos positive]

theorem correct_weights_of_zero {rhs weights : List ℚ} {n : ℕ} {target : ℚ} (tolerance : ℚ)
    (positive : 0 < target) (zero : ∀ index < rhs.length, answer.getD (n + index) 0 = 0)
    (count : weights.length = rhs.length) :
    correctWeights answer n rhs target tolerance weights =
      rhs.map fun bound => (target / (bound + tolerance), true) := by
  apply List.ext_getElem (by rw [correctWeights, List.length_mapIdx, List.length_map, count])
  intro index _ inside
  rw [List.length_map] at inside
  simp only [correctWeights, List.getElem_mapIdx, List.getElem_map,
    List.getElem?_eq_getElem inside]
  rw [zero index inside, close_gap_of_zero positive, zero_add]

theorem correct_point_of_zero {point : List ℚ} {target : ℚ} (tolerance : ℚ)
    (positive : 0 < target) {index : ℕ} (inside : index < point.length)
    (zero : answer.getD (point.length + index) 0 = 0) :
    (correctPoint answer target tolerance point)[index]? =
      some (answer.getD index 0 + target / tolerance, true) := by
  rw [correctPoint, List.getElem?_mapIdx, List.getElem?_eq_getElem inside, Option.map_some]
  dsimp only
  rw [zero, close_gap_of_zero positive, zero_add]

/-- With nothing on the coupling side every weight has an open gap. -/
theorem correct_of_zero {rhs weights : List ℚ} {target : ℚ} (point : List ℚ) (tolerance : ℚ)
    (positive : 0 < target) (nonempty : 0 < rhs.length)
    (zero : ∀ index < rhs.length, answer.getD (point.length + index) 0 = 0)
    (count : weights.length = rhs.length) :
    correct point weights answer rhs target tolerance =
      { point := (correctPoint answer target tolerance point).map (·.1)
        weights := rhs.map fun bound => target / (bound + tolerance)
        converged := false } := by
  have open_gap : (rhs.map fun bound => (target / (bound + tolerance), true)).any (·.2) = true := by
    rw [List.any_eq_true]
    exact ⟨_, List.mem_map_of_mem (List.getElem_mem nonempty), rfl⟩
  rw [correct, correct_weights_of_zero tolerance positive zero count, List.any_append, open_gap,
    List.map_map, Bool.or_true]
  rfl

theorem all_finite_rat (values : List ℚ) : allFinite values = true := by
  rw [allFinite, List.all_eq_true]
  intro value _
  rfl

/-! ## The iterations -/

/-- What is known of the state after `count` iterations: the point depends on the
inner answers, the target does not. -/
structure Tracked (settings : Settings ℚ) (problem : Problem ℚ) (count : ℕ) (state : State ℚ) :
    Prop where
  pointLength : state.point.length = problem.numVariables
  weightsLength : state.weights.length = problem.numConstraints
  barrier : state.barrier = settings.shrinkFactor ^ count
  target : stateTarget settings problem state =
    firstTarget settings problem * targetRatio settings problem ^ count

namespace Tracked

theorem initial (settings : Settings ℚ) (problem : Problem ℚ) :
    Tracked settings problem 0 (.initial problem) := by
  refine ⟨List.length_replicate, List.length_replicate, (pow_zero _).symm, ?_⟩
  rw [target_of_initial, pow_zero, mul_one]

variable {count : ℕ}

theorem target_pos (tracked : Tracked settings problem count state)
    (accepted : Accepted settings problem) : 0 < stateTarget settings problem state := by
  rw [tracked.target]
  exact mul_pos accepted.first_target_pos (pow_pos accepted.target_ratio_pos count)

end Tracked

theorem inner_answer (valid : problem.validate = .ok ())
    (weighted : state.weights.length = problem.numConstraints)
    (solved : (innerSolve settings problem state).outcome = .ok answer) :
    answer.length = problem.numVariables + problem.numConstraints + 1 ∧
      ∀ index < problem.numConstraints, answer.getD (problem.numVariables + index) 0 = 0 := by
  refine ⟨inner_answer_length solved, ?_⟩
  obtain ⟨solution, isSolution, rfl⟩ := inner_solve_eq_ok_iff.mp solved
  obtain ⟨point, last, length, values⟩ := augmented_answer state.barrier valid weighted isSolution
  intro index inside
  rw [values]
  exact get_coupling length last inside

/-- What a correction by a positive target does when the answer has nothing on the
coupling side. An entry of the point that faces no coupling variable is left out. -/
structure TargetStep (settings : Settings ℚ) (problem : Problem ℚ) (target : ℚ)
    (state : State ℚ) (answer : List ℚ) (following : State ℚ) : Prop where
  corrected : correct state.point state.weights answer problem.rhs target settings.tolerance =
    { point := following.point, weights := following.weights, converged := false }
  pointLength : following.point.length = problem.numVariables
  weights : following.weights = problem.rhs.map fun bound => target / (bound + settings.tolerance)
  barrier : following.barrier = settings.shrinkFactor * state.barrier
  point : ∀ index < min problem.numVariables problem.numConstraints,
    following.point[index]? = some (answer.getD index 0 + target / settings.tolerance)

theorem advance_of_zero (accepted : Accepted settings problem) {count : ℕ}
    (tracked : Tracked settings problem count state)
    (zero : ∀ index < problem.numConstraints, answer.getD (problem.numVariables + index) 0 = 0) :
    ∃ following,
      advance settings problem (count + 1) state answer =
          ⟨[.barrierStep (count + 1) state.barrier (dualityMeasure state.weights problem.rhs)
            (stateTarget settings problem state) false], .ok (following, false)⟩ ∧
        TargetStep settings problem (stateTarget settings problem state) state answer
          following := by
  have positive := tracked.target_pos accepted
  have zero' : ∀ index < problem.rhs.length,
      answer.getD (state.point.length + index) 0 = 0 := by
    rw [tracked.pointLength]
    exact zero
  have correction := correct_of_zero state.point settings.tolerance positive
    accepted.hasConstraint zero' tracked.weightsLength
  have finite (correction : Correction ℚ) : correction.isFinite = true := by
    rw [Correction.isFinite, all_finite_rat, all_finite_rat, Bool.and_true]
  refine ⟨⟨(correctPoint answer (stateTarget settings problem state) settings.tolerance
    state.point).map (·.1), _, _⟩, ?_, correction, ?_, rfl, rfl, ?_⟩
  · rw [stateTarget] at correction
    unfold advance
    dsimp only
    rw [correction, finite, all_finite_rat]
    rfl
  · rw [List.length_map, correctPoint, List.length_mapIdx, tracked.pointLength]
  · intro index inside
    rw [lt_min_iff] at inside
    rw [List.getElem?_map, correct_point_of_zero settings.tolerance positive
      (by rw [tracked.pointLength]; exact inside.1) (zero' index inside.2), Option.map_some]

/-- An iteration that comes to an end leaves a gap open, and corrects by the target of
its state. -/
theorem target_step_of_iteration (accepted : Accepted settings problem) {count : ℕ}
    (tracked : Tracked settings problem count state) {following : State ℚ} {closed : Bool}
    (step : (iteration settings problem (count + 1) state).outcome = .ok (following, closed)) :
    closed = false ∧
      ∃ answer, TargetStep settings problem (stateTarget settings problem state) state answer
        following := by
  obtain ⟨answer, solved, advanced⟩ := (iteration_eq_ok_iff _ _ _ _ _).mp step
  have zero := (inner_answer accepted.valid tracked.weightsLength solved).2
  obtain ⟨corrected, run, moved⟩ := advance_of_zero accepted tracked zero
  rw [run] at advanced
  obtain ⟨rfl, rfl⟩ := Prod.mk.inj (Except.ok.inj advanced)
  exact ⟨rfl, answer, moved⟩

theorem Tracked.next (accepted : Accepted settings problem) {count : ℕ}
    (tracked : Tracked settings problem count state) {following : State ℚ}
    (step : (iteration settings problem (count + 1) state).outcome = .ok (following, false)) :
    Tracked settings problem (count + 1) following := by
  obtain ⟨_, answer, moved⟩ := target_step_of_iteration accepted tracked step
  have barrierPositive : 0 < following.barrier := by
    rw [moved.barrier, tracked.barrier]
    exact mul_pos accepted.shrinkPositive (pow_pos accepted.shrinkPositive count)
  refine ⟨moved.pointLength, ?_, ?_, ?_⟩
  · rw [moved.weights, List.length_map]
    rfl
  · rw [moved.barrier, tracked.barrier, pow_succ']
  · rw [target_of_corrected moved.weights barrierPositive, tracked.target, pow_succ, mul_assoc]

theorem tracked_of_state_after (accepted : Accepted settings problem) {count : ℕ}
    (found : stateAfter settings problem count = some state) :
    Tracked settings problem count state := by
  induction count generalizing state with
  | zero =>
      rw [← Option.some.inj found]
      exact Tracked.initial settings problem
  | succ count ih =>
      obtain ⟨before, isBefore, step⟩ := (state_after_succ_iff _ _ _ _).mp found
      exact (ih isBefore).next accepted step

theorem never_closed (accepted : Accepted settings problem) (count : ℕ) :
    ∀ state ∈ stateAfter settings problem count, ∀ following,
      (iteration settings problem (count + 1) state).outcome ≠ .ok (following, true) := by
  intro state found following closed
  have tracked := tracked_of_state_after accepted found
  exact Bool.noConfusion (target_step_of_iteration accepted tracked closed).1

/-- An iteration whose inner solve succeeds leads to a further state. -/
theorem iteration_of_inner (accepted : Accepted settings problem) {count : ℕ}
    (found : stateAfter settings problem count = some state)
    (solved : (innerSolve settings problem state).outcome = .ok answer) :
    ∃ following,
      advance settings problem (count + 1) state answer =
          ⟨[.barrierStep (count + 1) state.barrier (dualityMeasure state.weights problem.rhs)
            (stateTarget settings problem state) false], .ok (following, false)⟩ ∧
        stateAfter settings problem (count + 1) = some following ∧
        TargetStep settings problem (stateTarget settings problem state) state answer
          following := by
  have tracked := tracked_of_state_after accepted found
  have zero := (inner_answer accepted.valid tracked.weightsLength solved).2
  obtain ⟨following, run, moved⟩ := advance_of_zero accepted tracked zero
  refine ⟨following, run, ?_, moved⟩
  rw [state_after_succ_iff]
  refine ⟨state, found, ?_⟩
  rw [iteration_eq_ok_iff]
  exact ⟨answer, solved, by rw [run]⟩

theorem exists_state_after (accepted : Accepted settings problem) {count : ℕ}
    (succeed : ∀ earlier < count, ∀ state ∈ stateAfter settings problem earlier,
      ∃ answer, (innerSolve settings problem state).outcome = .ok answer) :
    ∃ state, stateAfter settings problem count = some state := by
  induction count with
  | zero => exact ⟨_, rfl⟩
  | succ count ih =>
      obtain ⟨state, found⟩ := ih fun earlier before => succeed earlier (Nat.lt_succ_of_lt before)
      obtain ⟨answer, solved⟩ := succeed count (Nat.lt_succ_self count) state found
      obtain ⟨following, _, isFollowing, _⟩ := iteration_of_inner accepted found solved
      exact ⟨following, isFollowing⟩

/-- A solve begins its iteration `count + 1` in a state and goes on from the following one,
with the event of the iteration as the latest of its log. -/
structure Passes (settings : Settings ℚ) (problem : Problem ℚ) (count : ℕ)
    (state following : State ℚ) (event : Event ℚ) : Prop where
  begins : ∃ log, solve settings problem =
    iterate settings problem (settings.maxIterations - count) (count + 1) state log
  proceeds : ∃ log, solve settings problem =
    iterate settings problem (settings.maxIterations - (count + 1)) (count + 2) following
      (event :: log)
  logged : event ∈ (solve settings problem).events

theorem passes_of_advance (passes : checkInputs settings problem = .ok ()) {count : ℕ}
    (within : count < settings.maxIterations)
    (found : stateAfter settings problem count = some state)
    (solved : (innerSolve settings problem state).outcome = .ok answer)
    {following : State ℚ} {event : Event ℚ}
    (run : advance settings problem (count + 1) state answer =
      ⟨[event], .ok (following, false)⟩) :
    Passes settings problem count state following event := by
  have step : (iteration settings problem (count + 1) state).outcome = .ok (following, false) :=
    (iteration_eq_ok_iff _ _ _ _ _).mpr ⟨answer, solved, by rw [run]⟩
  have events : (iteration settings problem (count + 1) state).events =
      (innerSolve settings problem state).events ++ [event] := by
    rw [iteration, Run.andThen, solved]
    dsimp only
    rw [run]
  obtain ⟨log, begins⟩ := solve_eq_iterate passes found within.le
  have left : settings.maxIterations - count = settings.maxIterations - (count + 1) + 1 := by
    omega
  have proceeds := begins
  rw [left, iterate_next step, events, List.reverse_append, List.append_assoc] at proceeds
  refine ⟨⟨log, begins⟩, ⟨_, proceeds⟩, ?_⟩
  rw [proceeds]
  exact mem_iterate_of_log _ _ _ List.mem_cons_self

/-- As long as the inner solves succeed, iteration `count + 1` has the target
`firstTarget * targetRatio ^ count`; it sets every weight, and every entry of the
point that faces a coupling variable, from that target, and it finds an open gap.
No solve in exact arithmetic has an answer. -/
theorem target_geometric (passes : checkInputs settings problem = .ok ()) :
    (∀ count, (∀ earlier ≤ count, ∀ state ∈ stateAfter settings problem earlier,
        ∃ answer, (innerSolve settings problem state).outcome = .ok answer) →
      ∃ state answer following target,
        target = firstTarget settings problem * targetRatio settings problem ^ count ∧
          stateAfter settings problem count = some state ∧
          (innerSolve settings problem state).outcome = .ok answer ∧
          answer.length = problem.numVariables + problem.numConstraints + 1 ∧
          advance settings problem (count + 1) state answer =
            ⟨[.barrierStep (count + 1) (settings.shrinkFactor ^ count)
              (dualityMeasure state.weights problem.rhs) target false],
                .ok (following, false)⟩ ∧
          stateAfter settings problem (count + 1) = some following ∧
          TargetStep settings problem target state answer following ∧
          (count < settings.maxIterations →
            Passes settings problem count state following
              (.barrierStep (count + 1) (settings.shrinkFactor ^ count)
                (dualityMeasure state.weights problem.rhs) target false))) ∧
      ∀ result, (solve settings problem).outcome ≠ .ok result := by
  have accepted := (check_inputs_eq_ok_iff settings problem).mp passes
  refine ⟨?_, solve_not_ok (never_closed accepted)⟩
  intro count succeed
  obtain ⟨state, found⟩ := exists_state_after accepted
    fun earlier before => succeed earlier before.le
  obtain ⟨answer, solved⟩ := succeed count le_rfl state found
  have tracked := tracked_of_state_after accepted found
  have length := (inner_answer accepted.valid tracked.weightsLength solved).1
  obtain ⟨following, run, isFollowing, moved⟩ := iteration_of_inner accepted found solved
  rw [tracked.barrier] at run
  exact ⟨state, answer, following, stateTarget settings problem state, tracked.target, found,
    solved, length, run, isFollowing, moved,
    fun within => passes_of_advance passes within found solved run⟩

def halving : Settings ℚ :=
  ⟨1 / 2, 1 / 2, 3⟩

def twoRows : Problem ℚ :=
  ⟨[1], [[1], [2]], [1, 4]⟩

/-- The target of the second iteration is `5/4 * 13/18`. -/
theorem target_geometric_of_two_rows :
    checkInputs halving twoRows = .ok () ∧
      (∃ following, stateAfter halving twoRows 2 = some following ∧
        TargetStep halving twoRows (65 / 72) ⟨[7 / 2], [5 / 6, 5 / 18], 1 / 2⟩ [1, 0, 0, 0]
          following ∧
        Passes halving twoRows 1 ⟨[7 / 2], [5 / 6, 5 / 18], 1 / 2⟩ following
          (.barrierStep 2 (1 / 2) (65 / 144) (65 / 72) false)) ∧
      ∀ result, (solve halving twoRows).outcome ≠ .ok result := by
  have accepted : checkInputs halving twoRows = .ok () := by decide +kernel
  have first : stateAfter halving twoRows 0 = some ⟨[1], [1, 1], 1⟩ := rfl
  have second : stateAfter halving twoRows 1 = some ⟨[7 / 2], [5 / 6, 5 / 18], 1 / 2⟩ := by
    decide +kernel
  have firstSolved : (innerSolve halving twoRows ⟨[1], [1, 1], 1⟩).outcome =
      .ok [1, 0, 0, 0] := by decide +kernel
  have secondSolved : (innerSolve halving twoRows ⟨[7 / 2], [5 / 6, 5 / 18], 1 / 2⟩).outcome =
      .ok [1, 0, 0, 0] := by decide +kernel
  have target : firstTarget halving twoRows * targetRatio halving twoRows ^ 1 = 65 / 72 := by
    decide +kernel
  obtain ⟨steps, noAnswer⟩ := target_geometric accepted
  refine ⟨accepted, ?_, noAnswer⟩
  have succeed : ∀ earlier ≤ 1, ∀ state ∈ stateAfter halving twoRows earlier,
      ∃ answer, (innerSolve halving twoRows state).outcome = .ok answer := by
    intro earlier bound state found
    obtain rfl | rfl := Nat.le_one_iff_eq_zero_or_eq_one.mp bound
    · obtain rfl := Option.some.inj (first.symm.trans found)
      exact ⟨_, firstSolved⟩
    · obtain rfl := Option.some.inj (second.symm.trans found)
      exact ⟨_, secondSolved⟩
  have measure : dualityMeasure [5 / 6, 5 / 18] twoRows.rhs = 65 / 144 := by decide +kernel
  have barrier : halving.shrinkFactor ^ 1 = 1 / 2 := pow_one _
  obtain ⟨state, answer, following, _, rfl, found, solved, _, _, isFollowing, moved, loop⟩ :=
    steps 1 succeed
  obtain rfl := Option.some.inj (second.symm.trans found)
  obtain rfl := Except.ok.inj (secondSolved.symm.trans solved)
  have passes := loop (by decide)
  rw [target] at moved passes
  rw [measure, barrier] at passes
  exact ⟨following, isFollowing, moved, passes⟩

end LinearProgram.Barrier
