import LinearProgram.Proofs.Barrier.Caps
import LinearProgram.Proofs.Barrier.Sizes

/-!
# The fields of an answer

An answer is the state after the iteration that found no open gap. Its number of
iterations is also the least cap under which there is an answer at all, and its barrier
has been shrunk once in each of them. No law of arithmetic is used here.
-/

namespace LinearProgram.Barrier

open Scalar

variable {α : Type} [Scalar α] {settings : Settings α} {problem : Problem α} {state : State α}
  {count : ℕ} {result : Result α}

/-! ## The state that is answered with -/

theorem barrier_of_iteration {number : ℕ} {pair : State α × Bool}
    (step : (iteration settings problem number state).outcome = .ok pair) :
    pair.1.barrier = settings.shrinkFactor * state.barrier := by
  obtain ⟨answer, _, advanced⟩ := (iteration_eq_ok_iff _ _ _ _ _).mp step
  obtain ⟨_, _, _, _, _, _, _, rfl⟩ := advance_of_ok advanced
  rfl

theorem point_finite_of_iteration {number : ℕ} {pair : State α × Bool}
    (step : (iteration settings problem number state).outcome = .ok pair) :
    ∀ value ∈ pair.1.point, isFinite value = true := by
  obtain ⟨answer, _, advanced⟩ := (iteration_eq_ok_iff _ _ _ _ _).mp step
  obtain ⟨_, _, _, _, _, _, finite, rfl⟩ := advance_of_ok advanced
  rw [Correction.isFinite, Bool.and_eq_true, allFinite, List.all_eq_true] at finite
  exact finite.1

/-- The barrier starts at one and is multiplied from the left. -/
theorem barrier_after (found : stateAfter settings problem count = some state) :
    state.barrier = (settings.shrinkFactor * ·)^[count] 1 := by
  induction count generalizing state with
  | zero =>
      rw [← Option.some.inj found]
      rfl
  | succ count ih =>
      obtain ⟨before, isBefore, step⟩ := (state_after_succ_iff _ _ _ _).mp found
      rw [Function.iterate_succ_apply', ← ih isBefore]
      exact barrier_of_iteration step

/-! ## The caps with an answer -/

theorem state_after_of_le {earlier : ℕ} (before : earlier ≤ count)
    (found : stateAfter settings problem count = some state) :
    ∃ passed, stateAfter settings problem earlier = some passed := by
  induction count generalizing state with
  | zero =>
      rw [Nat.le_zero.mp before]
      exact ⟨state, found⟩
  | succ count ih =>
      obtain ⟨last, isLast, _⟩ := (state_after_succ_iff _ _ _ _).mp found
      rcases Nat.le_succ_iff.mp before with earlier | rfl
      · exact ih earlier isLast
      · exact ⟨state, found⟩

/-- A solve that may not go on from the state it has reached reports the limit. -/
theorem limit_at_state (accepted : checkInputs settings problem = .ok ())
    (found : stateAfter settings problem count = some state) :
    (solve (settings.withCap count) problem).outcome = .error (.iterationLimit count) := by
  have found' : stateAfter (settings.withCap count) problem count = some state := by simpa
  obtain ⟨log, run⟩ := solve_eq_iterate (by simpa) found' le_rfl
  rw [run, with_cap_max, Nat.sub_self]
  rfl

theorem answer_of_closes (accepted : checkInputs settings problem = .ok ())
    (closes : Closes settings problem count result) :
    (solve (settings.withCap (count + 1)) problem).outcome = .ok result := by
  obtain ⟨state, following, found, closed, rfl⟩ := closes
  have found' : stateAfter (settings.withCap (count + 1)) problem count = some state := by simpa
  obtain ⟨log, run⟩ := solve_eq_iterate (by simpa) found' (Nat.le_succ count)
  rw [run, with_cap_max, Nat.add_sub_cancel_left, iterate, iteration_with_cap, closed]

/-- From the first cap that gives an answer on the run is the same. -/
theorem run_of_closes (accepted : checkInputs settings problem = .ok ())
    (closes : Closes settings problem count result) {cap : ℕ} (enough : count < cap) :
    solve (settings.withCap cap) problem = solve (settings.withCap (count + 1)) problem := by
  have answered := answer_of_closes accepted closes
  apply (solve_raised settings problem (Nat.succ_le_of_lt enough)).resolve_left
  rw [answered]
  exact nofun

/-- An answer has one finite value per variable and the barrier after that many products.
Its number of iterations is positive and within the cap; every smaller cap is reported as
the limit, and every other one gives the same run. -/
theorem answer_of_least_cap (answered : (solve settings problem).outcome = .ok result) :
    (1 ≤ result.iterations ∧ result.iterations ≤ settings.maxIterations) ∧
      result.barrier = (settings.shrinkFactor * ·)^[result.iterations] 1 ∧
      (result.values.length = problem.numVariables ∧
        ∀ value ∈ result.values, isFinite value = true) ∧
      (∀ cap < result.iterations,
        (solve (settings.withCap cap) problem).outcome = .error (.iterationLimit cap)) ∧
      ∀ cap, result.iterations ≤ cap →
        solve (settings.withCap cap) problem = solve settings problem := by
  obtain ⟨accepted, last, within, closes⟩ := closes_of_ok answered
  have sameRun : ∀ cap, last < cap →
      solve (settings.withCap cap) problem = solve (settings.withCap (last + 1)) problem :=
    fun cap enough => run_of_closes accepted closes enough
  have own := sameRun settings.maxIterations within
  rw [with_own_cap] at own
  obtain ⟨state, following, found, closed, rfl⟩ := closes
  refine ⟨⟨Nat.succ_pos last, within⟩, ?_, ⟨?_, point_finite_of_iteration closed⟩, ?_, ?_⟩
  · rw [Function.iterate_succ_apply', ← barrier_after found]
    exact barrier_of_iteration closed
  · exact ((sized_of_state_after found).next closed).point
  · intro cap before
    obtain ⟨passed, isPassed⟩ := state_after_of_le (Nat.le_of_lt_succ before) found
    exact limit_at_state accepted isPassed
  · intro cap enough
    rw [own]
    exact sameRun cap enough

theorem answer_of_least_cap_of_remote_bound :
    (solve halvingFloat remoteBound).outcome = .ok ⟨[1e200], 2, 0.25⟩ ∧
      (0.25 : Float) = (0.5 * ·)^[2] 1 ∧
      (∀ cap < 2,
        (solve (halvingFloat.withCap cap) remoteBound).outcome = .error (.iterationLimit cap)) ∧
      ∀ cap, 2 ≤ cap →
        solve (halvingFloat.withCap cap) remoteBound = solve halvingFloat remoteBound := by
  have answered : (solve halvingFloat remoteBound).outcome = .ok ⟨[1e200], 2, 0.25⟩ := by
    decide +kernel
  obtain ⟨_, barrier, _, limited, same⟩ := answer_of_least_cap answered
  exact ⟨answered, barrier, limited, same⟩

end LinearProgram.Barrier
