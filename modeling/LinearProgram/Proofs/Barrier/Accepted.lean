import LinearProgram.Proofs.Feasibility
import LinearProgram.Barrier

/-!
# What a barrier solve goes through

The inputs that a solve accepts, and the states that it passes from one iteration
to the next. No law of arithmetic is used here.
-/

namespace LinearProgram

variable {α : Type} [Scalar α]

theorem Problem.first_non_positive_rhs_eq_none_iff (problem : Problem α) :
    problem.firstNonPositiveRhs = none ↔ ∀ bound ∈ problem.rhs, 0 < bound := by
  rw [firstNonPositiveRhs, Option.map_eq_none_iff, List.find?_eq_none]
  constructor
  · intro found bound member
    obtain ⟨index, isBound⟩ := List.mem_iff_getElem?.mp member
    have positive := found (bound, index) (List.mem_zipIdx_iff_getElem?.mpr isBound)
    simpa using positive
  · intro positive bound member
    simpa using positive bound.1 (List.fst_mem_of_mem_zipIdx member)

namespace Barrier

open Scalar

variable {settings : Settings α} {problem : Problem α}

structure Accepted (settings : Settings α) (problem : Problem α) : Prop where
  valid : problem.validate = .ok ()
  hasVariable : 0 < problem.numVariables
  hasConstraint : 0 < problem.numConstraints
  fits : problem.numVariables ≤ problem.numConstraints + 1
  shrinkPositive : 0 < settings.shrinkFactor
  shrinkBelowOne : settings.shrinkFactor < 1
  tolerancePositive : 0 < settings.tolerance
  rhsPositive : ∀ bound ∈ problem.rhs, 0 < bound

theorem refusal_eq_none_iff (settings : Settings α) (problem : Problem α) :
    refusal settings problem = none ↔
      (0 < problem.numVariables ∧ 0 < problem.numConstraints) ∧
        problem.numVariables ≤ problem.numConstraints + 1 ∧
        (0 < settings.shrinkFactor ∧ settings.shrinkFactor < 1) ∧
        0 < settings.tolerance ∧ ∀ bound ∈ problem.rhs, 0 < bound := by
  rw [← Problem.first_non_positive_rhs_eq_none_iff]
  unfold refusal
  dsimp only
  split
  · next empty =>
    rw [iff_false_left (Option.some_ne_none _)]
    omega
  · next nonempty =>
    split
    · rw [iff_false_left (Option.some_ne_none _)]
      omega
    · next fits =>
      split
      · next shrink =>
        rw [iff_false_left (Option.some_ne_none _)]
        exact fun accepted => shrink accepted.2.2.1
      · next shrink =>
        split
        · next tolerance =>
          rw [iff_false_left (Option.some_ne_none _)]
          exact fun accepted => tolerance accepted.2.2.2.1
        · next tolerance =>
          rw [not_not] at shrink tolerance
          rw [Option.map_eq_none_iff]
          constructor
          · intro noBound
            exact ⟨by omega, by omega, shrink, tolerance, noBound⟩
          · intro accepted
            exact accepted.2.2.2.2

theorem check_inputs_eq_ok_iff (settings : Settings α) (problem : Problem α) :
    checkInputs settings problem = .ok () ↔ Accepted settings problem := by
  unfold checkInputs
  cases valid : problem.validate with
  | error cause =>
      simp only [reduceCtorEq, false_iff]
      intro accepted
      rw [accepted.valid] at valid
      cases valid
  | ok =>
      dsimp only
      have passes := refusal_eq_none_iff settings problem
      cases refused : refusal settings problem with
      | some cause =>
          simp only [reduceCtorEq, false_iff]
          intro accepted
          rw [passes.mpr ⟨⟨accepted.hasVariable, accepted.hasConstraint⟩, accepted.fits,
            ⟨accepted.shrinkPositive, accepted.shrinkBelowOne⟩, accepted.tolerancePositive,
            accepted.rhsPositive⟩] at refused
          cases refused
      | none =>
          obtain ⟨⟨hasVariable, hasConstraint⟩, fits, ⟨shrinkPositive, shrinkBelowOne⟩,
            tolerancePositive, rhsPositive⟩ := passes.mp refused
          simp only [true_iff]
          exact ⟨valid, hasVariable, hasConstraint, fits, shrinkPositive, shrinkBelowOne,
            tolerancePositive, rhsPositive⟩

/-! ## The states of a solve -/

theorem iteration_eq_ok_iff (settings : Settings α) (problem : Problem α) (number : ℕ)
    (state : State α) (pair : State α × Bool) :
    (iteration settings problem number state).outcome = .ok pair ↔
      ∃ answer, (innerSolve settings problem state).outcome = .ok answer ∧
        (advance settings problem number state answer).outcome = .ok pair :=
  Run.and_then_eq_ok_iff

/-- What an iteration makes of a state and its answer: the barrier shrinks, and the point
and the weights are those of the correction, all of them finite. -/
theorem advance_of_ok {number : ℕ} {state : State α} {answer : List α} {pair : State α × Bool}
    (advanced : (advance settings problem number state answer).outcome = .ok pair) :
    ∃ target correction,
      target = state.barrier / (settings.shrinkFactor * state.barrier) *
          dualityMeasure state.weights problem.rhs ∧
        correction = correct state.point state.weights answer problem.rhs target
          settings.tolerance ∧
        isFinite target = true ∧ allFinite answer = true ∧ correction.isFinite = true ∧
        pair = (⟨correction.point, correction.weights, settings.shrinkFactor * state.barrier⟩,
          correction.converged) := by
  unfold advance at advanced
  dsimp only at advanced
  split_ifs at advanced with finite corrected
  rw [Bool.and_eq_true] at finite
  exact ⟨_, _, rfl, rfl, finite.1, finite.2, corrected, (Except.ok.inj advanced).symm⟩

/-- The state that `count` iterations lead to, if each of them succeeds and leaves a
gap open. -/
def stateAfter (settings : Settings α) (problem : Problem α) : (count : ℕ) → Option (State α)
  | 0 => some (.initial problem)
  | count + 1 => (stateAfter settings problem count).bind fun state =>
      match (iteration settings problem (count + 1) state).outcome with
      | .ok (following, false) => some following
      | _ => none

theorem state_after_succ_iff (settings : Settings α) (problem : Problem α) (count : ℕ)
    (following : State α) :
    stateAfter settings problem (count + 1) = some following ↔
      ∃ state, stateAfter settings problem count = some state ∧
        (iteration settings problem (count + 1) state).outcome = .ok (following, false) := by
  rw [stateAfter, Option.bind_eq_some_iff]
  apply exists_congr
  intro state
  apply and_congr_right
  intro _
  split
  · next outcome => simp [outcome]
  · next other =>
    rw [iff_false_left (by simp)]
    exact other following

/-- An iteration that leaves a gap open adds its events to the log. -/
theorem iterate_next {number remaining : ℕ} {state following : State α} {log : List (Event α)}
    (step : (iteration settings problem number state).outcome = .ok (following, false)) :
    iterate settings problem (remaining + 1) number state log =
      iterate settings problem remaining (number + 1) following
        ((iteration settings problem number state).events.reverse ++ log) := by
  simp only [iterate, step]

/-- Nothing is taken off a log. -/
theorem mem_iterate_of_log {event : Event α} (remaining number : ℕ) (state : State α)
    {log : List (Event α)} (logged : event ∈ log) :
    event ∈ (iterate settings problem remaining number state log).events := by
  induction remaining generalizing number state log with
  | zero => exact List.mem_reverse.mpr logged
  | succ remaining ih =>
      have kept : event ∈ (iteration settings problem number state).events.reverse ++ log :=
        List.mem_append_right _ logged
      unfold iterate
      dsimp only
      split
      · exact List.mem_reverse.mpr kept
      · exact List.mem_reverse.mpr (.tail _ kept)
      · exact ih _ _ kept

/-- After `count` iterations a solve goes on from `stateAfter` with the iterations that
are left. -/
theorem solve_eq_iterate (accepted : checkInputs settings problem = .ok ()) {count : ℕ}
    {state : State α} (found : stateAfter settings problem count = some state)
    (within : count ≤ settings.maxIterations) :
    ∃ log, solve settings problem =
      iterate settings problem (settings.maxIterations - count) (count + 1) state log := by
  induction count generalizing state with
  | zero =>
      obtain rfl := Option.some.inj found
      exact ⟨[], by simp [solve, accepted]⟩
  | succ count ih =>
      obtain ⟨before, isBefore, step⟩ := (state_after_succ_iff _ _ _ _).mp found
      obtain ⟨log, run⟩ := ih isBefore (Nat.le_of_succ_le within)
      have left : settings.maxIterations - count = settings.maxIterations - (count + 1) + 1 := by
        omega
      rw [left, iterate_next step] at run
      exact ⟨_, run⟩

/-- Iteration `count + 1` finds no open gap, and the state after it is the answer. -/
def Closes (settings : Settings α) (problem : Problem α) (count : ℕ) (result : Result α) :
    Prop :=
  ∃ state following, stateAfter settings problem count = some state ∧
    (iteration settings problem (count + 1) state).outcome = .ok (following, true) ∧
    result = ⟨following.point, count + 1, following.barrier⟩

theorem closes_of_iterate (remaining : ℕ) {count : ℕ} {state : State α}
    (found : stateAfter settings problem count = some state) (log : List (Event α))
    {result : Result α}
    (answered : (iterate settings problem remaining (count + 1) state log).outcome = .ok result) :
    ∃ last < count + remaining, Closes settings problem last result := by
  induction remaining generalizing count state log with
  | zero => simp [iterate] at answered
  | succ remaining ih =>
      cases step : (iteration settings problem (count + 1) state).outcome with
      | error cause => simp [iterate, step] at answered
      | ok pair =>
          obtain ⟨following, closed⟩ := pair
          cases closed with
          | true =>
              simp only [iterate, step, Except.ok.injEq] at answered
              exact ⟨count, by omega, state, following, found, step, answered.symm⟩
          | false =>
              simp only [iterate, step] at answered
              have next := (state_after_succ_iff _ _ _ _).mpr ⟨state, found, step⟩
              obtain ⟨last, before, closes⟩ := ih next _ answered
              exact ⟨last, by omega, closes⟩

/-- An answer comes from an accepted input and an iteration that closes all gaps. -/
theorem closes_of_ok {result : Result α}
    (answered : (solve settings problem).outcome = .ok result) :
    checkInputs settings problem = .ok () ∧
      ∃ last < settings.maxIterations, Closes settings problem last result := by
  unfold solve at answered
  split at answered
  · simp at answered
  · next accepted =>
    obtain ⟨last, before, closes⟩ := closes_of_iterate settings.maxIterations rfl [] answered
    exact ⟨accepted, last, by omega, closes⟩

theorem solve_not_ok
    (neverClosed : ∀ count, ∀ state ∈ stateAfter settings problem count, ∀ following,
      (iteration settings problem (count + 1) state).outcome ≠ .ok (following, true))
    (result : Result α) : (solve settings problem).outcome ≠ .ok result := by
  intro answered
  obtain ⟨_, last, _, state, following, found, closed, _⟩ := closes_of_ok answered
  exact neverClosed last state found following closed

end Barrier

end LinearProgram
