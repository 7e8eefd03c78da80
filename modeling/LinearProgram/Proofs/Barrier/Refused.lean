import LinearProgram.Proofs.Barrier.Sizes

/-!
# Refused inputs

A barrier solve refuses an input by the check that it starts with, and by nothing else:
the augmented problems of an accepted input are themselves accepted by every inner solve.
-/

namespace LinearProgram

/-- The input is at fault, and not something met on the way. -/
def SolveError.OfInput {α : Type} : SolveError α → Prop
  | .dimensionMismatch .. | .invalidParameter _ => True
  | _ => False

variable {α : Type} [Scalar α]

theorem Simplex.not_of_input {settings : Settings α} {problem : Problem α}
    (valid : problem.validate = .ok ()) (positive : 0 < settings.tolerance)
    {cause : SolveError α} (failed : (solve settings problem).outcome = .error cause) :
    ¬cause.OfInput := by
  rw [solve_outcome valid positive] at failed
  unfold conclude at failed
  split at failed
  · rw [← Except.error.inj failed]
    exact id
  · rw [← Except.error.inj failed]
    exact id
  · dsimp only at failed
    split_ifs at failed
    rw [← Except.error.inj failed]
    exact id

namespace Barrier

variable {settings : Settings α} {problem : Problem α} {state : State α} {cause : SolveError α}

theorem inner_not_of_input (accepted : Accepted settings problem) (sized : Sized problem state)
    (failed : (innerSolve settings problem state).outcome = .error cause) : ¬cause.OfInput := by
  have valid := augmented_valid state.barrier accepted.valid sized.weights
  unfold innerSolve at failed
  dsimp only at failed
  split at failed
  · cases failed
  · rw [← Except.error.inj failed]
    exact id
  · next inner _ isInner =>
    obtain rfl := Except.error.inj failed
    exact Simplex.not_of_input valid accepted.tolerancePositive isInner

theorem advance_not_of_input {number : ℕ} {answer : List α}
    (failed : (advance settings problem number state answer).outcome = .error cause) :
    ¬cause.OfInput := by
  unfold advance at failed
  dsimp only at failed
  split_ifs at failed <;>
    · rw [← Except.error.inj failed]
      exact id

theorem iteration_not_of_input (accepted : Accepted settings problem)
    (sized : Sized problem state) {number : ℕ}
    (failed : (iteration settings problem number state).outcome = .error cause) :
    ¬cause.OfInput := by
  unfold iteration Run.andThen at failed
  split at failed
  · next inner =>
    obtain rfl := Except.error.inj failed
    exact inner_not_of_input accepted sized inner
  · exact advance_not_of_input failed

theorem iterate_not_of_input (accepted : Accepted settings problem) (remaining number : ℕ)
    (sized : Sized problem state) (log : List (Event α))
    (failed : (iterate settings problem remaining number state log).outcome = .error cause) :
    ¬cause.OfInput := by
  induction remaining generalizing number state log with
  | zero =>
      rw [← Except.error.inj failed]
      exact id
  | succ remaining ih =>
      cases step : (iteration settings problem number state).outcome with
      | error early =>
          simp only [iterate, step, Except.error.injEq] at failed
          rw [← failed]
          exact iteration_not_of_input accepted sized step
      | ok pair =>
          obtain ⟨following, closed⟩ := pair
          cases closed with
          | true => simp [iterate, step] at failed
          | false =>
              simp only [iterate, step] at failed
              exact ih (number + 1) (sized.next step) _ failed

/-- The check decides alone whether a solve blames its input. -/
theorem blamed_iff (blame : cause.OfInput) :
    (solve settings problem).outcome = .error cause ↔
      checkInputs settings problem = .error cause := by
  unfold solve
  split
  · next failed => rw [failed]; simp
  · next passed =>
    have accepted := (check_inputs_eq_ok_iff settings problem).mp passed
    rw [passed]
    simp only [reduceCtorEq, iff_false]
    intro failed
    exact iterate_not_of_input accepted _ _ (.initial problem) [] failed blame

/-! ## Refusals of valid problems -/

theorem check_inputs_of_valid (valid : problem.validate = .ok ()) :
    checkInputs settings problem = .ok () ↔ refusal settings problem = none := by
  rw [checkInputs, valid]
  cases refusal settings problem <;> simp

theorem refused_iff (valid : problem.validate = .ok ()) (reason : Refusal α) :
    (solve settings problem).outcome = .error (.invalidParameter reason) ↔
      refusal settings problem = some reason := by
  rw [blamed_iff (by exact trivial), checkInputs, valid]
  cases refusal settings problem <;> simp

theorem not_refused_iff (valid : problem.validate = .ok ()) :
    (∀ reason, (solve settings problem).outcome ≠ .error (.invalidParameter reason)) ↔
      refusal settings problem = none := by
  simp only [ne_eq, refused_iff valid, Option.eq_none_iff_forall_ne_some]

/-- One variable and one constraint at least, and at most one variable more than there are
constraints. -/
def Fits (problem : Problem α) : Prop :=
  (0 < problem.numVariables ∧ 0 < problem.numConstraints) ∧
    problem.numVariables ≤ problem.numConstraints + 1

theorem refusal_of_fits (fits : Fits problem)
    (shrink : 0 < settings.shrinkFactor ∧ settings.shrinkFactor < 1)
    (tolerance : 0 < settings.tolerance) :
    refusal settings problem = problem.firstNonPositiveRhs.map fun (index, bound) =>
      .rhsNotPositive index bound := by
  obtain ⟨⟨hasVariable, hasConstraint⟩, width⟩ := fits
  have nonempty : ¬(problem.numVariables = 0 ∨ problem.numConstraints = 0) := by omega
  simp only [refusal, nonempty, not_lt.mpr width, shrink, tolerance, and_self, not_true_eq_false,
    if_false]

/-- The shape is looked at before anything else. -/
theorem refusal_of_misfit (settings : Settings α) (misfit : ¬Fits problem) :
    refusal settings problem = some .noVariableOrNoConstraint ∨
      refusal settings problem =
        some (.tooManyVariables problem.numVariables problem.numConstraints) := by
  unfold Fits at misfit
  by_cases empty : problem.numVariables = 0 ∨ problem.numConstraints = 0
  · left
    simp [refusal, empty]
  · right
    have wide : problem.numConstraints + 1 < problem.numVariables := by omega
    simp [refusal, empty, wide]

end Barrier

end LinearProgram
