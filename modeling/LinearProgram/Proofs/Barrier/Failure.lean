import LinearProgram.Proofs.Barrier.Refused

/-!
# Failures of a barrier solve

A solve fails by the check of its input, in one of its iterations, or at the limit. An
iteration fails where its inner solve does, and passes the failure on as it is but for an
unbounded augmented problem; or it breaks down in the correction. So each kind of failure
has one place that it comes from.
-/

namespace LinearProgram

variable {α : Type} [Scalar α]

theorem Simplex.failure_cases {settings : Settings α} {problem : Problem α}
    {cause : SolveError α} (failed : (solve settings problem).outcome = .error cause) :
    cause.OfInput ∨ cause = .unbounded ∨ cause = .iterationLimit settings.maxPivots ∨
      ∃ objective, cause = .infeasible objective := by
  rcases solve_cases settings problem with ⟨_, _, _, early⟩ | early | ⟨valid, positive⟩
  · obtain rfl := Except.error.inj (early.symm.trans failed)
    exact .inl trivial
  · obtain rfl := Except.error.inj (early.symm.trans failed)
    exact .inl trivial
  · rw [solve_outcome valid positive] at failed
    unfold conclude at failed
    split at failed
    · exact .inr (.inl (Except.error.inj failed).symm)
    · exact .inr (.inr (.inl (Except.error.inj failed).symm))
    · dsimp only at failed
      split_ifs at failed
      exact .inr (.inr (.inr ⟨_, (Except.error.inj failed).symm⟩))

namespace Barrier

variable {settings : Settings α} {problem : Problem α} {state : State α} {cause : SolveError α}

/-- The simplex solve that an iteration from a state starts with. -/
def innerRun (settings : Settings α) (problem : Problem α) (state : State α) :
    Run α (Solution α) :=
  Simplex.solve { tolerance := settings.tolerance }
    (augmented problem state.weights state.barrier)

/-! ## Failures of one iteration -/

/-- Only an unbounded augmented problem is reported under another name. -/
theorem inner_failure_iff :
    (innerSolve settings problem state).outcome = .error cause ↔
      cause = .notApplicable ∧ (innerRun settings problem state).outcome = .error .unbounded ∨
        cause ≠ .unbounded ∧ (innerRun settings problem state).outcome = .error cause := by
  unfold innerSolve innerRun
  dsimp only
  split
  · next solved => simp [solved]
  · next unbounded =>
    rw [unbounded]
    constructor
    · intro failed
      exact .inl ⟨(Except.error.inj failed).symm, rfl⟩
    · rintro (⟨rfl, _⟩ | ⟨bounded, same⟩)
      · rfl
      · exact absurd (Except.error.inj same).symm bounded
  · next other bounded failed =>
    rw [failed]
    constructor
    · intro same
      obtain rfl := Except.error.inj same
      exact .inr ⟨bounded, rfl⟩
    · rintro (⟨_, unbounded⟩ | ⟨_, same⟩)
      · exact absurd (Except.error.inj unbounded) bounded
      · rw [Except.error.inj same]

theorem advance_failure {number : ℕ} {answer : List α}
    (failed : (advance settings problem number state answer).outcome = .error cause) :
    cause = .numericalBreakdown number := by
  unfold advance at failed
  dsimp only at failed
  split_ifs at failed
  · exact (Except.error.inj failed).symm
  · exact (Except.error.inj failed).symm

theorem iteration_failure {number : ℕ}
    (failed : (iteration settings problem number state).outcome = .error cause) :
    (innerSolve settings problem state).outcome = .error cause ∨
      cause = .numericalBreakdown number := by
  rcases Run.and_then_eq_error_iff.mp failed with inner | ⟨answer, _, broken⟩
  · exact .inl inner
  · exact .inr (advance_failure broken)

theorem iteration_of_inner_failure (number : ℕ)
    (failed : (innerSolve settings problem state).outcome = .error cause) :
    (iteration settings problem number state).outcome = .error cause :=
  Run.and_then_eq_error_iff.mpr (.inl failed)

/-! ## Failures of a run -/

/-- A solve comes to iteration `count + 1` and begins it in this state. -/
structure Begun (settings : Settings α) (problem : Problem α) (count : ℕ) (state : State α) :
    Prop where
  accepted : checkInputs settings problem = .ok ()
  within : count < settings.maxIterations
  found : stateAfter settings problem count = some state

theorem failure_of_iterate (remaining : ℕ) {count : ℕ}
    (found : stateAfter settings problem count = some state) (log : List (Event α))
    (failed : (iterate settings problem remaining (count + 1) state log).outcome = .error cause) :
    (∃ later < count + remaining, ∃ last, stateAfter settings problem later = some last ∧
        (iteration settings problem (later + 1) last).outcome = .error cause) ∨
      cause = .iterationLimit settings.maxIterations := by
  induction remaining generalizing count state log with
  | zero => exact .inr (Except.error.inj failed).symm
  | succ remaining ih =>
      cases step : (iteration settings problem (count + 1) state).outcome with
      | error early =>
          simp only [iterate, step] at failed
          rw [Except.error.inj failed] at step
          exact .inl ⟨count, by omega, state, found, step⟩
      | ok pair =>
          obtain ⟨following, closed⟩ := pair
          cases closed with
          | true => simp [iterate, step] at failed
          | false =>
              simp only [iterate, step] at failed
              have next := (state_after_succ_iff _ _ _ _).mpr ⟨state, found, step⟩
              apply (ih next _ failed).imp_left
              rintro ⟨later, before, rest⟩
              exact ⟨later, by omega, rest⟩

/-- An iteration that fails decides the outcome of the solve. -/
theorem Begun.failure {count : ℕ} (begun : Begun settings problem count state)
    (failed : (iteration settings problem (count + 1) state).outcome = .error cause) :
    (solve settings problem).outcome = .error cause := by
  obtain ⟨log, run⟩ := solve_eq_iterate begun.accepted begun.found begun.within.le
  obtain ⟨left, isLeft⟩ := Nat.exists_eq_add_of_lt begun.within
  have rest : settings.maxIterations - count = left + 1 := by omega
  rw [run, rest, iterate]
  simp only [failed]

theorem solve_failure_cases (failed : (solve settings problem).outcome = .error cause) :
    checkInputs settings problem = .error cause ∨
      (∃ count state, Begun settings problem count state ∧
        (iteration settings problem (count + 1) state).outcome = .error cause) ∨
      cause = .iterationLimit settings.maxIterations := by
  unfold solve at failed
  split at failed
  · next refused =>
    left
    rw [refused, Except.error.inj failed]
  · next accepted =>
    right
    apply (failure_of_iterate settings.maxIterations rfl [] failed).imp_left
    rintro ⟨count, before, state, found, failedThere⟩
    exact ⟨count, state, ⟨accepted, by omega, found⟩, failedThere⟩

/-! ## The inner solves of a run -/

/-- The inner solves that a solve runs, in order. -/
def innerRuns (settings : Settings α) (problem : Problem α) : List (Run α (Solution α)) :=
  match checkInputs settings problem with
  | .error _ => []
  | .ok () => ((List.range settings.maxIterations).filterMap (stateAfter settings problem)).map
      (innerRun settings problem)

theorem mem_inner_runs_iff (run : Run α (Solution α)) :
    run ∈ innerRuns settings problem ↔
      ∃ count state, Begun settings problem count state ∧ innerRun settings problem state = run := by
  unfold innerRuns
  split
  · next refused =>
    constructor
    · intro member
      exact absurd member List.not_mem_nil
    · rintro ⟨_, _, begun, _⟩
      exact absurd (refused.symm.trans begun.accepted) (by simp)
  · next accepted =>
    simp only [List.mem_map, List.mem_filterMap, List.mem_range]
    constructor
    · rintro ⟨state, ⟨count, within, found⟩, same⟩
      exact ⟨count, state, ⟨accepted, within, found⟩, same⟩
    · rintro ⟨count, state, begun, same⟩
      exact ⟨state, ⟨count, begun.within, begun.found⟩, same⟩

theorem advance_pivot_cells (number : ℕ) (answer : List α) :
    (advance settings problem number state answer).pivotCells = [] := by
  unfold advance
  dsimp only
  split_ifs <;> rfl

theorem iteration_pivot_cells (number : ℕ) :
    (iteration settings problem number state).pivotCells =
      (innerRun settings problem state).pivotCells := by
  unfold iteration Run.andThen
  split
  · rfl
  · next answer _ =>
    have noFurther : (advance settings problem number state answer).events.filterMap
        Event.pivotCell? = [] := advance_pivot_cells number answer
    rw [Run.pivotCells, List.filterMap_append, noFurther, List.append_nil]
    rfl

/-- Nothing follows an iteration that fails or closes all gaps. -/
theorem state_after_ended {count later : ℕ} (ended : stateAfter settings problem count = none)
    (behind : count ≤ later) : stateAfter settings problem later = none := by
  induction later, behind using Nat.le_induction with
  | base => exact ended
  | succ later _ ih => rw [stateAfter, ih, Option.bind_none]

theorem pivot_cells_of_iterate (remaining : ℕ) {count : ℕ}
    (found : stateAfter settings problem count = some state) (log : List (Event α)) :
    (iterate settings problem remaining (count + 1) state log).pivotCells =
      log.reverse.filterMap Event.pivotCell? ++
        ((List.range' count remaining).filterMap (stateAfter settings problem)).flatMap
          fun state => (innerRun settings problem state).pivotCells := by
  induction remaining generalizing count state log with
  | zero => simp [iterate, Run.pivotCells]
  | succ remaining ih =>
      have own : (iteration settings problem (count + 1) state).events.filterMap
          Event.pivotCell? = (innerRun settings problem state).pivotCells :=
        iteration_pivot_cells (count + 1)
      have ends : stateAfter settings problem (count + 1) = none →
          (List.range' (count + 1) remaining).filterMap (stateAfter settings problem) = [] := by
        intro ended
        rw [List.filterMap_eq_nil_iff]
        intro later member
        exact state_after_ended ended (List.mem_range'_1.mp member).1
      rw [List.range'_succ, List.filterMap_cons_some found, List.flatMap_cons, ← own]
      cases step : (iteration settings problem (count + 1) state).outcome with
      | error cause =>
          rw [ends (by simp [stateAfter, found, step])]
          simp [iterate, step, Run.pivotCells]
      | ok pair =>
          obtain ⟨following, closed⟩ := pair
          cases closed with
          | true =>
              rw [ends (by simp [stateAfter, found, step])]
              simp [iterate, step, Run.pivotCells, Event.pivotCell?]
          | false =>
              have next := (state_after_succ_iff _ _ _ _).mpr ⟨state, found, step⟩
              simp only [iterate, step]
              rw [ih next]
              simp

/-- The pivots of a solve are those of its inner solves, one after the other. -/
theorem pivot_cells_eq (settings : Settings α) (problem : Problem α) :
    (solve settings problem).pivotCells =
      (innerRuns settings problem).flatMap Run.pivotCells := by
  unfold solve innerRuns
  cases checkInputs settings problem with
  | error cause => rfl
  | ok =>
      dsimp only
      rw [pivot_cells_of_iterate settings.maxIterations rfl [], List.range_eq_range',
        List.flatMap_map]
      rfl

/-! ## All failures of a solve -/

theorem check_inputs_failure (failed : checkInputs settings problem = .error cause) :
    cause.OfInput := by
  unfold checkInputs at failed
  split at failed
  · next invalid =>
    obtain ⟨_, _, _, rfl⟩ := Problem.validate_error invalid
    rw [← Except.error.inj failed]
    exact trivial
  · split at failed
    · rw [← Except.error.inj failed]
      exact trivial
    · cases failed

theorem solve_of_refused (failed : checkInputs settings problem = .error cause) :
    solve settings problem = ⟨[], .error cause⟩ ∧ innerRuns settings problem = [] := by
  unfold solve innerRuns
  rw [failed]
  exact ⟨rfl, rfl⟩

/-- What a solve of an accepted input fails for, and with which data. -/
theorem run_failure_cases (failed : (solve settings problem).outcome = .error cause)
    (blameless : ¬cause.OfInput) :
    (cause = .notApplicable ∧ ∃ run ∈ innerRuns settings problem, run.outcome = .error .unbounded) ∨
      (∃ objective, cause = .infeasible objective) ∨
      (∃ number, cause = .numericalBreakdown number ∧
        1 ≤ number ∧ number ≤ settings.maxIterations) ∨
      cause = .iterationLimit settings.maxIterations ∨
        cause = .iterationLimit Simplex.standardPivots := by
  rcases solve_failure_cases failed with refused | ⟨count, state, begun, step⟩ | limit
  · exact absurd (check_inputs_failure refused) blameless
  · rcases iteration_failure step with inner | own
    · rcases inner_failure_iff.mp inner with ⟨rfl, unbounded⟩ | ⟨bounded, innerFailed⟩
      · exact .inl ⟨rfl, _, (mem_inner_runs_iff _).mpr ⟨count, state, begun, rfl⟩, unbounded⟩
      · rcases Simplex.failure_cases innerFailed with blame | unbounded | limit | infeasible
        · exact absurd blame blameless
        · exact absurd unbounded bounded
        · exact .inr (.inr (.inr (.inr limit)))
        · exact .inr (.inl infeasible)
    · exact .inr (.inr (.inl ⟨count + 1, own, Nat.succ_pos count, begun.within⟩))
  · exact .inr (.inr (.inr (.inl limit)))

theorem not_applicable_of_unbounded {run : Run α (Solution α)}
    (member : run ∈ innerRuns settings problem) (unbounded : run.outcome = .error .unbounded) :
    (solve settings problem).outcome = .error .notApplicable := by
  obtain ⟨count, state, begun, rfl⟩ := (mem_inner_runs_iff run).mp member
  have inner : (innerSolve settings problem state).outcome = .error .notApplicable :=
    inner_failure_iff.mpr (.inl ⟨rfl, unbounded⟩)
  exact begun.failure (iteration_of_inner_failure (count + 1) inner)

/-- Where the failures of a solve come from. -/
structure FailuresMapped (settings : Settings α) (problem : Problem α) : Prop where
  /-- The input is blamed by the check, in its own words, and by nothing else. -/
  blamed : ∀ cause : SolveError α, cause.OfInput →
    ((solve settings problem).outcome = .error cause ↔ checkInputs settings problem = .error cause)
  /-- The check blames nothing but the input, and then nothing else is done. -/
  refused : ∀ cause, checkInputs settings problem = .error cause →
    cause.OfInput ∧ solve settings problem = ⟨[], .error cause⟩ ∧ innerRuns settings problem = []
  pivots : (solve settings problem).pivotCells = (innerRuns settings problem).flatMap Run.pivotCells
  bounded : (solve settings problem).outcome ≠ .error .unbounded
  notApplicable : (solve settings problem).outcome = .error .notApplicable ↔
    ∃ run ∈ innerRuns settings problem, run.outcome = .error .unbounded
  breakdown : ∀ number, (solve settings problem).outcome = .error (.numericalBreakdown number) →
    1 ≤ number ∧ number ≤ settings.maxIterations
  limit : ∀ count, (solve settings problem).outcome = .error (.iterationLimit count) →
    count = settings.maxIterations ∨ count = 10000

theorem failures_mapped (settings : Settings α) (problem : Problem α) :
    FailuresMapped settings problem := by
  constructor
  case blamed =>
    intro cause blame
    exact blamed_iff blame
  case refused =>
    intro cause failed
    exact ⟨check_inputs_failure failed, solve_of_refused failed⟩
  case pivots => exact pivot_cells_eq settings problem
  case bounded =>
    intro failed
    have sources := run_failure_cases failed id
    simp at sources
  case notApplicable =>
    constructor
    · intro failed
      have sources := run_failure_cases failed id
      simpa using sources
    · rintro ⟨run, member, unbounded⟩
      exact not_applicable_of_unbounded member unbounded
  case breakdown =>
    intro number failed
    have sources := run_failure_cases failed id
    simpa using sources
  case limit =>
    intro count failed
    have sources := run_failure_cases failed id
    simpa [Simplex.standardPivots] using sources

/-- One variable may grow without end, and so does the augmented objective. -/
def growing : Problem Float :=
  ⟨[1, 0], [[-1, 1]], [1]⟩

theorem failures_mapped_of_growing :
    (solve ⟨0.5, 0.0001, 5⟩ growing).outcome = .error .notApplicable ∧
      ∃ run ∈ innerRuns ⟨0.5, 0.0001, 5⟩ growing, run.outcome = .error .unbounded := by
  have failed : (solve ⟨0.5, 0.0001, 5⟩ growing).outcome = .error .notApplicable := by
    decide +kernel
  exact ⟨failed, (failures_mapped ⟨0.5, 0.0001, 5⟩ growing).notApplicable.mp failed⟩

end Barrier

end LinearProgram
