import LinearProgram.Proofs.Barrier.Target
import LinearProgram.Proofs.Checked.Simplex

/-!
# The barrier method with checked accesses

The method with every access checked. On an accepted input no access fails, whatever
the arithmetic: the states keep their sizes, so each augmented problem is valid, and
each correction finds the entries of the inner answer that it looks for. The slack
entry `n + i` of variable `i` is there because `n` is at most `m + 1`.
-/

namespace LinearProgram.Checked

open Scalar Barrier

variable {α : Type} [Scalar α]

/-- The coupling row looks for the last entry of each constraint row. -/
def augmented (problem : Problem α) (weights : List α) (barrier : α) : Option (Problem α) := do
  let coupling ← problem.constraints.mapM fun row => do
    let last ← subtract problem.numVariables 1
    row[last]?
  some
    { objective := problem.objective ++ List.replicate problem.numConstraints 0 ++ [-barrier]
      constraints :=
        List.zipWith
            (fun row weight => row ++ List.replicate problem.numConstraints 0 ++ [weight])
            problem.constraints weights ++
          [List.replicate problem.numVariables 0 ++ coupling ++ [0]]
      rhs := problem.rhs ++ [0] }

/-- One entry of the point, with a flag that tells whether its gap was open. -/
def correctEntry (answer : List α) (numVariables : ℕ) (target tolerance : α) (index : ℕ)
    (current : α × Bool) : Option (α × Bool) := do
  let inner ← answer[index]?
  let slack ← answer[numVariables + index]?
  some (closeGap (gap target slack inner) inner (slack + tolerance) current.1)

def correctWeight (answer : List α) (numVariables : ℕ) (rhs : List α) (target tolerance : α)
    (index : ℕ) (current : α × Bool) : Option (α × Bool) := do
  let slack ← answer[numVariables + index]?
  let bound ← rhs[index]?
  some (closeGap (gap target slack bound) slack (bound + tolerance) current.1)

def correct (point weights answer rhs : List α) (target tolerance : α) :
    Option (Correction α) := do
  let points ← update (correctEntry answer point.length target tolerance) point.length
    (point.map (·, false))
  let weighted ← update (correctWeight answer point.length rhs target tolerance)
    (min weights.length rhs.length) (weights.map (·, false))
  some
    { point := points.map (·.1)
      weights := weighted.map (·.1)
      converged := !(points ++ weighted).any (·.2) }

def innerSolve (settings : Settings α) (problem : Problem α) (state : State α) :
    Option (Run α (List α)) := do
  let inner ← augmented problem state.weights state.barrier
  let run ← simplexSolve { tolerance := settings.tolerance } inner
  some ⟨run.events,
    match run.outcome with
    | .ok solution => .ok solution.values
    | .error .unbounded => .error .notApplicable
    | .error cause => .error cause⟩

def advance (settings : Settings α) (problem : Problem α) (iteration : ℕ) (state : State α)
    (answer : List α) : Option (Run α (State α × Bool)) :=
  let measure := dualityMeasure state.weights problem.rhs
  let shrunk := settings.shrinkFactor * state.barrier
  let target := (state.barrier / shrunk) * measure
  if isFinite target && allFinite answer then do
    let correction ←
      correct state.point state.weights answer problem.rhs target settings.tolerance
    let step := .barrierStep iteration state.barrier measure target correction.converged
    if correction.isFinite then
      some ⟨[step], .ok (⟨correction.point, correction.weights, shrunk⟩, correction.converged)⟩
    else some ⟨[step], .error (.numericalBreakdown iteration)⟩
  else some ⟨[], .error (.numericalBreakdown iteration)⟩

def iteration (settings : Settings α) (problem : Problem α) (number : ℕ) (state : State α) :
    Option (Run α (State α × Bool)) := do
  let inner ← innerSolve settings problem state
  match inner.outcome with
  | .error cause => some ⟨inner.events, .error cause⟩
  | .ok answer =>
      let step ← advance settings problem number state answer
      some ⟨inner.events ++ step.events, step.outcome⟩

def iterate (settings : Settings α) (problem : Problem α) :
    (remaining number : ℕ) → State α → (log : List (Event α)) → Option (Run α (Result α))
  | 0, _, _, log => some ⟨log.reverse, .error (.iterationLimit settings.maxIterations)⟩
  | remaining + 1, number, state, log => do
      let step ← iteration settings problem number state
      let log := step.events.reverse ++ log
      match step.outcome with
      | .error cause => some ⟨log.reverse, .error cause⟩
      | .ok (next, true) =>
          some ⟨(.converged number next.barrier :: log).reverse,
            .ok ⟨next.point, number, next.barrier⟩⟩
      | .ok (next, false) => iterate settings problem remaining (number + 1) next log

def barrierSolve (settings : Settings α) (problem : Problem α) : Option (Run α (Result α)) :=
  match checkInputs settings problem with
  | .error cause => some ⟨[], .error cause⟩
  | .ok () => iterate settings problem settings.maxIterations 1 (.initial problem) []

/-! ## The augmented problem and the correction -/

variable {settings : Settings α} {problem : Problem α} {state : State α}

theorem augmented_eq (valid : problem.validate = .ok ()) (hasVariable : 0 < problem.numVariables)
    (weights : List α) (barrier : α) :
    augmented problem weights barrier = some (Barrier.augmented problem weights barrier) := by
  have rowWidth := ((Problem.validate_eq_ok_iff problem).mp valid).2
  rw [augmented, map_inside (·.getD (problem.numVariables - 1) 0)]
  · rfl
  · intro row member
    have lastInside : problem.numVariables - 1 < row.length := by
      rw [rowWidth row member]
      omega
    rw [subtract_of_le hasVariable, Option.bind_eq_bind, Option.bind_some]
    exact read_entry lastInside

/-- Each variable has an entry and a slack entry in an answer to an augmented problem
that has at most `m + 1` variables of the problem itself. -/
theorem correct_point_eq {answer point : List α} (target tolerance : α)
    (room : ∀ index < point.length, point.length + index < answer.length) :
    update (correctEntry answer point.length target tolerance) point.length
        (point.map (·, false)) =
      some (correctPoint answer target tolerance point) := by
  have length : (point.map (·, false)).length = point.length := List.length_map _
  rw [update_all _ (fun index (current : α × Bool) =>
    closeGap (gap target (answer.getD (point.length + index) 0) (answer.getD index 0))
      (answer.getD index 0) (answer.getD (point.length + index) 0 + tolerance) current.1) length]
  · apply congrArg some
    apply List.ext_getElem (by simp [correctPoint])
    intro index _ _
    simp only [correctPoint, List.getElem_mapIdx, List.getElem_map]
  · intro index inside
    rw [length] at inside
    have slackInside := room index inside
    rw [correctEntry, read_entry (by omega), read_entry slackInside]
    rfl

theorem correct_weights_eq {answer weights rhs : List α} (n : ℕ) (target tolerance : α)
    (sameLength : weights.length = rhs.length)
    (room : ∀ index < weights.length, n + index < answer.length) :
    update (correctWeight answer n rhs target tolerance) (min weights.length rhs.length)
        (weights.map (·, false)) =
      some (correctWeights answer n rhs target tolerance weights) := by
  have length : (weights.map (·, false)).length = weights.length := List.length_map _
  rw [← sameLength, min_self, update_all _ (fun index (current : α × Bool) =>
    closeGap (gap target (answer.getD (n + index) 0) (rhs.getD index 0))
      (answer.getD (n + index) 0) (rhs.getD index 0 + tolerance) current.1) length]
  · apply congrArg some
    apply List.ext_getElem (by simp [correctWeights])
    intro index inside _
    have boundInside : index < rhs.length := by
      rw [List.length_mapIdx, length, sameLength] at inside
      exact inside
    simp only [correctWeights, List.getElem_mapIdx, List.getElem_map,
      List.getElem?_eq_getElem boundInside, List.getD_eq_getElem _ _ boundInside]
  · intro index inside
    rw [length] at inside
    rw [correctWeight, read_entry (room index inside), read_entry (sameLength ▸ inside)]
    rfl

theorem correct_eq {point weights answer rhs : List α} (target tolerance : α)
    (sameLength : weights.length = rhs.length)
    (room : point.length + max point.length weights.length ≤ answer.length) :
    correct point weights answer rhs target tolerance =
      some (Barrier.correct point weights answer rhs target tolerance) := by
  rw [correct, correct_point_eq target tolerance fun _ _ => by omega, Option.bind_eq_bind,
    Option.bind_some,
    correct_weights_eq point.length target tolerance sameLength fun _ _ => by omega]
  rfl

/-! ## The iterations -/

theorem inner_solve_eq (accepted : Accepted settings problem) (state : State α) :
    innerSolve settings problem state = some (Barrier.innerSolve settings problem state) := by
  rw [innerSolve, augmented_eq accepted.valid accepted.hasVariable, Option.bind_eq_bind,
    Option.bind_some, simplex_solve_eq]
  rfl

theorem advance_eq (accepted : Accepted settings problem) (sized : Sized problem state)
    (number : ℕ) {answer : List α}
    (answerLength : answer.length = problem.numVariables + problem.numConstraints + 1) :
    advance settings problem number state answer =
      some (Barrier.advance settings problem number state answer) := by
  have room : state.point.length + max state.point.length state.weights.length ≤
      answer.length := by
    have fits := accepted.fits
    rw [answerLength, sized.point, sized.weights]
    omega
  rw [advance, Barrier.advance]
  dsimp only
  rw [correct_eq _ _ sized.weights room, Option.bind_eq_bind, Option.bind_some]
  split_ifs <;> rfl

theorem iteration_eq (accepted : Accepted settings problem) (sized : Sized problem state)
    (number : ℕ) :
    iteration settings problem number state =
      some (Barrier.iteration settings problem number state) := by
  rw [iteration, inner_solve_eq accepted, Option.bind_eq_bind, Option.bind_some,
    Barrier.iteration, Run.andThen]
  cases inner : (Barrier.innerSolve settings problem state).outcome with
  | error cause => rfl
  | ok answer =>
      dsimp only
      rw [advance_eq accepted sized number (inner_answer_length inner)]
      rfl

theorem iterate_eq (accepted : Accepted settings problem) (remaining number : ℕ)
    (sized : Sized problem state) (log : List (Event α)) :
    iterate settings problem remaining number state log =
      some (Barrier.iterate settings problem remaining number state log) := by
  induction remaining generalizing number state log with
  | zero => rfl
  | succ remaining ih =>
      rw [iterate, iteration_eq accepted sized, Option.bind_eq_bind, Option.bind_some,
        Barrier.iterate]
      dsimp only
      cases step : (Barrier.iteration settings problem number state).outcome with
      | error cause => rfl
      | ok pair =>
          obtain ⟨following, closed⟩ := pair
          cases closed with
          | true => rfl
          | false => exact ih (number + 1) (sized.next step) _

theorem barrier_solve_eq (settings : Settings α) (problem : Problem α) :
    barrierSolve settings problem = some (Barrier.solve settings problem) := by
  rw [barrierSolve, Barrier.solve]
  cases passes : checkInputs settings problem with
  | error cause => rfl
  | ok =>
      have accepted := (check_inputs_eq_ok_iff settings problem).mp passes
      exact iterate_eq accepted settings.maxIterations 1 (.initial problem) []

/-! ## What the accesses rest on -/

/-- Indices into a tableau of a run. -/
structure TableauInside (problem : Problem α) (tableau : Tableau α) : Prop where
  shaped : tableau.Shaped problem.numVariables problem.numConstraints
  entering : ∀ tolerance column, tableau.enteringColumn tolerance = some column →
    column < problem.numVariables + problem.numConstraints
  leaving : ∀ tolerance column row, tableau.leavingRow tolerance column = some row →
    row < problem.numConstraints
  values : tableau.values.length = problem.numVariables

/-- Indices that an iteration from a state uses. -/
structure StateInside (settings : Settings α) (problem : Problem α) (state : State α) : Prop where
  sized : Sized problem state
  hasVariable : 1 ≤ problem.numVariables
  lastEntry : ∀ row ∈ problem.constraints, problem.numVariables - 1 < row.length
  augmentedValid : (Barrier.augmented problem state.weights state.barrier).validate = .ok ()
  innerTableaux : ∀ tableau ∈ Simplex.tableaux { tolerance := settings.tolerance }
      (Barrier.augmented problem state.weights state.barrier),
    TableauInside (Barrier.augmented problem state.weights state.barrier) tableau
  answerLength : ∀ answer, (Barrier.innerSolve settings problem state).outcome = .ok answer →
    answer.length = problem.numVariables + problem.numConstraints + 1
  pointReads : ∀ index < problem.numVariables,
    index < problem.numVariables + problem.numConstraints + 1 ∧
      problem.numVariables + index < problem.numVariables + problem.numConstraints + 1
  weightReads : ∀ index < problem.numConstraints,
    problem.numVariables + index < problem.numVariables + problem.numConstraints + 1

theorem tableau_inside {tableau : Tableau α}
    (shaped : tableau.Shaped problem.numVariables problem.numConstraints) :
    TableauInside problem tableau where
  shaped := shaped
  entering := fun _ _ => Tableau.entering_column_lt shaped
  leaving := fun _ _ _ => Tableau.leaving_row_lt shaped
  values := Tableau.values_length shaped

theorem state_inside (accepted : Accepted settings problem) (sized : Sized problem state) :
    StateInside settings problem state := by
  have augmentedValid := augmented_valid state.barrier accepted.valid sized.weights
  have rowWidth := ((Problem.validate_eq_ok_iff problem).mp accepted.valid).2
  have hasVariable := accepted.hasVariable
  have fits := accepted.fits
  refine ⟨sized, hasVariable, ?_, augmentedValid, ?_, fun _ => inner_answer_length, ?_, ?_⟩
  · intro row member
    rw [rowWidth row member]
    exact Nat.sub_one_lt_of_lt hasVariable
  · intro tableau member
    exact tableau_inside (Simplex.tableaux_shaped _ augmentedValid tableau member)
  · omega
  · omega

/-- Neither solver leaves its lists, for any problem and any arithmetic: with every
access checked it has the same run. The tableaux of a run have the shape of the
problem, and the states of a barrier solve fit the augmented problems built from them. -/
theorem solves_stay_inside (problem : Problem α) :
    (∀ settings, simplexSolve settings problem = some (Simplex.solve settings problem)) ∧
      (∀ settings, barrierSolve settings problem = some (Barrier.solve settings problem)) ∧
      (problem.validate = .ok () → ∀ settings, ∀ tableau ∈ Simplex.tableaux settings problem,
        TableauInside problem tableau) ∧
      ∀ settings, checkInputs settings problem = .ok () → ∀ count,
        ∀ state ∈ stateAfter settings problem count, StateInside settings problem state := by
  refine ⟨fun settings => simplex_solve_eq settings problem,
    fun settings => barrier_solve_eq settings problem, ?_, ?_⟩
  · intro valid settings tableau member
    exact tableau_inside (Simplex.tableaux_shaped settings valid tableau member)
  · intro settings passes count state found
    have accepted := (check_inputs_eq_ok_iff settings problem).mp passes
    exact state_inside accepted (sized_of_state_after found)

/-- A simplex run of two tableaux, and the second iteration of a barrier solve. -/
theorem solves_stay_inside_of_two_rows :
    twoRows.validate = .ok () ∧ checkInputs halving twoRows = .ok () ∧
      (Simplex.tableaux ⟨1 / 2, 5⟩ twoRows).length = 2 ∧
      (∀ tableau ∈ Simplex.tableaux ⟨1 / 2, 5⟩ twoRows, TableauInside twoRows tableau) ∧
      StateInside halving twoRows ⟨[7 / 2], [5 / 6, 5 / 18], 1 / 2⟩ ∧
      simplexSolve ⟨1 / 2, 5⟩ twoRows = some (Simplex.solve ⟨1 / 2, 5⟩ twoRows) ∧
      barrierSolve halving twoRows = some (Barrier.solve halving twoRows) := by
  have valid : twoRows.validate = .ok () := by decide
  have accepted : checkInputs halving twoRows = .ok () := by decide +kernel
  have second : stateAfter halving twoRows 1 = some ⟨[7 / 2], [5 / 6, 5 / 18], 1 / 2⟩ := by
    decide +kernel
  obtain ⟨simplexRun, barrierRun, tableaux, states⟩ := solves_stay_inside twoRows
  exact ⟨valid, accepted, by decide +kernel, tableaux valid _, states halving accepted 1 _ second,
    simplexRun _, barrierRun _⟩

end LinearProgram.Checked
