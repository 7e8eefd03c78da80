import LinearProgram.Proofs.Feasibility
import LinearProgram.Simplex

/-!
# The tableaux of a run

A run goes through a list of tableaux, from the start to the one its verdict is
taken from. An invariant is checked at the start and over one pivot, and then
holds at all of them.
-/

namespace LinearProgram.Simplex

variable {α : Type} [Scalar α]

/-- The tableau after the pivot that the method makes, if it makes one. -/
def next (tolerance : α) (tableau : Tableau α) : Option (Tableau α) :=
  match tableau.enteringColumn tolerance with
  | none => none
  | some column => (tableau.leavingRow tolerance column).map fun row => tableau.pivot row column

def visited (tolerance : α) : (remaining : Nat) → Tableau α → List (Tableau α)
  | 0, tableau => [tableau]
  | remaining + 1, tableau =>
      match next tolerance tableau with
      | none => [tableau]
      | some following => tableau :: visited tolerance remaining following

/-- All tableaux of the run that a solve makes. -/
def tableaux (settings : Settings α) (problem : Problem α) : List (Tableau α) :=
  visited settings.tolerance settings.maxPivots (.ofProblem problem)

/-- The tableau that the answer of a solve is read off. -/
def final (settings : Settings α) (problem : Problem α) : Tableau α :=
  (optimize settings.tolerance settings.maxPivots (.ofProblem problem)).tableau

theorem next_eq_some {tolerance : α} {tableau following : Tableau α}
    (step : next tolerance tableau = some following) :
    ∃ column row, tableau.enteringColumn tolerance = some column ∧
      tableau.leavingRow tolerance column = some row ∧ following = tableau.pivot row column := by
  unfold next at step
  split at step
  · cases step
  · next column entering =>
    obtain ⟨row, leaving, rfl⟩ := Option.map_eq_some_iff.mp step
    exact ⟨column, row, entering, leaving, rfl⟩

theorem next_of_pivot {tolerance : α} {tableau : Tableau α} {column row : Nat}
    (entering : tableau.enteringColumn tolerance = some column)
    (leaving : tableau.leavingRow tolerance column = some row) :
    next tolerance tableau = some (tableau.pivot row column) := by
  simp [next, entering, leaving]

theorem next_of_optimal {tolerance : α} {tableau : Tableau α}
    (entering : tableau.enteringColumn tolerance = none) : next tolerance tableau = none := by
  simp [next, entering]

theorem next_of_unbounded {tolerance : α} {tableau : Tableau α} {column : Nat}
    (entering : tableau.enteringColumn tolerance = some column)
    (leaving : tableau.leavingRow tolerance column = none) : next tolerance tableau = none := by
  simp [next, entering, leaving]

/-! ## What the pivot loop does -/

/-- What a verdict says about the tableau it is taken from. -/
def Verdict.Fits (tolerance : α) (tableau : Tableau α) : Verdict → Prop
  | .optimal => tableau.enteringColumn tolerance = none
  | .unbounded => ∃ column, tableau.enteringColumn tolerance = some column ∧
      tableau.leavingRow tolerance column = none
  | .limitReached => ∃ column, tableau.enteringColumn tolerance = some column

/-- A pivot at a cell that is logged with its column first. -/
def pivotAt (tableau : Tableau α) (cell : Nat × Nat) : Tableau α :=
  tableau.pivot cell.2 cell.1

/-- The events of pivots on these cells, the first of which has number `first`. -/
def numberedPivots (first : ℕ) : List (ℕ × ℕ) → List (Event α)
  | [] => []
  | cell :: rest => .pivot first cell.1 cell.2 :: numberedPivots (first + 1) rest

omit [Scalar α] in
theorem numbered_pivots_cells (first : ℕ) (cells : List (ℕ × ℕ)) :
    (numberedPivots first cells : List (Event α)).filterMap Event.pivotCell? = cells := by
  induction cells generalizing first with
  | nil => rfl
  | cons cell rest ih =>
      have own : (Event.pivot first cell.1 cell.2 : Event α).pivotCell? = some cell := rfl
      rw [numberedPivots, List.filterMap_cons_some own, ih]

/-- The loop stops at the last of the visited tableaux, with a verdict that fits
it, and the pivots that it logs lead from each of them to the following one. -/
theorem descend_spec (tolerance : α) (remaining done : Nat) (tableau : Tableau α)
    (log : List (Event α)) :
    (visited tolerance remaining tableau).getLast? =
        some (descend tolerance remaining done tableau log).tableau ∧
      (descend tolerance remaining done tableau log).verdict.Fits tolerance
        (descend tolerance remaining done tableau log).tableau ∧
      ∃ cells,
        (descend tolerance remaining done tableau log).pivots =
          log.reverse ++ numberedPivots done cells ∧
        visited tolerance remaining tableau = cells.scanl pivotAt tableau := by
  have noPivot : ∀ (done : Nat) (tableau : Tableau α), ∃ cells,
      (numberedPivots done cells : List (Event α)) = [] ∧
        [tableau] = cells.scanl pivotAt tableau :=
    fun _ _ => ⟨[], rfl, rfl⟩
  induction remaining generalizing done tableau log with
  | zero =>
      cases entering : tableau.enteringColumn tolerance with
      | none => simp [descend, visited, entering, Verdict.Fits, noPivot]
      | some column => simp [descend, visited, entering, Verdict.Fits, noPivot]
  | succ remaining ih =>
      cases entering : tableau.enteringColumn tolerance with
      | none => simp [descend, visited, next_of_optimal entering, entering, Verdict.Fits, noPivot]
      | some column =>
          cases leaving : tableau.leavingRow tolerance column with
          | none =>
              simp [descend, visited, next_of_unbounded entering leaving, entering, leaving,
                Verdict.Fits, noPivot]
          | some row =>
              obtain ⟨last, fits, cells, logged, scanned⟩ := ih (done + 1)
                (tableau.pivot row column) (.pivot done column row :: log)
              simp only [descend, visited, next_of_pivot entering leaving, entering, leaving]
              refine ⟨?_, fits, (column, row) :: cells, ?_, ?_⟩
              · rw [List.getLast?_cons, last]
                rfl
              · rw [logged, List.reverse_cons, List.append_assoc, List.singleton_append,
                  numberedPivots]
              · rw [List.scanl_cons, scanned]
                rfl

section Outcome

variable {settings : Settings α} {problem : Problem α}

theorem final_is_last (settings : Settings α) (problem : Problem α) :
    (tableaux settings problem).getLast? = some (final settings problem) :=
  (descend_spec settings.tolerance settings.maxPivots 0 (.ofProblem problem) []).1

theorem final_mem (settings : Settings α) (problem : Problem α) :
    final settings problem ∈ tableaux settings problem :=
  List.mem_of_getLast? (final_is_last settings problem)

theorem verdict_fits (settings : Settings α) (problem : Problem α) :
    (optimize settings.tolerance settings.maxPivots (.ofProblem problem)).verdict.Fits
      settings.tolerance (final settings problem) :=
  (descend_spec settings.tolerance settings.maxPivots 0 (.ofProblem problem) []).2.1

/-! ## Outcomes of a solve -/

theorem solve_outcome (valid : problem.validate = .ok ()) (positive : 0 < settings.tolerance) :
    (solve settings problem).outcome = conclude settings problem
      (optimize settings.tolerance settings.maxPivots (.ofProblem problem)) := by
  simp [solve, valid, positive]

/-- The tableaux of a run are those that the pivots of the solve lead through. -/
theorem tableaux_eq_scanl (valid : problem.validate = .ok ()) (positive : 0 < settings.tolerance) :
    tableaux settings problem =
      (solve settings problem).pivotCells.scanl pivotAt (.ofProblem problem) := by
  obtain ⟨_, _, cells, logged, scanned⟩ :=
    descend_spec settings.tolerance settings.maxPivots 0 (.ofProblem problem) []
  have events : (solve settings problem).events =
      (optimize settings.tolerance settings.maxPivots (.ofProblem problem)).pivots := by
    simp [solve, valid, positive]
  have same : (solve settings problem).pivotCells = cells := by
    rw [Run.pivotCells, events, optimize, logged]
    exact numbered_pivots_cells 0 cells
  rw [same]
  exact scanned

/-- Every tableau of a run but the last is left by a pivot. -/
theorem pivot_cells_length (valid : problem.validate = .ok ()) (positive : 0 < settings.tolerance) :
    (solve settings problem).pivotCells.length + 1 = (tableaux settings problem).length := by
  rw [tableaux_eq_scanl valid positive, List.length_scanl]

/-- A solve fails before its first pivot for the shape or for the tolerance. -/
theorem solve_cases (settings : Settings α) (problem : Problem α) :
    (∃ part expected found,
        (solve settings problem).outcome = .error (.dimensionMismatch part expected found)) ∨
      (solve settings problem).outcome =
        .error (.invalidParameter (.toleranceNotPositive settings.tolerance)) ∨
      problem.validate = .ok () ∧ 0 < settings.tolerance := by
  cases valid : problem.validate with
  | error cause =>
      obtain ⟨part, expected, found, rfl⟩ := Problem.validate_error valid
      exact .inl ⟨part, expected, found, by simp [solve, valid]⟩
  | ok =>
      by_cases positive : 0 < settings.tolerance
      · exact .inr (.inr ⟨rfl, positive⟩)
      · exact .inr (.inl (by simp [solve, valid, positive]))

/-- Every other outcome is concluded from the last tableau. -/
theorem concluded_of_outcome {result : Except (SolveError α) (Solution α)}
    (outcome : (solve settings problem).outcome = result)
    (notShape : ∀ part expected found, result ≠ .error (.dimensionMismatch part expected found))
    (notTolerance : ∀ value, result ≠ .error (.invalidParameter (.toleranceNotPositive value))) :
    problem.validate = .ok () ∧ 0 < settings.tolerance ∧
      conclude settings problem
        (optimize settings.tolerance settings.maxPivots (.ofProblem problem)) = result := by
  rcases solve_cases settings problem with ⟨_, _, _, early⟩ | early | ⟨valid, positive⟩
  · exact absurd (outcome.symm.trans early) (notShape _ _ _)
  · exact absurd (outcome.symm.trans early) (notTolerance _)
  · rw [solve_outcome valid positive] at outcome
    exact ⟨valid, positive, outcome⟩

/-- The answer of a solve is read off an optimal tableau. -/
structure Answered (settings : Settings α) (problem : Problem α) (solution : Solution α) :
    Prop where
  valid : problem.validate = .ok ()
  positive : 0 < settings.tolerance
  optimal : (final settings problem).enteringColumn settings.tolerance = none
  values : solution.values = (final settings problem).values
  objective : solution.objective = problem.objectiveValue solution.values

theorem answered_of_ok {solution : Solution α}
    (solved : (solve settings problem).outcome = .ok solution) :
    Answered settings problem solution := by
  obtain ⟨valid, positive, concluded⟩ := concluded_of_outcome solved (by simp) (by simp)
  have fits := verdict_fits settings problem
  unfold conclude at concluded
  split at concluded
  · cases concluded
  · cases concluded
  · next verdict =>
    rw [verdict] at fits
    dsimp only at concluded
    split_ifs at concluded
    obtain rfl := Except.ok.inj concluded
    exact ⟨valid, positive, fits, rfl, rfl⟩

/-- An unbounded verdict is taken from a column that no row limits. -/
structure Unlimited (settings : Settings α) (problem : Problem α) (column : Nat) : Prop where
  valid : problem.validate = .ok ()
  positive : 0 < settings.tolerance
  entering : (final settings problem).enteringColumn settings.tolerance = some column
  unlimited : (final settings problem).leavingRow settings.tolerance column = none

theorem unlimited_of_unbounded (failed : (solve settings problem).outcome = .error .unbounded) :
    ∃ column, Unlimited settings problem column := by
  obtain ⟨valid, positive, concluded⟩ := concluded_of_outcome failed (by simp) (by simp)
  have fits := verdict_fits settings problem
  unfold conclude at concluded
  split at concluded
  · next verdict =>
    rw [verdict] at fits
    obtain ⟨column, entering, unlimited⟩ := fits
    exact ⟨column, valid, positive, entering, unlimited⟩
  · cases concluded
  · dsimp only at concluded
    split_ifs at concluded
    cases concluded

theorem infeasible_objective {objective : α}
    (failed : (solve settings problem).outcome = .error (.infeasible objective)) :
    objective = problem.objectiveValue (final settings problem).values ∧
      objective < -settings.tolerance := by
  obtain ⟨_, _, concluded⟩ := concluded_of_outcome failed (by simp) (by simp)
  unfold conclude at concluded
  split at concluded
  · cases concluded
  · cases concluded
  · dsimp only at concluded
    split_ifs at concluded with below
    obtain rfl := SolveError.infeasible.inj (Except.error.inj concluded)
    exact ⟨rfl, below⟩

end Outcome

/-! ## Invariants of a run -/

variable {tolerance : α}

theorem start_mem (tolerance : α) (remaining : Nat) (start : Tableau α) :
    start ∈ visited tolerance remaining start := by
  cases remaining with
  | zero => exact List.mem_singleton_self start
  | succ remaining =>
      unfold visited
      split <;> exact List.mem_cons_self

/-- The step may use that it starts from a tableau of the run. -/
theorem visited_induction (invariant : Tableau α → Prop) {remaining : Nat} {start : Tableau α}
    (initial : invariant start)
    (step : ∀ tableau ∈ visited tolerance remaining start, ∀ following,
      invariant tableau → next tolerance tableau = some following → invariant following) :
    ∀ tableau ∈ visited tolerance remaining start, invariant tableau := by
  induction remaining generalizing start with
  | zero =>
      intro tableau member
      rw [List.mem_singleton.mp member]
      exact initial
  | succ remaining ih =>
      unfold visited at step ⊢
      split at step
      · intro tableau member
        rw [List.mem_singleton.mp member]
        exact initial
      · next following pivoted =>
        rw [List.forall_mem_cons] at step ⊢
        exact ⟨initial, ih (step.1 following initial pivoted) step.2⟩

/-- What every pivot of a run establishes holds along the run. The last tableau is
left out, since no pivot starts from it. -/
theorem performed_is_chain {relation : Tableau α → Tableau α → Prop} {remaining : Nat}
    {start : Tableau α}
    (step : ∀ tableau ∈ (visited tolerance remaining start).dropLast, ∀ following,
      next tolerance tableau = some following → relation tableau following) :
    (visited tolerance remaining start).IsChain relation := by
  induction remaining generalizing start with
  | zero => exact List.isChain_singleton start
  | succ remaining ih =>
      unfold visited at step ⊢
      split at step
      · exact List.isChain_singleton start
      · next following pivoted =>
        have nonempty := List.ne_nil_of_mem (start_mem tolerance remaining following)
        rw [List.dropLast_cons_of_ne_nil nonempty, List.forall_mem_cons] at step
        rw [List.isChain_cons]
        refine ⟨?_, ih step.2⟩
        intro second isSecond
        have second_eq : second = following := by
          cases remaining with
          | zero => exact (Option.some.inj isSecond).symm
          | succ remaining =>
              unfold visited at isSecond
              split at isSecond <;> exact (Option.some.inj isSecond).symm
        rw [second_eq]
        exact step.1 following pivoted

theorem visited_is_chain {relation : Tableau α → Tableau α → Prop} {remaining : Nat}
    {start : Tableau α}
    (step : ∀ tableau ∈ visited tolerance remaining start, ∀ following,
      next tolerance tableau = some following → relation tableau following) :
    (visited tolerance remaining start).IsChain relation := by
  apply performed_is_chain
  intro tableau member
  exact step tableau (List.mem_of_mem_dropLast member)

/-- A run that ends where no pivot is left has visited the tableau after every
pivot. -/
theorem next_mem_visited {remaining : Nat} {start last : Tableau α}
    (ends : (visited tolerance remaining start).getLast? = some last)
    (finished : next tolerance last = none) :
    ∀ tableau ∈ visited tolerance remaining start, ∀ following,
      next tolerance tableau = some following →
        following ∈ visited tolerance remaining start := by
  induction remaining generalizing start with
  | zero =>
      intro tableau member following pivoted
      obtain rfl : start = last := Option.some.inj ends
      rw [List.mem_singleton.mp member, finished] at pivoted
      cases pivoted
  | succ remaining ih =>
      unfold visited at ends ⊢
      split at ends
      · next stuck =>
        intro tableau member following pivoted
        rw [List.mem_singleton.mp member, stuck] at pivoted
        cases pivoted
      · next second pivoted =>
        have ends' : (visited tolerance remaining second).getLast? = some last := by
          have nonempty := List.ne_nil_of_mem (start_mem tolerance remaining second)
          rw [List.getLast?_cons_of_ne_nil nonempty] at ends
          exact ends
        intro tableau member following following_eq
        rcases List.mem_cons.mp member with rfl | later
        · rw [pivoted] at following_eq
          rw [← Option.some.inj following_eq]
          exact List.mem_cons_of_mem _ (start_mem tolerance remaining second)
        · exact List.mem_cons_of_mem _ (ih ends' tableau later following following_eq)

end LinearProgram.Simplex
