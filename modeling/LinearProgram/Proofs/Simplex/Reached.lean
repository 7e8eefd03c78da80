import LinearProgram.Proofs.Simplex.Visited

/-!
# Runs by the number of pivots

The tableau after a given number of pivots, if the method makes that many. A cap
cuts this sequence off, and a solve reports the limit exactly when a column still
enters at the cut.
-/

namespace LinearProgram.Simplex

variable {α : Type} [Scalar α]

def reached (tolerance : α) (start : Tableau α) : (count : Nat) → Option (Tableau α)
  | 0 => some start
  | count + 1 => (reached tolerance start count).bind (next tolerance)

theorem reached_add (tolerance : α) (start : Tableau α) (first second : Nat) :
    reached tolerance start (first + second) =
      (reached tolerance start first).bind fun tableau => reached tolerance tableau second := by
  induction second with
  | zero => exact (Option.bind_fun_some _).symm
  | succ second ih =>
      rw [← Nat.add_assoc, reached, ih, Option.bind_assoc]
      rfl

theorem reached_after_next (tolerance : α) (start : Tableau α) (count : Nat) :
    reached tolerance start (count + 1) =
      (next tolerance start).bind fun following => reached tolerance following count := by
  rw [Nat.add_comm, reached_add, reached, reached, Option.bind_some]

theorem reached_of_le {tolerance : α} {start last : Tableau α} {count earlier : Nat}
    (isLast : reached tolerance start count = some last) (before : earlier ≤ count) :
    ∃ tableau, reached tolerance start earlier = some tableau := by
  obtain ⟨rest, rfl⟩ := Nat.exists_eq_add_of_le before
  rw [reached_add] at isLast
  obtain ⟨tableau, found, _⟩ := Option.bind_eq_some_iff.mp isLast
  exact ⟨tableau, found⟩

theorem visited_get (tolerance : α) (remaining : Nat) (start : Tableau α) (index : Nat) :
    (visited tolerance remaining start)[index]? =
      if index ≤ remaining then reached tolerance start index else none := by
  induction remaining generalizing start index with
  | zero =>
      cases index with
      | zero => rfl
      | succ index => simp [visited]
  | succ remaining ih =>
      cases index with
      | zero =>
          unfold visited
          split <;> rfl
      | succ index =>
          unfold visited
          rw [reached_after_next]
          cases step : next tolerance start with
          | none => simp
          | some following => simp [ih following index]

theorem mem_visited_iff (tolerance : α) (remaining : Nat) (start tableau : Tableau α) :
    tableau ∈ visited tolerance remaining start ↔
      ∃ count ≤ remaining, reached tolerance start count = some tableau := by
  rw [List.mem_iff_getElem?]
  apply exists_congr
  intro count
  rw [visited_get]
  split_ifs with inside <;> simp [inside]

/-! ## The limit -/

theorem descend_limit_iff (tolerance : α) (remaining done : Nat) (tableau : Tableau α)
    (log : List (Event α)) :
    (descend tolerance remaining done tableau log).verdict = .limitReached ↔
      ∃ last, reached tolerance tableau remaining = some last ∧
        ∃ column, last.enteringColumn tolerance = some column := by
  induction remaining generalizing done tableau log with
  | zero =>
      cases entering : tableau.enteringColumn tolerance <;> simp [descend, reached, entering]
  | succ remaining ih =>
      rw [reached_after_next]
      cases entering : tableau.enteringColumn tolerance with
      | none => simp [descend, next_of_optimal entering, entering]
      | some column =>
          cases leaving : tableau.leavingRow tolerance column with
          | none => simp [descend, next_of_unbounded entering leaving, entering, leaving]
          | some row => simp [descend, next_of_pivot entering leaving, entering, leaving, ih]

variable {settings : Settings α} {problem : Problem α}

theorem limit_verdict_iff (valid : problem.validate = .ok ()) (positive : 0 < settings.tolerance)
    (count : Nat) :
    (solve settings problem).outcome = .error (.iterationLimit count) ↔
      settings.maxPivots = count ∧
        (optimize settings.tolerance settings.maxPivots (.ofProblem problem)).verdict =
          .limitReached := by
  rw [solve_outcome valid positive]
  unfold conclude
  split
  · next verdict => simp [verdict]
  · next verdict => simp [verdict]
  · next verdict =>
    dsimp only
    split_ifs <;> simp [verdict]

theorem iteration_limit_iff (valid : problem.validate = .ok ()) (positive : 0 < settings.tolerance)
    (count : Nat) :
    (solve settings problem).outcome = .error (.iterationLimit count) ↔
      settings.maxPivots = count ∧
        ∃ last, reached settings.tolerance (.ofProblem problem) settings.maxPivots = some last ∧
          ∃ column, last.enteringColumn settings.tolerance = some column := by
  rw [limit_verdict_iff valid positive, optimize, descend_limit_iff]

theorem visited_length_le (tolerance : α) (remaining : Nat) (start : Tableau α) :
    (visited tolerance remaining start).length ≤ remaining + 1 := by
  induction remaining generalizing start with
  | zero => simp [visited]
  | succ remaining ih =>
      unfold visited
      split
      · simp
      · next following _ => simpa using ih following

/-- A solve that is refused makes no pivot, and any other at most as many as it may. -/
theorem pivots_le_cap (settings : Settings α) (problem : Problem α) :
    (solve settings problem).pivotCells.length ≤ settings.maxPivots := by
  cases valid : problem.validate with
  | error cause => simp [solve, valid, Run.pivotCells]
  | ok =>
      by_cases positive : 0 < settings.tolerance
      · have count := pivot_cells_length valid positive
        have short : (tableaux settings problem).length ≤ settings.maxPivots + 1 :=
          visited_length_le _ _ _
        omega
      · simp [solve, valid, positive, Run.pivotCells]

/-- Where the limit is reported, the run has used up its pivots. -/
theorem pivots_of_limit (valid : problem.validate = .ok ()) (positive : 0 < settings.tolerance)
    {count : Nat} (limited : (solve settings problem).outcome = .error (.iterationLimit count)) :
    (solve settings problem).pivotCells.length = settings.maxPivots := by
  obtain ⟨_, last, isLast, _⟩ := (iteration_limit_iff valid positive count).mp limited
  have found : (tableaux settings problem)[settings.maxPivots]? = some last := by
    rw [tableaux, visited_get, if_pos le_rfl, isLast]
  have inside := (List.getElem?_eq_some_iff.mp found).1
  have length := pivot_cells_length valid positive
  have atMost := pivots_le_cap settings problem
  omega

end LinearProgram.Simplex
