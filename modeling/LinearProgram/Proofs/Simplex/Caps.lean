import LinearProgram.Proofs.Simplex.Reached

/-!
# Caps on the number of pivots

A cap takes no part in what a run does, only in how long it goes on. A run that ends by
itself under some cap is the same run under every larger one. A run that does not makes
all the pivots it may, and stops at a tableau that a column could still enter.
-/

namespace LinearProgram.Simplex

variable {α : Type} [Scalar α] {settings : Settings α} {problem : Problem α}

theorem descend_raised (tolerance : α) (remaining more done : Nat) (tableau : Tableau α)
    (log : List (Event α)) :
    (descend tolerance remaining done tableau log).verdict = .limitReached ∨
      descend tolerance (remaining + more) done tableau log =
        descend tolerance remaining done tableau log := by
  induction remaining generalizing done tableau log with
  | zero =>
      cases entering : tableau.enteringColumn tolerance with
      | none =>
          right
          -- an optimal tableau is noticed with and without pivots left
          cases more <;> simp [descend, entering]
      | some column => simp [descend, entering]
  | succ remaining ih =>
      rw [Nat.add_right_comm]
      cases entering : tableau.enteringColumn tolerance with
      | none => simp [descend, entering]
      | some column =>
          cases leaving : tableau.leavingRow tolerance column with
          | none => simp [descend, entering, leaving]
          | some row =>
              simp only [descend, entering, leaving]
              exact ih (done + 1) (tableau.pivot row column) (.pivot done column row :: log)

theorem conclude_raised {tolerance : α} (cap raised : Nat) {descent : Descent α}
    (finished : descent.verdict ≠ .limitReached) :
    conclude ⟨tolerance, raised⟩ problem descent = conclude ⟨tolerance, cap⟩ problem descent := by
  unfold conclude
  cases verdict : descent.verdict with
  | limitReached => exact absurd verdict finished
  | unbounded => rfl
  | optimal => rfl

theorem solve_raised (problem : Problem α) (tolerance : α) {cap raised : Nat}
    (within : cap ≤ raised) :
    (solve ⟨tolerance, cap⟩ problem).outcome = .error (.iterationLimit cap) ∨
      solve ⟨tolerance, raised⟩ problem = solve ⟨tolerance, cap⟩ problem := by
  cases valid : problem.validate with
  | error cause => simp [solve, valid]
  | ok =>
      by_cases positive : 0 < tolerance
      · by_cases limited :
          (optimize tolerance cap (.ofProblem problem)).verdict = .limitReached
        · left
          exact (limit_verdict_iff valid positive cap).mpr ⟨rfl, limited⟩
        · right
          obtain ⟨more, rfl⟩ := Nat.exists_eq_add_of_le within
          have same : optimize tolerance (cap + more) (.ofProblem problem) =
              optimize tolerance cap (.ofProblem problem) :=
            (descend_raised tolerance cap more 0 (.ofProblem problem) []).resolve_left limited
          simp only [solve, valid, positive, if_true, same,
            conclude_raised cap (cap + more) limited]
      · simp [solve, valid, positive]

/-- What a report of the limit says about the run: the cap was used up, and the method
would have gone on. -/
theorem stopped_of_limit {count : Nat}
    (limited : (solve settings problem).outcome = .error (.iterationLimit count)) :
    count = settings.maxPivots ∧
      (solve settings problem).pivotCells.length = settings.maxPivots ∧
      ∃ column, (final settings problem).enteringColumn settings.tolerance = some column := by
  obtain ⟨valid, positive, _⟩ := concluded_of_outcome limited (by simp) (by simp)
  obtain ⟨isCap, verdict⟩ := (limit_verdict_iff valid positive count).mp limited
  have fits := verdict_fits settings problem
  rw [verdict] at fits
  exact ⟨isCap.symm, pivots_of_limit valid positive limited, fits⟩

end LinearProgram.Simplex
