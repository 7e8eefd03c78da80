import LinearProgram.Proofs.Barrier.Accepted
import LinearProgram.Proofs.Simplex.Caps

/-!
# Caps on the number of iterations

The iterations of a barrier solve do not depend on how many of them are allowed. As for
the pivots of the simplex method, a cap only cuts the run short.
-/

namespace LinearProgram

namespace Barrier

variable {α : Type}

/-- The same settings with another cap. -/
def Settings.withCap (settings : Settings α) (cap : ℕ) : Settings α :=
  { settings with maxIterations := cap }

@[simp] theorem with_cap_max (settings : Settings α) (cap : ℕ) :
    (settings.withCap cap).maxIterations = cap :=
  rfl

@[simp] theorem with_own_cap (settings : Settings α) :
    settings.withCap settings.maxIterations = settings :=
  rfl

variable [Scalar α]

section Unaffected

variable (settings : Settings α) (cap : ℕ) (problem : Problem α)

@[simp] theorem check_inputs_with_cap :
    checkInputs (settings.withCap cap) problem = checkInputs settings problem :=
  rfl

@[simp] theorem iteration_with_cap (number : ℕ) (state : State α) :
    iteration (settings.withCap cap) problem number state =
      iteration settings problem number state :=
  rfl

@[simp] theorem state_after_with_cap (count : ℕ) :
    stateAfter (settings.withCap cap) problem count = stateAfter settings problem count := by
  induction count with
  | zero => rfl
  | succ count ih => simp [stateAfter, ih]

end Unaffected

theorem iterate_raised (settings : Settings α) (problem : Problem α)
    (cap raised remaining more number : ℕ) (state : State α) (log : List (Event α)) :
    (iterate (settings.withCap cap) problem remaining number state log).outcome =
        .error (.iterationLimit cap) ∨
      iterate (settings.withCap raised) problem (remaining + more) number state log =
        iterate (settings.withCap cap) problem remaining number state log := by
  induction remaining generalizing number state log with
  | zero => exact .inl rfl
  | succ remaining ih =>
      rw [Nat.add_right_comm]
      cases step : (iteration settings problem number state).outcome with
      | error cause => simp [iterate, step]
      | ok pair =>
          obtain ⟨following, closed⟩ := pair
          cases closed with
          | true => simp [iterate, step]
          | false =>
              simp only [iterate, iteration_with_cap, step]
              exact ih (number + 1) following _

theorem solve_raised (settings : Settings α) (problem : Problem α) {cap raised : ℕ}
    (within : cap ≤ raised) :
    (solve (settings.withCap cap) problem).outcome = .error (.iterationLimit cap) ∨
      solve (settings.withCap raised) problem = solve (settings.withCap cap) problem := by
  obtain ⟨more, rfl⟩ := Nat.exists_eq_add_of_le within
  unfold solve
  rw [check_inputs_with_cap, check_inputs_with_cap]
  cases checkInputs settings problem with
  | error cause => simp
  | ok => exact iterate_raised settings problem cap (cap + more) cap more 1 _ []

end Barrier

variable {α : Type} [Scalar α]

/-- A smaller cap gives the limit or the same run. The simplex method makes no more
pivots than it may; where it reports the limit it has made all of them, and a column
still enters. -/
theorem caps_only_cut_short (problem : Problem α) {cap raised : ℕ} (within : cap ≤ raised) :
    (∀ tolerance : α,
        ((Simplex.solve ⟨tolerance, cap⟩ problem).outcome = .error (.iterationLimit cap) ∨
          Simplex.solve ⟨tolerance, raised⟩ problem = Simplex.solve ⟨tolerance, cap⟩ problem) ∧
        (Simplex.solve ⟨tolerance, cap⟩ problem).pivotCells.length ≤ cap ∧
        ∀ count,
          (Simplex.solve ⟨tolerance, cap⟩ problem).outcome = .error (.iterationLimit count) →
            count = cap ∧ (Simplex.solve ⟨tolerance, cap⟩ problem).pivotCells.length = cap ∧
              ∃ column,
                (Simplex.final ⟨tolerance, cap⟩ problem).enteringColumn tolerance = some column) ∧
      ∀ settings : Barrier.Settings α,
        (Barrier.solve (settings.withCap cap) problem).outcome = .error (.iterationLimit cap) ∨
          Barrier.solve (settings.withCap raised) problem =
            Barrier.solve (settings.withCap cap) problem := by
  constructor
  · intro tolerance
    refine ⟨Simplex.solve_raised problem tolerance within, Simplex.pivots_le_cap _ _, ?_⟩
    intro count limited
    exact Simplex.stopped_of_limit limited
  · intro settings
    exact Barrier.solve_raised settings problem within

/-- The method needs two pivots here. -/
def twoPivots : Problem Float :=
  ⟨[3, 5], [[1, 0], [0, 2], [3, 2]], [4, 12, 18]⟩

/-- The right-hand side is so large that the target of the second iteration is zero. -/
def remoteBound : Problem Float :=
  ⟨[1], [[1]], [1e200]⟩

def halvingFloat : Barrier.Settings Float :=
  ⟨0.5, 0.0001, 5⟩

theorem caps_only_cut_short_of_two_pivots :
    ((Simplex.solve ⟨0.0001, 1⟩ twoPivots).outcome = .error (.iterationLimit 1) ∧
        (Simplex.solve ⟨0.0001, 1⟩ twoPivots).pivotCells.length = 1 ∧
        ∃ column, (Simplex.final ⟨0.0001, 1⟩ twoPivots).enteringColumn 0.0001 = some column) ∧
      Simplex.solve ⟨0.0001, 9⟩ twoPivots = Simplex.solve ⟨0.0001, 2⟩ twoPivots ∧
      Barrier.solve (halvingFloat.withCap 9) remoteBound =
        Barrier.solve (halvingFloat.withCap 2) remoteBound := by
  have limited : (Simplex.solve ⟨0.0001, 1⟩ twoPivots).outcome = .error (.iterationLimit 1) := by
    decide +kernel
  have enough : (Simplex.solve ⟨0.0001, 2⟩ twoPivots).outcome ≠ .error (.iterationLimit 2) := by
    decide +kernel
  have closed : (Barrier.solve (halvingFloat.withCap 2) remoteBound).outcome ≠
      .error (.iterationLimit 2) := by
    decide +kernel
  obtain ⟨fromOne, _⟩ := caps_only_cut_short twoPivots (by decide : 1 ≤ 9)
  obtain ⟨fromTwo, _⟩ := caps_only_cut_short twoPivots (by decide : 2 ≤ 9)
  obtain ⟨_, barrier⟩ := caps_only_cut_short remoteBound (by decide : 2 ≤ 9)
  obtain ⟨_, pivots, column⟩ := (fromOne 0.0001).2.2 1 limited
  exact ⟨⟨limited, pivots, column⟩, (fromTwo 0.0001).1.resolve_left enough,
    (barrier halvingFloat).resolve_left closed⟩

end LinearProgram
