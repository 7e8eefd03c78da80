import LinearProgram.Proofs.Simplex.RatioTest

/-!
# Unbounded runs

A run is unbounded at a column that gains more than the tolerance and has no
entry above it. With nonnegative right-hand sides the origin is feasible, so the
ray that leaves it along that column is all the verdict rests on. The ray gains
without end, and it stays feasible exactly when the column has no positive entry
at all, that is, none in the tolerance band.
-/

namespace LinearProgram

open Finset Scalar

namespace Tableau

variable {n m : ℕ} {tableau : Tableau ℚ} {tolerance : ℚ} {column : ℕ}

/-- No column falls faster than the entries of the raised column allow. -/
theorem neg_limit_le_direction (canonical : Canonical n m tableau) {limit : ℚ}
    (limitNonneg : 0 ≤ limit) (entries : ∀ row < m, tableau.cell row column ≤ limit)
    (position : ℕ) : -limit ≤ tableau.direction column position := by
  have raised : (0 : ℚ) ≤ if position = column then 1 else 0 := by
    split_ifs <;> simp
  by_cases basic : ∃ row < m, tableau.basicColumn row = position
  · obtain ⟨row, inside, rfl⟩ := basic
    have small := entries row inside
    rw [direction_basic canonical inside]
    linarith
  · rw [direction_nonbasic canonical.toShaped]
    · linarith
    · intro row inside same
      exact basic ⟨row, inside, same⟩

theorem direction_of_costly (canonical : Canonical n m tableau)
    (costly : tableau.costAt column < 0) {row : ℕ} (inside : row < m) :
    tableau.direction column (tableau.basicColumn row) = -tableau.cell row column := by
  rw [direction_basic canonical inside, if_neg, zero_sub]
  intro same
  rw [← same, canonical.free row inside] at costly
  exact lt_irrefl _ costly

/-- Where the ratio test finds no row, the tolerance band is all that can hold a
positive entry. -/
theorem band_free_iff_of_unlimited (shaped : Shaped n m tableau)
    (entering : tableau.enteringColumn tolerance = some column)
    (unlimited : tableau.leavingRow tolerance column = none) :
    tableau.BandFree tolerance ↔ ∀ row < m, tableau.cell row column ≤ 0 := by
  unfold BandFree
  rw [shaped.rowCount, entering]
  constructor
  · intro bandFree row inside
    have small := leaving_row_none shaped unlimited inside
    by_contra positive
    exact bandFree column rfl row inside ⟨not_le.mp positive, small⟩
  · intro entries other isEntering row inside band
    obtain rfl : column = other := Option.some.inj isEntering
    exact absurd band.1 (not_lt.mpr (entries row inside))

end Tableau

/-- The points reached from the origin by raising `column` and letting the basic
columns follow. -/
def Problem.ray (problem : Problem ℚ) (tableau : Tableau ℚ) (column : ℕ) (step : ℚ) : List ℚ :=
  problem.structural fun position => step * tableau.direction column position

theorem Problem.ray_length (problem : Problem ℚ) (tableau : Tableau ℚ) (column : ℕ) (step : ℚ) :
    (problem.ray tableau column step).length = problem.numVariables :=
  Problem.structural_length problem _

namespace Represents

variable {problem : Problem ℚ} {tableau : Tableau ℚ} {column : ℕ}

theorem ray_objective (represents : Represents problem tableau)
    (valid : problem.validate = .ok ())
    (inside : column < problem.numVariables + problem.numConstraints) (step : ℚ) :
    problem.objectiveValue (problem.ray tableau column step) =
      step * -tableau.costAt column := by
  rw [Problem.ray, Problem.objective_structural valid, Tableau.cost_value_scaled,
    represents.direction_cost inside.le, mul_neg]

theorem ray_row (represents : Represents problem tableau) (valid : problem.validate = .ok ())
    (inside : column < problem.numVariables + problem.numConstraints) (step : ℚ) {row : ℕ}
    (rowInside : row < problem.numConstraints) :
    dot (problem.row row) (problem.ray tableau column step) =
      -(step * tableau.direction column (problem.numVariables + row)) := by
  have balanced := Tableau.balanced_scaled step (represents.direction_balanced inside.le)
  have level : tableau.direction column (problem.numVariables + problem.numConstraints) = 0 := by
    rw [← represents.rhs_column, Tableau.direction_rhs_column represents.toShaped, if_neg]
    rw [represents.rhs_column]
    exact inside.ne'
  rw [Problem.ray, Problem.dot_row_structural valid balanced rowInside, level, mul_zero, mul_zero,
    sub_zero]

theorem ray_violation_le (represents : Represents problem tableau)
    (valid : problem.validate = .ok ()) (origin : ∀ bound ∈ problem.rhs, 0 ≤ bound)
    (inside : column < problem.numVariables + problem.numConstraints) {limit step : ℚ}
    (limitNonneg : 0 ≤ limit) (stepNonneg : 0 ≤ step)
    (entries : ∀ row < problem.numConstraints, tableau.cell row column ≤ limit) :
    problem.maxViolation (problem.ray tableau column step) ≤ limit * step := by
  have falls (position : ℕ) : -(limit * step) ≤ step * tableau.direction column position := by
    rw [mul_comm limit, ← mul_neg]
    exact mul_le_mul_of_nonneg_left
      (Tableau.neg_limit_le_direction represents.toCanonical limitNonneg entries position)
      stepNonneg
  rw [Problem.max_violation_le_iff valid]
  refine ⟨mul_nonneg limitNonneg stepNonneg, ?_, ?_⟩
  · intro row rowInside
    have boundNonneg := origin _ (Problem.bound_mem rowInside)
    have slackFalls := falls (problem.numVariables + row)
    rw [represents.ray_row valid inside step rowInside]
    linarith
  · intro value member
    obtain ⟨position, _, rfl⟩ := List.mem_map.mp member
    exact falls position

theorem ray_feasible (represents : Represents problem tableau)
    (valid : problem.validate = .ok ()) (origin : ∀ bound ∈ problem.rhs, 0 ≤ bound)
    (inside : column < problem.numVariables + problem.numConstraints) {step : ℚ}
    (stepNonneg : 0 ≤ step)
    (entries : ∀ row < problem.numConstraints, tableau.cell row column ≤ 0) :
    problem.Feasible (problem.ray tableau column step) := by
  have violation := represents.ray_violation_le valid origin inside le_rfl stepNonneg entries
  rw [zero_mul] at violation
  rw [← Problem.max_violation_eq_zero_iff valid (Problem.ray_length problem tableau column step)]
  exact le_antisymm violation (Problem.max_violation_nonneg valid _)

theorem ray_feasible_iff (represents : Represents problem tableau)
    (valid : problem.validate = .ok ()) (origin : ∀ bound ∈ problem.rhs, 0 ≤ bound)
    (inside : column < problem.numVariables + problem.numConstraints)
    (costly : tableau.costAt column < 0) :
    (∀ step, 0 ≤ step → problem.Feasible (problem.ray tableau column step)) ↔
      ∀ row < problem.numConstraints, tableau.cell row column ≤ 0 := by
  constructor
  · intro feasible row rowInside
    by_contra positive
    rw [not_le] at positive
    -- the basic column of the row falls along the ray, and crosses zero on it
    have falls := Tableau.direction_of_costly represents.toCanonical costly rowInside
    have basicInside := represents.basic_column_lt rowInside
    rcases Nat.lt_or_ge (tableau.basicColumn row) problem.numVariables with isVariable | isSlack
    · have value := (feasible 1 zero_le_one).get_nonneg (tableau.basicColumn row)
      rw [Problem.ray, Problem.structural_get isVariable, falls] at value
      linarith
    · obtain ⟨index, isIndex⟩ := Nat.exists_eq_add_of_le isSlack
      have indexInside : index < problem.numConstraints := by omega
      have boundNonneg := origin _ (Problem.bound_mem indexInside)
      have stepNonneg : 0 ≤ problem.bound index / tableau.cell row column + 1 :=
        add_nonneg (div_nonneg boundNonneg positive.le) zero_le_one
      have within := (feasible _ stepNonneg).within index indexInside
      rw [represents.ray_row valid inside _ indexInside, ← isIndex, falls, mul_neg, neg_neg,
        add_mul, div_mul_cancel₀ _ positive.ne', one_mul] at within
      linarith
  · intro entries step stepNonneg
    exact represents.ray_feasible valid origin inside stepNonneg entries

theorem exists_feasible_above (represents : Represents problem tableau)
    (valid : problem.validate = .ok ()) (origin : ∀ bound ∈ problem.rhs, 0 ≤ bound)
    (inside : column < problem.numVariables + problem.numConstraints)
    (costly : tableau.costAt column < 0)
    (entries : ∀ row < problem.numConstraints, tableau.cell row column ≤ 0) (goal : ℚ) :
    ∃ point, problem.Feasible point ∧ goal < problem.objectiveValue point := by
  have gains : 0 < -tableau.costAt column := neg_pos.mpr costly
  have stepNonneg : 0 ≤ max goal 0 / -tableau.costAt column + 1 :=
    add_nonneg (div_nonneg (le_max_right goal 0) gains.le) zero_le_one
  refine ⟨_, represents.ray_feasible valid origin inside stepNonneg entries, ?_⟩
  rw [represents.ray_objective valid inside, add_mul, div_mul_cancel₀ _ gains.ne', one_mul]
  exact lt_of_le_of_lt (le_max_left goal 0) (lt_add_of_pos_right _ gains)

end Represents

namespace Simplex

open Tableau

variable {settings : Settings ℚ} {problem : Problem ℚ} {column : ℕ}

namespace Unlimited

theorem inside (unlimited : Unlimited settings problem column) :
    column < problem.numVariables + problem.numConstraints :=
  (entering_column_some unlimited.represents.toShaped unlimited.entering).1

theorem tolerance_lt_gain (unlimited : Unlimited settings problem column) :
    settings.tolerance < -(final settings problem).costAt column :=
  lt_neg_of_lt_neg (entering_column_some unlimited.represents.toShaped unlimited.entering).2

theorem costly (unlimited : Unlimited settings problem column) :
    (final settings problem).costAt column < 0 :=
  neg_pos.mp (lt_trans unlimited.positive unlimited.tolerance_lt_gain)

theorem entry_le (unlimited : Unlimited settings problem column) {row : ℕ}
    (rowInside : row < problem.numConstraints) :
    (final settings problem).cell row column ≤ settings.tolerance :=
  leaving_row_none unlimited.represents.toShaped unlimited.unlimited rowInside

theorem band_free_iff (unlimited : Unlimited settings problem column) :
    (final settings problem).BandFree settings.tolerance ↔
      ∀ row < problem.numConstraints, (final settings problem).cell row column ≤ 0 :=
  band_free_iff_of_unlimited unlimited.represents.toShaped unlimited.entering unlimited.unlimited

theorem exists_feasible_above (unlimited : Unlimited settings problem column)
    (origin : ∀ bound ∈ problem.rhs, 0 ≤ bound)
    (bandFree : (final settings problem).BandFree settings.tolerance) (goal : ℚ) :
    ∃ point, problem.Feasible point ∧ goal < problem.objectiveValue point := by
  rw [unlimited.band_free_iff] at bandFree
  exact unlimited.represents.exists_feasible_above unlimited.valid origin unlimited.inside
    unlimited.costly bandFree goal

end Unlimited

/-- An unbounded verdict gives a ray from the origin on which the objective gains
more than the tolerance a step and no condition breaks by more than that. The ray
stays feasible exactly when the last column is free of the tolerance band, and
then the objective has no upper bound. -/
theorem unbounded_ray (origin : ∀ bound ∈ problem.rhs, 0 ≤ bound)
    (failed : (solve settings problem).outcome = .error .unbounded) :
    ∃ column, (final settings problem).enteringColumn settings.tolerance = some column ∧
      (∀ step, 0 < step →
        settings.tolerance * step <
            problem.objectiveValue (problem.ray (final settings problem) column step) ∧
          problem.maxViolation (problem.ray (final settings problem) column step) ≤
            settings.tolerance * step) ∧
      ((∀ step, 0 ≤ step → problem.Feasible (problem.ray (final settings problem) column step)) ↔
        (final settings problem).BandFree settings.tolerance) ∧
      ((final settings problem).BandFree settings.tolerance →
        ∀ goal, ∃ point, problem.Feasible point ∧ goal < problem.objectiveValue point) := by
  obtain ⟨column, unlimited⟩ := unlimited_of_unbounded failed
  have represents := unlimited.represents
  refine ⟨column, unlimited.entering, ?_, ?_, unlimited.exists_feasible_above origin⟩
  · intro step stepPositive
    constructor
    · rw [represents.ray_objective unlimited.valid unlimited.inside, mul_comm]
      exact mul_lt_mul_of_pos_left unlimited.tolerance_lt_gain stepPositive
    · apply represents.ray_violation_le unlimited.valid origin unlimited.inside
        unlimited.positive.le stepPositive.le
      intro row rowInside
      exact unlimited.entry_le rowInside
  · rw [unlimited.band_free_iff]
    exact represents.ray_feasible_iff unlimited.valid origin unlimited.inside unlimited.costly

/-- One variable makes room for the other. -/
theorem unbounded_ray_of_difference :
    (solve ⟨1 / 2, 5⟩ (⟨[1, 1], [[-1, 1]], [1]⟩ : Problem ℚ)).outcome = .error .unbounded ∧
      ∀ goal, ∃ point, (⟨[1, 1], [[-1, 1]], [1]⟩ : Problem ℚ).Feasible point ∧
        goal < (⟨[1, 1], [[-1, 1]], [1]⟩ : Problem ℚ).objectiveValue point := by
  have failed : (solve ⟨1 / 2, 5⟩ (⟨[1, 1], [[-1, 1]], [1]⟩ : Problem ℚ)).outcome =
      .error .unbounded := by decide +kernel
  have bandFree : (final ⟨1 / 2, 5⟩ (⟨[1, 1], [[-1, 1]], [1]⟩ : Problem ℚ)).BandFree (1 / 2) := by
    decide +kernel
  obtain ⟨_, _, _, _, above⟩ := unbounded_ray (by decide +kernel) failed
  exact ⟨failed, above bandFree⟩

/-- A row whose only entry is in the tolerance band bounds the objective all the same. -/
theorem unbounded_verdict_of_bounded :
    (⟨[1], [[1 / 4]], [1]⟩ : Problem ℚ).validate = .ok () ∧
      (∀ bound ∈ [(1 : ℚ)], 0 ≤ bound) ∧
      (solve ⟨1 / 2, 5⟩ (⟨[1], [[1 / 4]], [1]⟩ : Problem ℚ)).outcome = .error .unbounded ∧
      ∀ point, (⟨[1], [[1 / 4]], [1]⟩ : Problem ℚ).Feasible point →
        (⟨[1], [[1 / 4]], [1]⟩ : Problem ℚ).objectiveValue point ≤ 4 := by
  refine ⟨by decide +kernel, by decide +kernel, by decide +kernel, ?_⟩
  intro point feasible
  obtain ⟨value, rfl⟩ := List.length_eq_one_iff.mp feasible.length
  have room : 1 / 4 * value ≤ 1 := by
    simpa [dot_eq_range_sum, Problem.row, Problem.bound] using feasible.within 0 (by decide)
  have objective : (⟨[1], [[1 / 4]], [1]⟩ : Problem ℚ).objectiveValue [value] = value := by
    simp [Problem.objectiveValue, dot_eq_range_sum]
  rw [objective]
  linarith

end Simplex

end LinearProgram
