import LinearProgram.Proofs.ExactSum
import LinearProgram.Problem

/-!
# Feasible points

A point is feasible when it has one nonnegative value per variable and exceeds no
right-hand side. For a problem that passes `validate`, rows and right-hand sides
are read by index, and the largest violation is zero at the feasible points only.
-/

namespace LinearProgram.Problem

open Finset Scalar

section Reading

variable {α : Type}

def row (problem : Problem α) (index : Nat) : List α :=
  problem.constraints.getD index []

theorem first_misfit_eq_none_iff (width : Nat) (rows : List (List α)) :
    firstMisfit width rows = none ↔ ∀ row ∈ rows, row.length = width := by
  simp only [firstMisfit, Option.map_eq_none_iff, List.find?_eq_none, bne_iff_ne, ne_eq,
    Decidable.not_not]
  constructor
  · intro fits row member
    obtain ⟨index, found⟩ := List.mem_iff_getElem?.mp member
    exact fits (row, index) (List.mem_zipIdx_iff_getElem?.mpr found)
  · intro fits row member
    exact fits row.1 (List.fst_mem_of_mem_zipIdx member)

theorem validate_eq_ok_iff (problem : Problem α) :
    problem.validate = .ok () ↔
      problem.constraints.length = problem.numConstraints ∧
        ∀ row ∈ problem.constraints, row.length = problem.numVariables := by
  rw [← first_misfit_eq_none_iff]
  unfold validate
  split_ifs with rowCount
  · simp [rowCount]
  · rw [not_not] at rowCount
    cases firstMisfit problem.numVariables problem.constraints <;> simp [rowCount]

theorem validate_error {problem : Problem α} {cause : SolveError α}
    (invalid : problem.validate = .error cause) :
    ∃ part expected found, cause = .dimensionMismatch part expected found := by
  unfold validate at invalid
  split_ifs at invalid
  · exact ⟨_, _, _, (Except.error.inj invalid).symm⟩
  · split at invalid
    · exact ⟨_, _, _, (Except.error.inj invalid).symm⟩
    · cases invalid

theorem row_length {problem : Problem α} (valid : problem.validate = .ok ()) {index : Nat}
    (inside : index < problem.numConstraints) :
    (problem.row index).length = problem.numVariables := by
  obtain ⟨rowCount, rowWidth⟩ := (validate_eq_ok_iff problem).mp valid
  rw [← rowCount] at inside
  rw [row, List.getD_eq_getElem _ _ inside]
  exact rowWidth _ (List.getElem_mem inside)

variable [Scalar α]

def bound (problem : Problem α) (index : Nat) : α :=
  problem.rhs.getD index 0

def coefficient (problem : Problem α) (index column : Nat) : α :=
  (problem.row index).getD column 0

def gain (problem : Problem α) (column : Nat) : α :=
  problem.objective.getD column 0

theorem bound_mem {problem : Problem α} {index : Nat} (inside : index < problem.numConstraints) :
    problem.bound index ∈ problem.rhs := by
  rw [bound, List.getD_eq_getElem _ _ inside]
  exact List.getElem_mem inside

end Reading

structure Feasible (problem : Problem ℚ) (values : List ℚ) : Prop where
  length : values.length = problem.numVariables
  within : ∀ index < problem.numConstraints, dot (problem.row index) values ≤ problem.bound index
  nonneg : ∀ value ∈ values, 0 ≤ value

/-- What a point leaves of a right-hand side. -/
def slack (problem : Problem ℚ) (values : List ℚ) (index : Nat) : ℚ :=
  problem.bound index - dot (problem.row index) values

theorem Feasible.slack_nonneg {problem : Problem ℚ} {values : List ℚ}
    (feasible : problem.Feasible values) {index : Nat} (inside : index < problem.numConstraints) :
    0 ≤ problem.slack values index :=
  sub_nonneg.mpr (feasible.within index inside)

theorem Feasible.get_nonneg {problem : Problem ℚ} {values : List ℚ}
    (feasible : problem.Feasible values) (column : Nat) : 0 ≤ values.getD column 0 := by
  rcases lt_or_ge column values.length with inside | outside
  · rw [List.getD_eq_getElem _ _ inside]
    exact feasible.nonneg _ (List.getElem_mem inside)
  · rw [List.getD_eq_default _ _ outside]

theorem objective_value_eq (problem : Problem ℚ) (values : List ℚ) :
    problem.objectiveValue values =
      ∑ column ∈ range problem.numVariables, problem.gain column * values.getD column 0 :=
  dot_eq_range_sum problem.objective values

theorem dot_row_eq {problem : Problem ℚ} (valid : problem.validate = .ok ()) {index : Nat}
    (inside : index < problem.numConstraints) (values : List ℚ) :
    dot (problem.row index) values =
      ∑ column ∈ range problem.numVariables,
        problem.coefficient index column * values.getD column 0 := by
  rw [dot_eq_range_sum, row_length valid inside]
  rfl

theorem foldl_larger_le_iff (start worst : ℚ) (amounts : List ℚ) :
    amounts.foldl larger start ≤ worst ↔
      start ≤ worst ∧ ∀ amount ∈ amounts, amount ≤ worst := by
  induction amounts generalizing start with
  | nil => simp
  | cons amount rest ih =>
      rw [List.foldl_cons, ih, larger_eq_max, max_le_iff, List.forall_mem_cons, and_assoc]

theorem excesses_le_iff {problem : Problem ℚ} (valid : problem.validate = .ok ())
    (values : List ℚ) (worst : ℚ) :
    (∀ excess ∈ problem.excesses values, excess ≤ worst) ↔
      (∀ index < problem.numConstraints,
          dot (problem.row index) values ≤ problem.bound index + worst) ∧
        ∀ value ∈ values, -worst ≤ value := by
  have rowCount := ((validate_eq_ok_iff problem).mp valid).1
  have rowCount' : problem.constraints.length = problem.rhs.length := rowCount
  rw [excesses, List.forall_mem_append, List.forall_mem_map]
  apply and_congr
  · simp only [List.forall_mem_iff_forall_getElem, List.getElem_zipWith, List.length_zipWith,
      rowCount', min_self, sub_le_iff_le_add']
    apply forall_congr'
    intro index
    apply forall_congr'
    intro inside
    rw [row, bound, List.getD_eq_getElem _ _ (rowCount'.symm ▸ inside),
      List.getD_eq_getElem _ _ inside]
  · apply forall₂_congr
    intro value _
    exact neg_le

/-- A point violates nothing by more than `worst` exactly when each of its
conditions, relaxed by `worst`, holds. -/
theorem max_violation_le_iff {problem : Problem ℚ} (valid : problem.validate = .ok ())
    (values : List ℚ) (worst : ℚ) :
    problem.maxViolation values ≤ worst ↔
      0 ≤ worst ∧
        (∀ index < problem.numConstraints,
          dot (problem.row index) values ≤ problem.bound index + worst) ∧
        ∀ value ∈ values, -worst ≤ value := by
  rw [maxViolation, foldl_larger_le_iff, excesses_le_iff valid]

theorem max_violation_nonneg {problem : Problem ℚ} (valid : problem.validate = .ok ())
    (values : List ℚ) : 0 ≤ problem.maxViolation values :=
  ((max_violation_le_iff valid values _).mp le_rfl).1

theorem max_violation_eq_zero_iff {problem : Problem ℚ} (valid : problem.validate = .ok ())
    {values : List ℚ} (length : values.length = problem.numVariables) :
    problem.maxViolation values = 0 ↔ problem.Feasible values := by
  rw [← (max_violation_nonneg valid values).ge_iff_eq', max_violation_le_iff valid]
  simp only [add_zero, neg_zero, le_refl, true_and]
  constructor
  · rintro ⟨within, nonneg⟩
    exact ⟨length, within, nonneg⟩
  · intro feasible
    exact ⟨feasible.within, feasible.nonneg⟩

/-! ## The distance to feasibility -/

/-- The least amount by which all conditions of a problem have to be relaxed for a point
to meet them, and how feasible points are told by it. -/
structure Distance (problem : Problem ℚ) (values : List ℚ) (distance : ℚ) : Prop where
  le_iff : ∀ worst, distance ≤ worst ↔
    0 ≤ worst ∧
      (∀ index < problem.numConstraints,
        ∑ column ∈ range problem.numVariables,
            problem.coefficient index column * values.getD column 0 ≤
          problem.bound index + worst) ∧
      ∀ column < problem.numVariables, -worst ≤ values.getD column 0
  nonneg : 0 ≤ distance
  eq_zero_iff : distance = 0 ↔ problem.Feasible values

theorem forall_value_iff {problem : Problem ℚ} {values : List ℚ}
    (length : values.length = problem.numVariables) (least : ℚ) :
    (∀ value ∈ values, least ≤ value) ↔
      ∀ column < problem.numVariables, least ≤ values.getD column 0 := by
  rw [List.forall_mem_iff_forall_getElem, ← length]
  apply forall₂_congr
  intro column inside
  rw [List.getD_eq_getElem _ _ inside]

theorem max_violation_is_distance {problem : Problem ℚ} (valid : problem.validate = .ok ())
    {values : List ℚ} (length : values.length = problem.numVariables) :
    Distance problem values (problem.maxViolation values) := by
  constructor
  case le_iff =>
    intro worst
    rw [max_violation_le_iff valid, forall_value_iff length]
    apply and_congr_right
    intro _
    apply and_congr_left
    intro _
    apply forall₂_congr
    intro index inside
    rw [dot_row_eq valid inside]
  case nonneg => exact max_violation_nonneg valid values
  case eq_zero_iff => exact max_violation_eq_zero_iff valid length

def tiltedStrip : Problem ℚ :=
  ⟨[1, 1], [[3, 2], [1, -1]], [10, -1]⟩

/-- Both rows are exceeded and a value lies below zero; the second row decides. -/
theorem max_violation_is_distance_of_three_misses :
    tiltedStrip.validate = .ok () ∧ tiltedStrip.maxViolation [4, -1 / 2] = 11 / 2 ∧
      Distance tiltedStrip [4, -1 / 2] (11 / 2) := by
  have valid : tiltedStrip.validate = .ok () := by decide +kernel
  have violation : tiltedStrip.maxViolation [4, -1 / 2] = 11 / 2 := by decide +kernel
  refine ⟨valid, violation, ?_⟩
  rw [← violation]
  exact max_violation_is_distance valid rfl

end LinearProgram.Problem
