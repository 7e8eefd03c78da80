import Mathlib.Data.List.GetD
import Mathlib.Tactic.SplitIfs
import LinearProgram.Barrier.Correction

/-!
# Entries of a correction

Each entry of the point and of the weights is corrected by its own gap, and a gap looks at
the inner answer, the right-hand sides and the target, which a correction leaves alone.
So a second correction finds the same gaps.
-/

namespace LinearProgram.Barrier

variable {α : Type} [Scalar α]

theorem close_gap_flag (gap base divisor current : α) :
    (closeGap gap base divisor current).2 = decide (0 < gap) := by
  unfold closeGap
  split_ifs with isOpen <;> simp [isOpen]

theorem close_gap_value (gap base divisor current : α) :
    (closeGap gap base divisor current).1 = if 0 < gap then base + gap / divisor else current := by
  unfold closeGap
  split_ifs <;> rfl

theorem close_gap_again (gap base divisor current : α) :
    closeGap gap base divisor (closeGap gap base divisor current).1 =
      closeGap gap base divisor current := by
  unfold closeGap
  split_ifs <;> rfl

theorem close_gap_kept {gap : α} (closed : ¬0 < gap) (base divisor current : α) :
    (closeGap gap base divisor current).1 = current := by
  rw [close_gap_value, if_neg closed]

variable {point weights answer rhs : List α}

theorem correct_point_get (answer : List α) (target tolerance : α) {index : ℕ}
    (inside : index < point.length) :
    (correctPoint answer target tolerance point)[index]? =
      some (closeGap (gap target (answer.getD (point.length + index) 0) (answer.getD index 0))
        (answer.getD index 0) (answer.getD (point.length + index) 0 + tolerance) point[index]) := by
  rw [correctPoint, List.getElem?_mapIdx, List.getElem?_eq_getElem inside, Option.map_some]

theorem correct_weights_get (answer : List α) (n : ℕ) (target tolerance : α) {index : ℕ}
    (inside : index < weights.length) (boundInside : index < rhs.length) :
    (correctWeights answer n rhs target tolerance weights)[index]? =
      some (closeGap (gap target (answer.getD (n + index) 0) rhs[index])
        (answer.getD (n + index) 0) (rhs[index] + tolerance) weights[index]) := by
  rw [correctWeights, List.getElem?_mapIdx, List.getElem?_eq_getElem inside, Option.map_some,
    List.getElem?_eq_getElem boundInside]

theorem correct_point_length (answer : List α) (target tolerance : α) (point : List α) :
    (correctPoint answer target tolerance point).length = point.length :=
  List.length_mapIdx

theorem correct_weights_length (answer : List α) (n : ℕ) (rhs : List α) (target tolerance : α)
    (weights : List α) :
    (correctWeights answer n rhs target tolerance weights).length = weights.length :=
  List.length_mapIdx

/-! ## A correction that finds no open gap -/

theorem correct_point_closed (answer : List α) (target tolerance : α) (point : List α) :
    (∀ pair ∈ correctPoint answer target tolerance point, pair.2 = false) ↔
      ∀ index < point.length,
        ¬0 < gap target (answer.getD (point.length + index) 0) (answer.getD index 0) := by
  simp only [correctPoint, List.mem_mapIdx, forall_exists_index]
  constructor
  · intro closed index inside
    have flag := closed _ index inside rfl
    rwa [close_gap_flag, decide_eq_false_iff_not] at flag
  · rintro closed pair index inside rfl
    rw [close_gap_flag, decide_eq_false_iff_not]
    exact closed index inside

theorem correct_weights_closed (answer : List α) (n : ℕ) (target tolerance : α)
    (sameLength : weights.length = rhs.length) :
    (∀ pair ∈ correctWeights answer n rhs target tolerance weights, pair.2 = false) ↔
      ∀ index (_ : index < rhs.length), ¬0 < gap target (answer.getD (n + index) 0) rhs[index] := by
  simp only [correctWeights, List.mem_mapIdx, forall_exists_index]
  constructor
  · intro closed index inside
    have flag := closed _ index (sameLength ▸ inside) rfl
    rw [List.getElem?_eq_getElem inside] at flag
    rwa [close_gap_flag, decide_eq_false_iff_not] at flag
  · rintro closed pair index inside rfl
    have boundInside : index < rhs.length := sameLength ▸ inside
    rw [List.getElem?_eq_getElem boundInside]
    dsimp only
    rw [close_gap_flag, decide_eq_false_iff_not]
    exact closed index boundInside

/-- A correction counts as converged when no gap is above zero. -/
theorem correct_converged_iff (point answer : List α) (target tolerance : α)
    (sameLength : weights.length = rhs.length) :
    (correct point weights answer rhs target tolerance).converged = true ↔
      (∀ index < point.length,
        ¬0 < gap target (answer.getD (point.length + index) 0) (answer.getD index 0)) ∧
      ∀ index (_ : index < rhs.length),
        ¬0 < gap target (answer.getD (point.length + index) 0) rhs[index] := by
  rw [← correct_point_closed answer target tolerance point,
    ← correct_weights_closed answer point.length target tolerance sameLength,
    ← List.forall_mem_append, correct, Bool.not_eq_true', List.any_eq_false]
  simp only [Bool.not_eq_true]

theorem correct_unchanged {target tolerance : α} (sameLength : weights.length = rhs.length)
    (converged : (correct point weights answer rhs target tolerance).converged = true) :
    (correct point weights answer rhs target tolerance).point = point ∧
      (correct point weights answer rhs target tolerance).weights = weights := by
  obtain ⟨pointClosed, weightsClosed⟩ :=
    (correct_converged_iff point answer target tolerance sameLength).mp converged
  constructor
  · apply List.ext_getElem (by simp [correct, correct_point_length])
    intro index _ inside
    simp only [correct, correctPoint, List.getElem_map, List.getElem_mapIdx]
    exact close_gap_kept (pointClosed index inside) _ _ _
  · apply List.ext_getElem (by simp [correct, correct_weights_length])
    intro index _ inside
    have boundInside : index < rhs.length := sameLength ▸ inside
    simp only [correct, correctWeights, List.getElem_map, List.getElem_mapIdx,
      List.getElem?_eq_getElem boundInside]
    exact close_gap_kept (weightsClosed index boundInside) _ _ _

/-! ## The same correction again -/

theorem correct_point_again (answer : List α) (target tolerance : α) (point : List α) :
    correctPoint answer target tolerance
        ((correctPoint answer target tolerance point).map (·.1)) =
      correctPoint answer target tolerance point := by
  apply List.ext_getElem (by simp [correctPoint])
  intro index _ _
  simp only [correctPoint, List.getElem_mapIdx, List.getElem_map, List.length_map,
    List.length_mapIdx]
  exact close_gap_again _ _ _ _

theorem correct_weights_again (answer : List α) (n : ℕ) (rhs : List α) (target tolerance : α)
    (weights : List α) :
    correctWeights answer n rhs target tolerance
        ((correctWeights answer n rhs target tolerance weights).map (·.1)) =
      correctWeights answer n rhs target tolerance weights := by
  apply List.ext_getElem (by simp [correctWeights])
  intro index _ _
  simp only [correctWeights, List.getElem_mapIdx, List.getElem_map]
  cases rhs[index]? with
  | none => rfl
  | some bound => exact close_gap_again _ _ _ _

theorem correct_again (point weights answer rhs : List α) (target tolerance : α) :
    correct (correct point weights answer rhs target tolerance).point
        (correct point weights answer rhs target tolerance).weights answer rhs target tolerance =
      correct point weights answer rhs target tolerance := by
  simp only [correct, List.length_map, correct_point_length, correct_point_again,
    correct_weights_again]

end LinearProgram.Barrier
