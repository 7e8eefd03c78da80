import LinearProgram.Proofs.Barrier.Correction
import LinearProgram.Proofs.Checked.Barrier

/-!
# The contract of a correction

An answer with an entry for each gap lets the correction go through in place, whatever the
arithmetic. Entries with an open gap move to the value that closes it, all others stay, and
the correction has converged when none was open. Doing it again changes nothing.
-/

namespace LinearProgram.Checked

open Barrier (correct_point_get correct_weights_get correct_point_length correct_weights_length
  correct_converged_iff correct_unchanged correct_again close_gap_value)

variable {α : Type} [Scalar α] {point weights answer rhs : List α}

theorem corrected_point (target tolerance : α)
    (room : point.length + max point.length weights.length ≤ answer.length) (index : ℕ)
    (inside : index < point.length) :
    let delta := target - answer[point.length + index] * answer[index]
    (Barrier.correct point weights answer rhs target tolerance).point[index]? = some (
      if 0 < delta then answer[index] + delta / (answer[point.length + index] + tolerance)
      else point[index]) := by
  have slackInside : point.length + index < answer.length := by omega
  have innerInside : index < answer.length := by omega
  rw [Barrier.correct, List.getElem?_map, correct_point_get answer target tolerance inside,
    List.getD_eq_getElem _ _ slackInside, List.getD_eq_getElem _ _ innerInside, Option.map_some,
    close_gap_value]
  rfl

theorem corrected_weight (target tolerance : α) (sameLength : weights.length = rhs.length)
    (room : point.length + max point.length weights.length ≤ answer.length) (index : ℕ)
    (inside : index < rhs.length) :
    let delta := target - answer[point.length + index] * rhs[index]
    (Barrier.correct point weights answer rhs target tolerance).weights[index]? = some (
      if 0 < delta then answer[point.length + index] + delta / (rhs[index] + tolerance)
      else weights[index]) := by
  have slackInside : point.length + index < answer.length := by omega
  have weightInside : index < weights.length := by omega
  rw [Barrier.correct, List.getElem?_map,
    correct_weights_get answer point.length target tolerance weightInside inside,
    List.getD_eq_getElem _ _ slackInside, Option.map_some, close_gap_value]
  rfl

theorem corrected_converged_iff (target tolerance : α) (sameLength : weights.length = rhs.length)
    (room : point.length + max point.length weights.length ≤ answer.length) :
    (Barrier.correct point weights answer rhs target tolerance).converged = true ↔
      (∀ index (inside : index < point.length),
        ¬0 < target - answer[point.length + index] * answer[index]) ∧
      ∀ index (inside : index < rhs.length),
        ¬0 < target - answer[point.length + index] * rhs[index] := by
  rw [correct_converged_iff point answer target tolerance sameLength]
  apply and_congr
  · apply forall₂_congr
    intro index inside
    have slackInside : point.length + index < answer.length := by omega
    have innerInside : index < answer.length := by omega
    rw [List.getD_eq_getElem _ _ slackInside, List.getD_eq_getElem _ _ innerInside]
    rfl
  · apply forall₂_congr
    intro index inside
    have slackInside : point.length + index < answer.length := by omega
    rw [List.getD_eq_getElem _ _ slackInside]
    rfl

/-- Done in place, a correction moves exactly the entries whose gap is open, each by its own
gap, and has converged exactly when no gap is. Then it has changed nothing, and done again it
gives the same in any case. -/
theorem correct_contract (target tolerance : α) (sameLength : weights.length = rhs.length)
    (room : point.length + max point.length weights.length ≤ answer.length) :
    ∃ after, correct point weights answer rhs target tolerance = some after ∧
      after = Barrier.correct point weights answer rhs target tolerance ∧
      after.point.length = point.length ∧ after.weights.length = weights.length ∧
      (∀ index (inside : index < point.length),
        let delta := target - answer[point.length + index] * answer[index]
        after.point[index]? = some (
          if 0 < delta then answer[index] + delta / (answer[point.length + index] + tolerance)
          else point[index])) ∧
      (∀ index (inside : index < rhs.length),
        let delta := target - answer[point.length + index] * rhs[index]
        after.weights[index]? = some (
          if 0 < delta then answer[point.length + index] + delta / (rhs[index] + tolerance)
          else weights[index])) ∧
      (after.converged = true ↔
        (∀ index (inside : index < point.length),
          ¬0 < target - answer[point.length + index] * answer[index]) ∧
        ∀ index (inside : index < rhs.length),
          ¬0 < target - answer[point.length + index] * rhs[index]) ∧
      (after.converged = true → after.point = point ∧ after.weights = weights) ∧
      correct after.point after.weights answer rhs target tolerance = some after := by
  have pointLength : (Barrier.correct point weights answer rhs target tolerance).point.length =
      point.length := by
    rw [Barrier.correct, List.length_map, correct_point_length]
  have weightsLength : (Barrier.correct point weights answer rhs target tolerance).weights.length =
      weights.length := by
    rw [Barrier.correct, List.length_map, correct_weights_length]
  refine ⟨_, correct_eq target tolerance sameLength room, rfl, pointLength, weightsLength,
    ?_, ?_, ?_, ?_, ?_⟩
  · exact corrected_point target tolerance room
  · exact corrected_weight target tolerance sameLength room
  · exact corrected_converged_iff target tolerance sameLength room
  · exact correct_unchanged sameLength
  · rw [correct_eq target tolerance (by rw [weightsLength, sameLength])
      (by rw [pointLength, weightsLength]; exact room), correct_again]

/-- The third entry is infinite, and its slack is zero. -/
def unboundedAnswer : List Float :=
  [0, 2, 1 / 0, 0.5, 1, 0]

/-- The first variable and the second constraint have an open gap. The gap of the third
variable is NaN and counts as closed. -/
theorem correct_contract_of_nan_gap :
    ([1, 1] : List Float).length = ([4, -1] : List Float).length ∧
      3 + max 3 2 ≤ unboundedAnswer.length ∧
      correct [1, 1, 1] [1, 1] unboundedAnswer [4, -1] 0.5 0.5 =
        some ⟨[0.5, 1, 1], [1, -2], false⟩ ∧
      correct [0.5, 1, 1] [1, -2] unboundedAnswer [4, -1] 0.5 0.5 =
        some ⟨[0.5, 1, 1], [1, -2], false⟩ := by
  have sameLength : ([1, 1] : List Float).length = ([4, -1] : List Float).length := by decide
  have room : ([1, 1, 1] : List Float).length + max 3 2 ≤ unboundedAnswer.length := by decide
  have corrected : correct [1, 1, 1] [1, 1] unboundedAnswer [4, -1] 0.5 0.5 =
      some ⟨[0.5, 1, 1], [1, -2], false⟩ := by decide +kernel
  obtain ⟨after, inPlace, _, _, _, _, _, _, _, again⟩ :=
    correct_contract (0.5 : Float) 0.5 sameLength room
  have same := Option.some.inj (corrected.symm.trans inPlace)
  rw [← same] at again
  exact ⟨sameLength, room, corrected, again⟩

end LinearProgram.Checked
