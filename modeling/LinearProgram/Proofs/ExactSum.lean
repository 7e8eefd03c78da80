import Mathlib
import LinearProgram.Scalar

/-!
# Sums in exact arithmetic

Over the rationals the order of a sum does not matter, so the folds of the
solvers are finite sums over indices. A vector is read with zeros past its end,
which is what an inner product that stops at the shorter list amounts to.
-/

namespace LinearProgram.Scalar

open Finset

theorem sum_eq_list_sum (terms : List ℚ) : sum terms = terms.sum := by
  rw [List.sum_eq_foldl]
  rfl

theorem list_sum_eq_range_sum (terms : List ℚ) :
    terms.sum = ∑ index ∈ range terms.length, terms.getD index 0 := by
  induction terms with
  | nil => rfl
  | cons term rest ih =>
      rw [List.length_cons, sum_range_succ', List.sum_cons, ih, add_comm]
      rfl

theorem get_zip_with_mul (left right : List ℚ) (index : ℕ) :
    (List.zipWith (· * ·) left right).getD index 0 = left.getD index 0 * right.getD index 0 := by
  simp only [List.getD_eq_getElem?_getD, List.getElem?_zipWith]
  cases left[index]? <;> cases right[index]? <;> simp

/-- The indices of the left list are enough: past the end of either list the
product is zero. -/
theorem dot_eq_range_sum (left right : List ℚ) :
    dot left right = ∑ index ∈ range left.length, left.getD index 0 * right.getD index 0 := by
  have shorter : (List.zipWith (fun x y : ℚ => x * y) left right).length ≤ left.length := by
    rw [List.length_zipWith]
    exact Nat.min_le_left _ _
  rw [dot, sum_eq_list_sum, list_sum_eq_range_sum]
  refine (sum_subset (range_subset_range.mpr shorter) ?_).trans ?_
  · intro index _ outside
    rw [mem_range, not_lt] at outside
    exact List.getD_eq_default _ _ outside
  · apply sum_congr rfl
    intro index _
    exact get_zip_with_mul left right index

theorem dot_append {front other : List ℚ} (same : front.length = other.length)
    (back rest : List ℚ) : dot (front ++ back) (other ++ rest) = dot front other + dot back rest := by
  rw [dot, dot, dot, sum_eq_list_sum, sum_eq_list_sum, sum_eq_list_sum, List.zipWith_append same,
    List.sum_append]

theorem dot_singleton (left right : ℚ) : dot [left] [right] = left * right := by
  simp [dot, sum_eq_list_sum]

theorem dot_zeros_left (count : ℕ) (values : List ℚ) :
    dot (List.replicate count 0) values = 0 := by
  rw [dot_eq_range_sum, sum_eq_zero]
  intro index _
  simp

theorem dot_zeros_right (count : ℕ) (values : List ℚ) :
    dot values (List.replicate count 0) = 0 := by
  rw [dot_eq_range_sum, sum_eq_zero]
  intro index _
  simp

theorem larger_eq_max (first second : ℚ) : larger first second = max first second := by
  unfold larger
  split_ifs with exceeds
  · exact (max_eq_right exceeds.le).symm
  · exact (max_eq_left (not_lt.mp exceeds)).symm

end LinearProgram.Scalar
