import LinearProgram.Proofs.Barrier.Caps
import LinearProgram.Proofs.Barrier.Correction
import LinearProgram.Proofs.Barrier.Inert

/-!
# The gaps that a solve ends with

A solve ends with a correction that finds no open gap. A gap that is NaN is not
open, and the checks for finite values do not see it: they look at the target, the
inner answer and the new state, and not at the right-hand sides. The gap of a
constraint is NaN exactly when its right-hand side is infinite, since the coupling
variable that it is multiplied with is zero.
-/

namespace LinearProgram.Barrier

open Scalar

section Reading

variable {α : Type} [Scalar α] {settings : Settings α} {problem : Problem α}

structure Gaps (α : Type) where
  point : List α
  weights : List α
deriving DecidableEq, Repr

def Gaps.all (gaps : Gaps α) : List α :=
  gaps.point ++ gaps.weights

/-- The gaps that one correction looks at, one for each variable and one for each
constraint. -/
def gapsOf (problem : Problem α) (target : α) (answer : List α) : Gaps α where
  point := (List.range problem.numVariables).map fun index =>
    gap target (answer.getD (problem.numVariables + index) 0) (answer.getD index 0)
  weights := problem.rhs.mapIdx fun index bound =>
    gap target (answer.getD (problem.numVariables + index) 0) bound

/-- The gaps of the correction in iteration `number`, if a solve gets that far. -/
def gapsIn (settings : Settings α) (problem : Problem α) (number : ℕ) : Option (Gaps α) :=
  (stateAfter settings problem (number - 1)).bind fun state =>
    match (innerSolve settings problem state).outcome with
    | .error _ => none
    | .ok answer => some (gapsOf problem
        (state.barrier / (settings.shrinkFactor * state.barrier) *
          dualityMeasure state.weights problem.rhs) answer)

theorem converged_iff {state : State α} (sized : Sized problem state) (answer : List α)
    (target tolerance : α) :
    (correct state.point state.weights answer problem.rhs target tolerance).converged = true ↔
      ∀ delta ∈ (gapsOf problem target answer).all, ¬0 < delta := by
  rw [correct_converged_iff state.point answer target tolerance sized.weights, sized.point,
    Gaps.all, List.forall_mem_append]
  apply and_congr
  · simp [gapsOf]
  · simp only [gapsOf, List.mem_mapIdx]
    constructor
    · rintro closed delta ⟨index, inside, rfl⟩
      exact closed index inside
    · intro closed index inside
      exact closed _ ⟨index, inside, rfl⟩

/-- The correction that an answer is taken from. -/
structure Ends (settings : Settings α) (problem : Problem α) (result : Result α) (target : α)
    (answer : List α) : Prop where
  gaps : gapsIn settings problem result.iterations = some (gapsOf problem target answer)
  targetFinite : isFinite target = true
  answerFinite : allFinite answer = true
  coupling : ∀ index < problem.numConstraints, answer.getD (problem.numVariables + index) 0 = 0
  notOpen : ∀ delta ∈ (gapsOf problem target answer).all, ¬0 < delta

theorem ends_of_ok [SignLaws α] {result : Result α}
    (solved : (solve settings problem).outcome = .ok result) :
    ∃ target answer, Ends settings problem result target answer := by
  obtain ⟨accepted, last, _, state, following, found, step, rfl⟩ := closes_of_ok solved
  obtain ⟨answer, inner, advanced⟩ := (iteration_eq_ok_iff _ _ _ _ _).mp step
  obtain ⟨target, correction, isTarget, isCorrection, targetFinite, answerFinite, _, pair⟩ :=
    advance_of_ok advanced
  have sized := sized_of_state_after found
  refine ⟨target, answer, ?_, targetFinite, answerFinite, ?_, ?_⟩
  · simp [gapsIn, found, inner, isTarget]
  · intro index inside
    exact inner_answer_coupling ((check_inputs_eq_ok_iff _ _).mp accepted) sized inner inside
  · rw [← converged_iff sized answer target settings.tolerance, ← isCorrection]
    exact (congrArg Prod.snd pair).symm

end Reading

/-! ## Gaps between doubles -/

/-- Closed by its value, and not for want of an order. -/
def Closed (delta : Float) : Prop :=
  delta.isNaN = false ∧ delta ≤ 0

instance (delta : Float) : Decidable (Closed delta) :=
  inferInstanceAs (Decidable (delta.isNaN = false ∧ delta ≤ 0))

theorem gap_closed {target first second : Float} (targetFinite : target.isFinite = true)
    (firstFinite : first.isFinite = true) (secondFinite : second.isFinite = true)
    (notOpen : ¬0 < gap target first second) : Closed (gap target first second) := by
  have number : Double.unpacked (gap target first second) ≠ .notANumber :=
    Double.sub_ne_nan targetFinite (Double.mul_ne_nan firstFinite secondFinite)
  refine ⟨?_, Double.le_zero_of_not_pos number notOpen⟩
  rw [Bool.eq_false_iff, Ne, Double.is_nan_iff]
  exact number

theorem gap_nan (target : Float) {second : Float} (unbounded : second.isFinite = false) :
    (gap target 0 second).isNaN = true :=
  (Double.is_nan_iff _).mpr (Double.sub_nan target (Double.zero_mul_nan unbounded))

theorem finite_get {values : List Float} (finite : allFinite values = true) (index : ℕ) :
    (values.getD index 0).isFinite = true := by
  rcases Nat.lt_or_ge index values.length with inside | outside
  · rw [List.getD_eq_getElem _ _ inside]
    exact List.all_eq_true.mp finite _ (List.getElem_mem inside)
  · rw [List.getD_eq_default _ _ outside]
    rfl

/-- How the gap of a constraint ends: it is a number only below a finite right-hand
side. -/
def EndsBelow (delta bound : Float) : Prop :=
  if bound.isFinite then Closed delta else delta.isNaN = true

theorem all_closed_iff {deltas bounds : List Float} (ends : List.Forall₂ EndsBelow deltas bounds) :
    (∀ delta ∈ deltas, Closed delta) ↔ ∀ bound ∈ bounds, bound.isFinite = true := by
  induction ends with
  | nil => simp
  | @cons delta bound _ _ below _ ih =>
      rw [List.forall_mem_cons, List.forall_mem_cons, ih]
      apply and_congr_left
      intro _
      unfold EndsBelow at below
      split_ifs at below with finite
      · exact iff_of_true below finite
      · apply iff_of_false _ finite
        intro closed
        exact Bool.false_ne_true (closed.1.symm.trans below)

variable {settings : Settings Float} {problem : Problem Float} {result : Result Float}

theorem Ends.point_closed {target : Float} {answer : List Float}
    (ends : Ends settings problem result target answer) :
    ∀ delta ∈ (gapsOf problem target answer).point, Closed delta := by
  intro delta member
  have notOpen := ends.notOpen delta (List.mem_append_left _ member)
  obtain ⟨index, _, rfl⟩ := List.mem_map.mp member
  exact gap_closed ends.targetFinite (finite_get ends.answerFinite _)
    (finite_get ends.answerFinite _) notOpen

theorem Ends.weights_end_below {target : Float} {answer : List Float}
    (ends : Ends settings problem result target answer) :
    List.Forall₂ EndsBelow (gapsOf problem target answer).weights problem.rhs := by
  rw [List.forall₂_iff_get]
  refine ⟨List.length_mapIdx, ?_⟩
  intro index inside boundInside
  have notOpen := ends.notOpen _ (List.mem_append_right _ (List.get_mem _ ⟨index, inside⟩))
  have coupling := ends.coupling index boundInside
  simp only [gapsOf, List.get_eq_getElem, List.getElem_mapIdx] at notOpen ⊢
  unfold EndsBelow
  split_ifs with finite
  · exact gap_closed ends.targetFinite (finite_get ends.answerFinite _) finite notOpen
  · rw [coupling]
    exact gap_nan target (Bool.eq_false_iff.mpr finite)

/-- An answer ends with gaps of the point that are closed, and with a gap for each
constraint that is closed where the right-hand side is finite and NaN elsewhere. So
all gaps are closed if and only if all right-hand sides are finite. -/
theorem gaps_closed_iff_rhs_finite (solved : (solve settings problem).outcome = .ok result) :
    ∃ gaps, gapsIn settings problem result.iterations = some gaps ∧
      (gaps.point.length = problem.numVariables ∧ ∀ delta ∈ gaps.point, Closed delta) ∧
      List.Forall₂ EndsBelow gaps.weights problem.rhs ∧
      ((∀ delta ∈ gaps.all, Closed delta) ↔ ∀ bound ∈ problem.rhs, bound.isFinite = true) := by
  obtain ⟨target, answer, ends⟩ := ends_of_ok solved
  have pointClosed := ends.point_closed
  have weightsEnd := ends.weights_end_below
  refine ⟨gapsOf problem target answer, ends.gaps, ⟨?_, pointClosed⟩, weightsEnd, ?_⟩
  · rw [gapsOf, List.length_map, List.length_range]
  · rw [Gaps.all, List.forall_mem_append, all_closed_iff weightsEnd]
    exact and_iff_right pointClosed

/-- Both gaps are zero in the second iteration, where the weight has underflowed. -/
theorem gaps_closed_of_remote_bound :
    (solve halvingFloat remoteBound).outcome = .ok ⟨[1e200], 2, 0.25⟩ ∧
      ∃ gaps, gapsIn halvingFloat remoteBound 2 = some gaps ∧ ∀ delta ∈ gaps.all, Closed delta := by
  have solved : (solve halvingFloat remoteBound).outcome = .ok ⟨[1e200], 2, 0.25⟩ := by
    decide +kernel
  obtain ⟨gaps, found, _, _, closed⟩ := gaps_closed_iff_rhs_finite solved
  exact ⟨solved, gaps, found, closed.mpr (by decide +kernel)⟩

/-- A bound that says nothing, on a variable that is best left at zero. -/
def infiniteBound : Problem Float :=
  ⟨[-1], [[1]], [1 / 0]⟩

/-- The answer costs one where the optimum costs nothing, and the gap of the
constraint is NaN. -/
theorem nan_gap_of_infinite_bound :
    checkInputs halvingFloat infiniteBound = .ok () ∧
      (solve halvingFloat infiniteBound).outcome = .ok ⟨[1], 1, 0.5⟩ ∧
      ∃ gaps, gapsIn halvingFloat infiniteBound 1 = some gaps ∧
        ∃ delta ∈ gaps.all, delta.isNaN = true ∧ ¬Closed delta := by
  refine ⟨by decide +kernel, by decide +kernel, gapsOf infiniteBound 0 [0, 0, 0], ?_, ?_⟩
  · decide +kernel
  · decide +kernel

end LinearProgram.Barrier
