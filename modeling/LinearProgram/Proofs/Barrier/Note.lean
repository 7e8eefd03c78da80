import LinearProgram.Message
import LinearProgram.Proofs.Barrier.Refused

/-!
# The note on a problem

The note looks at the right-hand sides alone, and a barrier solve looks at the shape
before them. So the note tells whether and why a solve refuses a problem where the shape
fits, and nowhere else: on any other shape it is silent, or it blames a right-hand side
that the solve never came to.
-/

namespace LinearProgram

open Decimal

theorem Problem.barrier_note_eq_none_iff (problem : Problem Float) :
    problem.barrierNote = none ↔ problem.firstNonPositiveRhs = none :=
  Option.map_eq_none_iff

theorem Problem.barrier_note_eq_some_iff (problem : Problem Float) (note : String) :
    problem.barrierNote = some note ↔
      ∃ index bound, problem.firstNonPositiveRhs = some (index, bound) ∧
        note = s!"right-hand side {index} is {Style.plain.text bound}, interior-point method unavailable" := by
  rw [Problem.barrierNote, Option.map_eq_some_iff, Prod.exists]
  simp only [eq_comm]

namespace Barrier

variable {settings : Settings Float} {problem : Problem Float}

/-- There is a note when a solve refuses the problem and only then, and the note has the
index and the right-hand side of the refusal. -/
structure NoteTells (settings : Settings Float) (problem : Problem Float) : Prop where
  accepted : problem.barrierNote = none ↔ checkInputs settings problem = .ok ()
  notRefused : problem.barrierNote = none ↔
    ∀ reason, (solve settings problem).outcome ≠ .error (.invalidParameter reason)
  sameBound : ∀ note, problem.barrierNote = some note →
    ∃ index bound, problem.firstNonPositiveRhs = some (index, bound) ∧
      note = s!"right-hand side {index} is {Style.plain.text bound}, interior-point method unavailable" ∧
      (solve settings problem).outcome =
        .error (.invalidParameter (.rhsNotPositive index bound))

theorem note_tells_of_fits (valid : problem.validate = .ok ())
    (shrink : 0 < settings.shrinkFactor ∧ settings.shrinkFactor < 1)
    (tolerance : 0 < settings.tolerance) (fits : Fits problem) : NoteTells settings problem := by
  have refusals := refusal_of_fits fits shrink tolerance
  have silent : problem.barrierNote = none ↔ refusal settings problem = none := by
    rw [problem.barrier_note_eq_none_iff, refusals, Option.map_eq_none_iff]
  constructor
  · rw [silent, check_inputs_of_valid valid]
  · rw [silent, not_refused_iff valid]
  · intro note isNote
    obtain ⟨index, bound, found, text⟩ := (problem.barrier_note_eq_some_iff note).mp isNote
    refine ⟨index, bound, found, text, ?_⟩
    rw [refused_iff valid, refusals, found]
    rfl

/-- Where the shape does not fit, silence is wrong and so is a note. -/
theorem fits_of_note_tells (valid : problem.validate = .ok ())
    (tells : NoteTells settings problem) : Fits problem := by
  by_contra misfit
  have refusals := refusal_of_misfit settings misfit
  cases noted : problem.barrierNote with
  | none =>
      have accepted := (check_inputs_of_valid valid).mp (tells.accepted.mp noted)
      simp [accepted] at refusals
  | some note =>
      obtain ⟨index, bound, _, _, refused⟩ := tells.sameBound note noted
      rw [refused_iff valid] at refused
      simp [refused] at refusals

/-- The note tells what a solve does exactly on the shapes that fit. Any other shape is
itself what the solve refuses, whether there is a note or not. -/
theorem note_tells_iff_fits (valid : problem.validate = .ok ())
    (shrink : 0 < settings.shrinkFactor ∧ settings.shrinkFactor < 1)
    (tolerance : 0 < settings.tolerance) :
    (NoteTells settings problem ↔ Fits problem) ∧
      (¬Fits problem →
        (solve settings problem).outcome =
            .error (.invalidParameter .noVariableOrNoConstraint) ∨
          (solve settings problem).outcome =
            .error (.invalidParameter
              (.tooManyVariables problem.numVariables problem.numConstraints))) := by
  constructor
  · exact ⟨fits_of_note_tells valid, note_tells_of_fits valid shrink tolerance⟩
  · intro misfit
    rw [refused_iff valid, refused_iff valid]
    exact refusal_of_misfit settings misfit

/-- A right-hand side that is not a number is noted and refused. -/
theorem note_tells_of_nan :
    (⟨[1, 1], [[1, 1], [2, 1]], [3, 0 / 0]⟩ : Problem Float).validate = .ok () ∧
      (⟨[1, 1], [[1, 1], [2, 1]], [3, 0 / 0]⟩ : Problem Float).barrierNote =
        some "right-hand side 1 is NaN, interior-point method unavailable" ∧
      NoteTells ⟨0.5, 0.0001, 5⟩ ⟨[1, 1], [[1, 1], [2, 1]], [3, 0 / 0]⟩ := by
  have valid : (⟨[1, 1], [[1, 1], [2, 1]], [3, 0 / 0]⟩ : Problem Float).validate = .ok () := by
    decide
  refine ⟨valid, by decide +kernel, ?_⟩
  apply (note_tells_iff_fits valid (by decide +kernel) (by decide +kernel)).1.mpr
  exact ⟨by decide, by decide⟩

/-- Three variables under one constraint. -/
def wide (bound : Float) : Problem Float :=
  ⟨[1, 1, 1], [[1, 1, 1]], [bound]⟩

/-- Such a problem is refused for its width. A positive right-hand side goes without a note
all the same, and the note on a negative one names a reason that is not the solve's. -/
theorem note_silent_on_width :
    ((wide 1).validate = .ok () ∧ (wide (-1)).validate = .ok () ∧
        ((0 : Float) < 0.5 ∧ (0.5 : Float) < 1) ∧ (0 : Float) < 0.0001) ∧
      ((wide 1).barrierNote = none ∧
        checkInputs ⟨0.5, 0.0001, 5⟩ (wide 1) ≠ .ok () ∧
        (solve ⟨0.5, 0.0001, 5⟩ (wide 1)).outcome =
          .error (.invalidParameter (.tooManyVariables 3 1))) ∧
      (wide (-1)).barrierNote =
          some "right-hand side 0 is -1, interior-point method unavailable" ∧
        (solve ⟨0.5, 0.0001, 5⟩ (wide (-1))).outcome =
          .error (.invalidParameter (.tooManyVariables 3 1)) := by
  decide +kernel

end Barrier

end LinearProgram
