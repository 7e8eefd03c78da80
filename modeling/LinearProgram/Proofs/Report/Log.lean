import LinearProgram.Proofs.Barrier.Log
import LinearProgram.Proofs.Report.Composition

/-!
# The log of a report

The tasks of a request are performed in order up to the first that fails, and the log is
what they log on their own, one after the other. As text, the lines of a task are numbered as
its solve alone numbers them.
-/

namespace LinearProgram

namespace Run

variable {α β γ : Type}

/-- Of two runs in sequence the second counts only where the first succeeds. -/
theorem and_then_events {first : Run α β} {next : β → Run α γ} {rest : List (Event α)}
    (alike : ∀ value, (next value).events = rest) :
    (first.andThen next).events =
      first.events ++ if first.failure?.isSome then [] else rest := by
  unfold andThen failure?
  cases first.outcome with
  | error cause => exact (List.append_nil _).symm
  | ok value => exact congrArg (first.events ++ ·) (alike value)

theorem and_then_pure_events (run : Run α β) (made : β → γ) :
    (run.andThen fun value => pure (made value)).events = run.events := by
  have noFurther : ∀ value, (pure (made value) : Run α γ).events = [] := fun _ => rfl
  rw [and_then_events noFurther, ite_self, List.append_nil]

end Run

namespace Report

variable {α : Type} [Scalar α]

def Task.events (request : Request α) (problem : Problem α) : Task α → List (Event α)
  | .simplex => (request.simplexSolve problem).events
  | .barrier shrinkFactor => (request.barrierSolve problem shrinkFactor).events

/-- The tasks of a list that come to be performed, the last of which may fail. -/
def performed (request : Request α) (problem : Problem α) : List (Task α) → List (Task α)
  | [] => []
  | task :: rest =>
      task :: if (task.failure? request problem).isSome then [] else performed request problem rest

variable (request : Request α) (problem : Problem α)

theorem barrier_answers_events (shrinkFactors : List α) :
    (barrierAnswers request problem shrinkFactors).events =
      (performed request problem (shrinkFactors.map .barrier)).flatMap
        (Task.events request problem) := by
  induction shrinkFactors with
  | nil => rfl
  | cons shrinkFactor rest ih =>
      have own : (barrierAnswer request problem shrinkFactor).events =
          Task.events request problem (.barrier shrinkFactor) :=
        Run.and_then_pure_events _ _
      have failure : (barrierAnswer request problem shrinkFactor).failure? =
          Task.failure? request problem (.barrier shrinkFactor) :=
        Run.and_then_pure_failure _ _
      have others : ∀ answer : BarrierAnswer α,
          ((barrierAnswers request problem rest).andThen fun answers =>
              pure (answer :: answers)).events =
            (performed request problem (rest.map .barrier)).flatMap
              (Task.events request problem) := by
        intro answer
        rw [Run.and_then_pure_events, ih]
      simp only [barrierAnswers, Run.bind_eq_and_then]
      rw [Run.and_then_events others, own, failure, List.map_cons, performed, List.flatMap_cons]
      split_ifs <;> rfl

theorem barrier_part_events :
    (barrierPart request problem).events =
      (performed request problem
        (if request.method = .simplex then [] else request.shrinkFactors.map .barrier)).flatMap
          (Task.events request problem) := by
  unfold barrierPart
  cases request.method with
  | simplex => rfl
  | interiorPoint | both => exact barrier_answers_events request problem request.shrinkFactors

theorem solve_events :
    (solve request problem).events =
      (performed request problem request.tasks).flatMap (Task.events request problem) := by
  have others : ∀ simplex : Option (Solution α),
      ((barrierPart request problem).andThen fun barrier =>
          pure (Report.mk simplex barrier)).events =
        (performed request problem
          (if request.method = .simplex then [] else request.shrinkFactors.map .barrier)).flatMap
            (Task.events request problem) := by
    intro simplex
    rw [Run.and_then_pure_events, barrier_part_events]
  simp only [solve, Run.bind_eq_and_then]
  rw [Run.and_then_events others, Request.tasks]
  by_cases skipped : request.method = .interiorPoint
  · have nothing : simplexPart request problem = pure none := by
      rw [simplexPart, skipped]
      rfl
    rw [if_pos skipped, nothing]
    rfl
  · have failure : (request.simplexSolve problem).failure? =
        Task.failure? request problem .simplex := rfl
    rw [if_neg skipped, simplex_part_eq skipped, Run.and_then_pure_events,
      Run.and_then_pure_failure, List.singleton_append, performed, List.flatMap_cons, failure]
    split_ifs <;> rfl

end Report

namespace Report.Task

variable (request : Request Float) (problem : Problem Float)

def lines (task : Task Float) : List String :=
  (task.events request problem).map Event.line

/-- The text of the lines of a task carries the numbers that its solve gives to them. -/
def Numbered : Task Float → Prop
  | .simplex => PivotLines (request.simplexSolve problem).pivotCells.length
      (lines request problem .simplex)
  | .barrier shrinkFactor =>
      Barrier.Lines ⟨shrinkFactor, request.tolerance, request.maxIterations⟩ problem
        (lines request problem (.barrier shrinkFactor))

theorem numbered (task : Task Float) : task.Numbered request problem := by
  cases task with
  | simplex => exact Simplex.solve_lines _ problem
  | barrier shrinkFactor => exact Barrier.solve_lines _ problem

end Report.Task

end LinearProgram
