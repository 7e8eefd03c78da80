import Mathlib.Data.List.Forall2
import LinearProgram.Report

/-!
# Reports are composed of single solves

A request stands for a list of solves: the simplex method, then one barrier solve per
shrink factor. A report has the answer of each of them on its own, and exists exactly when
all of them succeed; otherwise the first failure in the list is the failure of the whole.
-/

namespace LinearProgram

namespace Run

variable {α β γ : Type}

/-- The cause of a run that fails. -/
def failure? (run : Run α β) : Option (SolveError α) :=
  match run.outcome with
  | .ok _ => none
  | .error cause => some cause

theorem failure_eq_some_iff {run : Run α β} {cause : SolveError α} :
    run.failure? = some cause ↔ run.outcome = .error cause := by
  unfold failure?
  cases run.outcome <;> simp

theorem failure_eq_none_iff {run : Run α β} :
    run.failure? = none ↔ ∃ value, run.outcome = .ok value := by
  unfold failure?
  cases run.outcome <;> simp

/-- Of two runs in sequence, the second of which fails alike after every value, the first
failure counts. -/
theorem and_then_failure {first : Run α β} {next : β → Run α γ} {rest : Option (SolveError α)}
    (alike : ∀ value, (next value).failure? = rest) :
    (first.andThen next).failure? = first.failure?.or rest := by
  unfold failure? at alike ⊢
  unfold andThen
  cases first.outcome with
  | error cause => rfl
  | ok value => exact alike value

theorem and_then_pure_eq_ok_iff {run : Run α β} {made : β → γ} {result : γ} :
    (run.andThen fun value => pure (made value)).outcome = .ok result ↔
      ∃ value, run.outcome = .ok value ∧ result = made value := by
  rw [and_then_eq_ok_iff]
  apply exists_congr
  intro value
  rw [pure_outcome, Except.ok.injEq]
  exact and_congr_right fun _ => eq_comm

theorem and_then_pure_failure (run : Run α β) (made : β → γ) :
    (run.andThen fun value => pure (made value)).failure? = run.failure? := by
  have noFurther : ∀ value, (pure (made value) : Run α γ).failure? = none := fun _ => rfl
  rw [and_then_failure noFurther, Option.or_none]

end Run

namespace Report

variable {α : Type}

/-- One of the solves that a request stands for. -/
inductive Task (α : Type) where
  | simplex
  | barrier (shrinkFactor : α)

def Request.tasks (request : Request α) : List (Task α) :=
  (if request.method = .interiorPoint then [] else [.simplex]) ++
    if request.method = .simplex then [] else request.shrinkFactors.map .barrier

variable [Scalar α]

/-! ## The single solves -/

/-- The cap of a request is not for the simplex method. -/
def Request.simplexSolve (request : Request α) (problem : Problem α) : Run α (Solution α) :=
  Simplex.solve ⟨request.tolerance, 10000⟩ problem

def Request.barrierSolve (request : Request α) (problem : Problem α) (shrinkFactor : α) :
    Run α (Barrier.Result α) :=
  Barrier.solve ⟨shrinkFactor, request.tolerance, request.maxIterations⟩ problem

/-- Why a task fails on its own, if it does. -/
def Task.failure? (request : Request α) (problem : Problem α) : Task α → Option (SolveError α)
  | .simplex => (request.simplexSolve problem).failure?
  | .barrier shrinkFactor => (request.barrierSolve problem shrinkFactor).failure?

/-- The entry of a report that the barrier solve for a shrink factor gives. -/
def BarrierEntry (request : Request α) (problem : Problem α) (shrinkFactor : α)
    (answer : BarrierAnswer α) : Prop :=
  ∃ result, (request.barrierSolve problem shrinkFactor).outcome = .ok result ∧
    answer = ⟨shrinkFactor, result.values, problem.objectiveValue result.values, result.iterations⟩

/-- Each part of a report is what the solves of that part give on their own. -/
structure Answers (request : Request α) (problem : Problem α) (report : Report α) : Prop where
  simplex : request.method ≠ .interiorPoint →
    ∃ solution, (request.simplexSolve problem).outcome = .ok solution ∧
      report.simplex = some solution
  noSimplex : request.method = .interiorPoint → report.simplex = none
  barrier : request.method ≠ .simplex →
    List.Forall₂ (BarrierEntry request problem) request.shrinkFactors report.barrier
  noBarrier : request.method = .simplex → report.barrier = []

variable {request : Request α} {problem : Problem α} {report : Report α}

/-! ## The simplex part -/

theorem simplex_part_eq (usesSimplex : request.method ≠ .interiorPoint) :
    simplexPart request problem =
      (request.simplexSolve problem).andThen fun solution => pure (some solution) := by
  unfold simplexPart
  cases method : request.method with
  | interiorPoint => exact absurd method usesSimplex
  | simplex | both => rfl

theorem simplex_part_eq_ok_iff {part : Option (Solution α)} :
    (simplexPart request problem).outcome = .ok part ↔
      (request.method ≠ .interiorPoint →
        ∃ solution, (request.simplexSolve problem).outcome = .ok solution ∧ part = some solution) ∧
      (request.method = .interiorPoint → part = none) := by
  by_cases skipped : request.method = .interiorPoint
  · simp [simplexPart, skipped, Method.usesSimplex, eq_comm]
  · rw [simplex_part_eq skipped, Run.and_then_pure_eq_ok_iff]
    simp [skipped]

theorem simplex_part_failure (request : Request α) (problem : Problem α) :
    (simplexPart request problem).failure? =
      (if request.method = .interiorPoint then [] else [Task.simplex]).findSome?
        (Task.failure? request problem) := by
  split_ifs with skipped
  · rw [simplexPart, skipped]
    rfl
  · rw [simplex_part_eq skipped, Run.and_then_pure_failure, List.findSome?_singleton]
    rfl

/-! ## The barrier part -/

theorem barrier_answer_eq_ok_iff {shrinkFactor : α} {answer : BarrierAnswer α} :
    (barrierAnswer request problem shrinkFactor).outcome = .ok answer ↔
      BarrierEntry request problem shrinkFactor answer :=
  Run.and_then_pure_eq_ok_iff

theorem barrier_answers_eq_ok_iff {shrinkFactors : List α} {answers : List (BarrierAnswer α)} :
    (barrierAnswers request problem shrinkFactors).outcome = .ok answers ↔
      List.Forall₂ (BarrierEntry request problem) shrinkFactors answers := by
  induction shrinkFactors generalizing answers with
  | nil => simp [barrierAnswers, eq_comm]
  | cons shrinkFactor rest ih =>
      rw [barrierAnswers, Run.bind_eq_and_then, Run.and_then_eq_ok_iff, List.forall₂_cons_left_iff]
      simp only [barrier_answer_eq_ok_iff, Run.bind_eq_and_then, Run.and_then_pure_eq_ok_iff, ih]
      constructor
      · rintro ⟨answer, entry, others, entries, rfl⟩
        exact ⟨answer, others, entry, entries, rfl⟩
      · rintro ⟨answer, others, entry, entries, rfl⟩
        exact ⟨answer, entry, others, entries, rfl⟩

theorem barrier_answers_failure (request : Request α) (problem : Problem α)
    (shrinkFactors : List α) :
    (barrierAnswers request problem shrinkFactors).failure? =
      (shrinkFactors.map Task.barrier).findSome? (Task.failure? request problem) := by
  induction shrinkFactors with
  | nil => rfl
  | cons shrinkFactor rest ih =>
      have own : (barrierAnswer request problem shrinkFactor).failure? =
          Task.failure? request problem (.barrier shrinkFactor) :=
        Run.and_then_pure_failure _ _
      have others : ∀ answer : BarrierAnswer α,
          ((barrierAnswers request problem rest).andThen fun answers =>
              pure (answer :: answers)).failure? =
            (rest.map Task.barrier).findSome? (Task.failure? request problem) := by
        intro answer
        rw [Run.and_then_pure_failure, ih]
      simp only [barrierAnswers, Run.bind_eq_and_then]
      rw [Run.and_then_failure others, own, List.map_cons, List.findSome?_cons]
      cases Task.failure? request problem (.barrier shrinkFactor) <;> rfl

theorem barrier_part_eq_ok_iff {part : List (BarrierAnswer α)} :
    (barrierPart request problem).outcome = .ok part ↔
      (request.method ≠ .simplex →
        List.Forall₂ (BarrierEntry request problem) request.shrinkFactors part) ∧
      (request.method = .simplex → part = []) := by
  unfold barrierPart
  rw [← barrier_answers_eq_ok_iff]
  cases request.method with
  | simplex => simp [Method.usesBarrier, eq_comm]
  | interiorPoint | both => simp [Method.usesBarrier]

theorem barrier_part_failure (request : Request α) (problem : Problem α) :
    (barrierPart request problem).failure? =
      (if request.method = .simplex then [] else request.shrinkFactors.map Task.barrier).findSome?
        (Task.failure? request problem) := by
  unfold barrierPart
  cases request.method with
  | simplex => rfl
  | interiorPoint | both => exact barrier_answers_failure request problem request.shrinkFactors

/-! ## The whole -/

theorem solve_eq_ok_iff :
    (solve request problem).outcome = .ok report ↔ Answers request problem report := by
  rw [solve, Run.bind_eq_and_then, Run.and_then_eq_ok_iff]
  simp only [Run.bind_eq_and_then, Run.and_then_pure_eq_ok_iff, simplex_part_eq_ok_iff,
    barrier_part_eq_ok_iff]
  constructor
  · rintro ⟨_, simplexGiven, _, barrierGiven, rfl⟩
    exact ⟨simplexGiven.1, simplexGiven.2, barrierGiven.1, barrierGiven.2⟩
  · intro answers
    exact ⟨_, ⟨answers.simplex, answers.noSimplex⟩, _, ⟨answers.barrier, answers.noBarrier⟩, rfl⟩

theorem solve_failure (request : Request α) (problem : Problem α) :
    (solve request problem).failure? =
      request.tasks.findSome? (Task.failure? request problem) := by
  have others : ∀ simplex : Option (Solution α),
      ((barrierPart request problem).andThen fun barrier =>
          pure (Report.mk simplex barrier)).failure? =
        (if request.method = .simplex then []
          else request.shrinkFactors.map Task.barrier).findSome? (Task.failure? request problem) := by
    intro simplex
    rw [Run.and_then_pure_failure, barrier_part_failure]
  simp only [solve, Run.bind_eq_and_then]
  rw [Run.and_then_failure others, simplex_part_failure, Request.tasks, List.findSome?_append]

/-- The same request with other shrink factors. -/
def Request.withFactors (request : Request α) (shrinkFactors : List α) : Request α :=
  { request with shrinkFactors := shrinkFactors }

theorem answers_append_iff (front back : List α) :
    Answers (request.withFactors (front ++ back)) problem report ↔
      ∃ first second, Answers (request.withFactors front) problem first ∧
        Answers (request.withFactors back) problem second ∧
        report = ⟨first.simplex, first.barrier ++ second.barrier⟩ := by
  constructor
  · intro answers
    refine ⟨⟨report.simplex, report.barrier.take front.length⟩,
      ⟨report.simplex, report.barrier.drop front.length⟩, ?_, ?_, ?_⟩
    · refine ⟨answers.simplex, answers.noSimplex, ?_, ?_⟩
      · intro usesBarrier
        exact (List.forall₂_take_append _ _ _ (answers.barrier usesBarrier).flip).flip
      · intro skipped
        rw [answers.noBarrier skipped, List.take_nil]
    · refine ⟨answers.simplex, answers.noSimplex, ?_, ?_⟩
      · intro usesBarrier
        exact (List.forall₂_drop_append _ _ _ (answers.barrier usesBarrier).flip).flip
      · intro skipped
        rw [answers.noBarrier skipped, List.drop_nil]
    · rw [List.take_append_drop]
  · rintro ⟨first, second, answersFirst, answersSecond, rfl⟩
    refine ⟨answersFirst.simplex, answersFirst.noSimplex, ?_, ?_⟩
    · intro usesBarrier
      exact List.rel_append (answersFirst.barrier usesBarrier) (answersSecond.barrier usesBarrier)
    · intro skipped
      rw [answersFirst.noBarrier skipped, answersSecond.noBarrier skipped, List.append_nil]

/-- The simplex part of a report comes from the method and the tolerance alone. -/
theorem Answers.simplex_eq {request' : Request α} {other : Report α}
    (answers : Answers request problem report) (answers' : Answers request' problem other)
    (sameMethod : request'.method = request.method)
    (sameTolerance : request'.tolerance = request.tolerance) : other.simplex = report.simplex := by
  by_cases skipped : request.method = .interiorPoint
  · rw [answers.noSimplex skipped, answers'.noSimplex (sameMethod.trans skipped)]
  · obtain ⟨solution, solved, isSolution⟩ := answers.simplex skipped
    obtain ⟨solution', solved', isSolution'⟩ := answers'.simplex (sameMethod ▸ skipped)
    rw [Request.simplexSolve, sameTolerance] at solved'
    obtain rfl := Except.ok.inj (solved'.symm.trans solved)
    rw [isSolution, isSolution']

/-- A report in terms of the solves that its request stands for. -/
structure Composed (request : Request α) (problem : Problem α) : Prop where
  succeeds : (∃ report, (solve request problem).outcome = .ok report) ↔
    ∀ task ∈ request.tasks, task.failure? request problem = none
  answers : ∀ report,
    (solve request problem).outcome = .ok report ↔ Answers request problem report
  fails : ∀ cause, (solve request problem).outcome = .error cause ↔
    request.tasks.findSome? (Task.failure? request problem) = some cause
  appended : ∀ front back report,
    (solve (request.withFactors (front ++ back)) problem).outcome = .ok report ↔
      ∃ first second, (solve (request.withFactors front) problem).outcome = .ok first ∧
        (solve (request.withFactors back) problem).outcome = .ok second ∧
        report = ⟨first.simplex, first.barrier ++ second.barrier⟩
  simplexAlone : ∀ shrinkFactors maxIterations report other,
    (solve request problem).outcome = .ok report →
      (solve { request with shrinkFactors := shrinkFactors, maxIterations := maxIterations }
        problem).outcome = .ok other → other.simplex = report.simplex

theorem report_composed (request : Request α) (problem : Problem α) :
    Composed request problem := by
  constructor
  case succeeds =>
    rw [← Run.failure_eq_none_iff, solve_failure, List.findSome?_eq_none_iff]
  case answers =>
    intro report
    exact solve_eq_ok_iff
  case fails =>
    intro cause
    rw [← Run.failure_eq_some_iff, solve_failure]
  case appended =>
    intro front back report
    simp only [solve_eq_ok_iff]
    exact answers_append_iff front back
  case simplexAlone =>
    intro shrinkFactors maxIterations report other solved solvedOther
    exact (solve_eq_ok_iff.mp solved).simplex_eq (solve_eq_ok_iff.mp solvedOther) rfl rfl

/-- The second of three shrink factors is the first that is refused. -/
example :
    (solve ⟨.both, 0.0001, [0.5, 2, 3], 5⟩ ⟨[1], [[1]], [1e200]⟩).outcome =
      (.error (.invalidParameter (.shrinkFactorOutsideUnitInterval 2)) :
        Except (SolveError Float) (Report Float)) := by
  decide +kernel

end Report

end LinearProgram
