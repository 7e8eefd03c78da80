import LinearProgram.Proofs.Barrier.Failure
import LinearProgram.Proofs.LogLine

/-!
# The log of a solve

The pivots of a simplex solve are logged with their numbers, from zero on. A barrier solve
logs, for each iteration, the pivots of its inner solve and then, if the iteration comes as
far as its correction, one line with the number of the iteration, from one on. The iteration
that closes all gaps adds a line of its own, which is the last.
-/

namespace LinearProgram

variable {α : Type}

namespace Event

theorem closing_of_step {event : Event α} {number : ℕ} (step : event.stepNumber? = some number) :
    event.closingNumber? = none := by
  cases event <;> first | rfl | cases step

theorem step_of_closing {event : Event α} {number : ℕ}
    (closing : event.closingNumber? = some number) : event.stepNumber? = none := by
  cases event <;> first | rfl | cases closing

end Event

/-! ## Pivots -/

/-- Lines of `count` pivots, all of them pivot lines, that carry the numbers from zero on. -/
def PivotLines (count : ℕ) (lines : List String) : Prop :=
  lines.map LogLine.pivotNumber? = (List.range count).map some

namespace Simplex

theorem numbered_pivots_silent {number? : Event α → Option ℕ}
    (silent : ∀ iteration column row, number? (.pivot iteration column row) = none) (first : ℕ)
    (cells : List (ℕ × ℕ)) : (numberedPivots first cells).filterMap number? = [] := by
  induction cells generalizing first with
  | nil => rfl
  | cons cell rest ih =>
      rw [numberedPivots, List.filterMap_cons_none (silent first cell.1 cell.2), ih]

theorem numbered_pivots_numbers (first : ℕ) (cells : List (ℕ × ℕ)) :
    (numberedPivots first cells : List (Event α)).map Event.pivotNumber? =
      (List.range' first cells.length).map some := by
  induction cells generalizing first with
  | nil => rfl
  | cons cell rest ih =>
      rw [numberedPivots, List.map_cons, ih, List.length_cons, List.range'_succ, List.map_cons]
      rfl

theorem numbered_pivots_lines (cells : List (ℕ × ℕ)) :
    PivotLines cells.length ((numberedPivots 0 cells).map Event.line) := by
  have numbers : (numberedPivots 0 cells).map (LogLine.pivotNumber? ∘ Event.line) =
      (numberedPivots 0 cells).map Event.pivotNumber? :=
    List.map_congr_left fun event _ => event.pivot_number_of_line
  rw [PivotLines, List.map_map, numbers, numbered_pivots_numbers, List.range_eq_range']

theorem solve_log [Scalar α] (settings : Settings α) (problem : Problem α) :
    (solve settings problem).events = numberedPivots 0 (solve settings problem).pivotCells := by
  have numbered : ∃ cells, (solve settings problem).events = numberedPivots 0 cells := by
    unfold solve
    split
    · exact ⟨[], rfl⟩
    · split_ifs
      · obtain ⟨_, _, cells, logged, _⟩ :=
          descend_spec settings.tolerance settings.maxPivots 0 (.ofProblem problem) []
        exact ⟨cells, logged⟩
      · exact ⟨[], rfl⟩
  obtain ⟨cells, isNumbered⟩ := numbered
  rw [Run.pivotCells, isNumbered, numbered_pivots_cells]

theorem solve_lines (settings : Settings Float) (problem : Problem Float) :
    PivotLines (solve settings problem).pivotCells.length
      ((solve settings problem).events.map Event.line) := by
  rw [solve_log settings problem]
  exact numbered_pivots_lines _

end Simplex

namespace Barrier

/-! ## Rounds -/

section Rounds

variable {Entry Other : Type} (step? closing? : Entry → Option ℕ)

/-- The log of a barrier solve from iteration `first` on, given the logs of its inner solves
from there on and the number of the iteration that closes all gaps, if one does. -/
inductive Rounds : (first : ℕ) → List (List Entry) → Option ℕ → List Entry → Prop
  | ended (first : ℕ) : Rounds first [] none []
  | cut (first : ℕ) (inner : List Entry) : Rounds first [inner] none inner
  | closed {first : ℕ} (inner : List Entry) {step closing : Entry}
      (isStep : step? step = some first) (isClosing : closing? closing = some first) :
      Rounds first [inner] (some first) (inner ++ [step, closing])
  | next {first : ℕ} (inner : List Entry) {step : Entry} (isStep : step? step = some first)
      {later : List (List Entry)} {closed : Option ℕ} {entries : List Entry}
      (rest : Rounds (first + 1) later closed entries) :
      Rounds first (inner :: later) closed (inner ++ step :: entries)

/-- Read off a log alone: its iterations are numbered from `first` on without a gap, and an
entry that closes it stands at the end and has the last of their numbers. -/
structure NumberedFrom (first : ℕ) (closed : Option ℕ) (entries : List Entry) (count : ℕ) :
    Prop where
  steps : entries.filterMap step? = List.range' first count
  closings : entries.filterMap closing? = closed.toList
  last : ∀ number, closed = some number →
    number + 1 = first + count ∧ entries.getLast?.bind closing? = some number

variable {step? closing?} {read : Entry → Other} {step' closing' : Other → Option ℕ} {first : ℕ}
variable {inner : List (List Entry)} {closed : Option ℕ} {entries : List Entry}

theorem Rounds.map (sameStep : ∀ entry, step' (read entry) = step? entry)
    (sameClosing : ∀ entry, closing' (read entry) = closing? entry)
    (rounds : Rounds step? closing? first inner closed entries) :
    Rounds step' closing' first (inner.map (List.map read)) closed (entries.map read) := by
  induction rounds with
  | ended first => exact .ended first
  | cut first inner => exact .cut first _
  | closed inner isStep isClosing =>
      rw [List.map_append]
      exact .closed _ (by rw [sameStep, isStep]) (by rw [sameClosing, isClosing])
  | next inner isStep _ ih =>
      rw [List.map_append, List.map_cons]
      exact .next _ (by rw [sameStep, isStep]) ih

theorem NumberedFrom.map (sameStep : ∀ entry, step' (read entry) = step? entry)
    (sameClosing : ∀ entry, closing' (read entry) = closing? entry) {count : ℕ}
    (numbered : NumberedFrom step? closing? first closed entries count) :
    NumberedFrom step' closing' first closed (entries.map read) count := by
  have steps : step' ∘ read = step? := funext sameStep
  have closings : closing' ∘ read = closing? := funext sameClosing
  constructor
  case steps => rw [List.filterMap_map, steps, numbered.steps]
  case closings => rw [List.filterMap_map, closings, numbered.closings]
  case last =>
    intro number isLast
    obtain ⟨counted, closing⟩ := numbered.last number isLast
    rw [List.getLast?_map, Option.bind_map, closings]
    exact ⟨counted, closing⟩

/-- By induction over the iterations. The logs of the inner solves add no number. -/
theorem Rounds.numbered
    (closingOfStep : ∀ {entry number}, step? entry = some number → closing? entry = none)
    (stepOfClosing : ∀ {entry number}, closing? entry = some number → step? entry = none)
    (steps : ∀ block ∈ inner, block.filterMap step? = [])
    (closings : ∀ block ∈ inner, block.filterMap closing? = [])
    (rounds : Rounds step? closing? first inner closed entries) :
    ∃ count, NumberedFrom step? closing? first closed entries count := by
  induction rounds with
  | ended first => exact ⟨0, rfl, rfl, nofun⟩
  | cut first inner =>
      have member : inner ∈ [inner] := List.mem_singleton_self inner
      exact ⟨0, steps inner member, closings inner member, nofun⟩
  | closed inner isStep isClosing =>
      rename_i first step closing
      have member : inner ∈ [inner] := List.mem_singleton_self inner
      refine ⟨1, ?_, ?_, ?_⟩
      · simp [steps inner member, isStep, stepOfClosing isClosing]
      · simp [closings inner member, isClosing, closingOfStep isStep]
      · intro number isLast
        obtain rfl := Option.some.inj isLast
        exact ⟨rfl, by simp [isClosing]⟩
  | next inner isStep rest ih =>
      rename_i first step later closed entries
      obtain ⟨count, numbered⟩ := ih (fun block member => steps block (.tail _ member))
        (fun block member => closings block (.tail _ member))
      have member : inner ∈ inner :: later := List.mem_cons_self
      refine ⟨count + 1, ?_, ?_, ?_⟩
      · rw [List.filterMap_append, steps inner member, List.nil_append,
          List.filterMap_cons_some isStep, numbered.steps, List.range'_succ]
      · rw [List.filterMap_append, closings inner member, List.nil_append,
          List.filterMap_cons_none (closingOfStep isStep), numbered.closings]
      · intro number isLast
        obtain ⟨counted, closing⟩ := numbered.last number isLast
        refine ⟨by omega, ?_⟩
        obtain ⟨entry, isEntry, _⟩ := Option.bind_eq_some_iff.mp closing
        rw [← closing, List.getLast?_append, List.getLast?_cons, isEntry]
        rfl

end Rounds

variable [Scalar α] {settings : Settings α} {problem : Problem α} {state : State α}

/-! ## Iterations -/

/-- An iteration that fails before its correction logs its pivots alone. -/
theorem iteration_log (settings : Settings α) (problem : Problem α) (number : ℕ)
    (state : State α) :
    (∃ cause, (iteration settings problem number state).outcome = .error cause) ∧
        (iteration settings problem number state).events =
          (innerRun settings problem state).events ∨
      ∃ step, step.stepNumber? = some number ∧
        (iteration settings problem number state).events =
          (innerRun settings problem state).events ++ [step] := by
  have own : (innerSolve settings problem state).events =
      (innerRun settings problem state).events := rfl
  unfold iteration Run.andThen
  split
  · next cause _ => exact .inl ⟨⟨cause, rfl⟩, own⟩
  · next answer _ =>
    rw [own]
    unfold advance
    dsimp only
    split_ifs
    · exact .inr ⟨_, rfl, rfl⟩
    · exact .inr ⟨_, rfl, rfl⟩
    · exact .inl ⟨⟨_, rfl⟩, List.append_nil _⟩

/-- The number of the last iteration of a solve that succeeds. -/
def closedAt (run : Run α (Result α)) : Option ℕ :=
  run.outcome.toOption.map Result.iterations

/-- The inner solves of the next `remaining` iterations after `count` of them. -/
def innerRunsFrom (settings : Settings α) (problem : Problem α) (count remaining : ℕ) :
    List (Run α (Solution α)) :=
  ((List.range' count remaining).filterMap (stateAfter settings problem)).map
    (innerRun settings problem)

theorem inner_runs_from_ended {count : ℕ} (remaining : ℕ)
    (ended : stateAfter settings problem count = none) :
    innerRunsFrom settings problem count remaining = [] := by
  rw [innerRunsFrom, List.map_eq_nil_iff, List.filterMap_eq_nil_iff]
  intro later member
  exact state_after_ended ended (List.mem_range'_1.mp member).1

theorem inner_runs_from_succ {count : ℕ} (remaining : ℕ)
    (found : stateAfter settings problem count = some state) :
    innerRunsFrom settings problem count (remaining + 1) =
      innerRun settings problem state :: innerRunsFrom settings problem (count + 1) remaining := by
  rw [innerRunsFrom, List.range'_succ, List.filterMap_cons_some found, List.map_cons,
    innerRunsFrom]

/-- By induction over the iterations that are left. The states tell which of them begin. -/
theorem rounds_of_iterate (remaining : ℕ) {count : ℕ}
    (found : stateAfter settings problem count = some state) (log : List (Event α)) :
    ∃ events,
      (iterate settings problem remaining (count + 1) state log).events = log.reverse ++ events ∧
        Rounds Event.stepNumber? Event.closingNumber? (count + 1)
          ((innerRunsFrom settings problem count remaining).map Run.events)
          (closedAt (iterate settings problem remaining (count + 1) state log)) events := by
  induction remaining generalizing count state log with
  | zero => exact ⟨[], by simp [iterate], .ended (count + 1)⟩
  | succ remaining ih =>
      rw [inner_runs_from_succ remaining found]
      have ends : stateAfter settings problem (count + 1) = none →
          innerRunsFrom settings problem (count + 1) remaining = [] :=
        inner_runs_from_ended remaining
      cases step : (iteration settings problem (count + 1) state).outcome with
      | error cause =>
          rw [ends (by simp [stateAfter, found, step])]
          simp only [iterate, step, List.reverse_append, List.reverse_reverse]
          rcases iteration_log settings problem (count + 1) state with
            ⟨_, events⟩ | ⟨last, isStep, events⟩
          · rw [events]
            exact ⟨_, rfl, .cut (count + 1) _⟩
          · rw [events]
            exact ⟨_, rfl, .next _ isStep (.ended (count + 2))⟩
      | ok pair =>
          obtain ⟨following, closed⟩ := pair
          have comesOn := iteration_log settings problem (count + 1) state
          obtain ⟨last, isStep, events⟩ :=
            comesOn.resolve_left fun failed => by simp [step] at failed
          cases closed with
          | true =>
              rw [ends (by simp [stateAfter, found, step])]
              refine ⟨(innerRun settings problem state).events ++
                [last, .converged (count + 1) following.barrier], ?_, ?_⟩
              · simp [iterate, step, events]
              · simp only [iterate, step]
                exact .closed _ isStep rfl
          | false =>
              have next := (state_after_succ_iff _ _ _ _).mpr ⟨state, found, step⟩
              simp only [iterate, step]
              obtain ⟨further, logged, rounds⟩ := ih next _
              refine ⟨(innerRun settings problem state).events ++ last :: further, ?_,
                .next _ isStep rounds⟩
              rw [logged, events]
              simp

theorem solve_rounds (settings : Settings α) (problem : Problem α) :
    Rounds Event.stepNumber? Event.closingNumber? 1 ((innerRuns settings problem).map Run.events)
      (closedAt (solve settings problem)) (solve settings problem).events := by
  unfold solve innerRuns
  cases checkInputs settings problem with
  | error cause => exact .ended 1
  | ok =>
      obtain ⟨events, logged, rounds⟩ := rounds_of_iterate settings.maxIterations
        (rfl : stateAfter settings problem 0 = some (.initial problem)) []
      rw [List.reverse_nil, List.nil_append] at logged
      rw [List.range_eq_range']
      dsimp only
      rw [logged]
      exact rounds

/-! ## Lines -/

theorem inner_run_log {run : Run α (Solution α)} (member : run ∈ innerRuns settings problem) :
    run.events = Simplex.numberedPivots 0 run.pivotCells := by
  obtain ⟨_, _, _, rfl⟩ := (mem_inner_runs_iff run).mp member
  exact Simplex.solve_log _ _

theorem solve_numbered (settings : Settings α) (problem : Problem α) :
    ∃ count, NumberedFrom Event.stepNumber? Event.closingNumber? 1
      (closedAt (solve settings problem)) (solve settings problem).events count := by
  refine (solve_rounds settings problem).numbered Event.closing_of_step Event.step_of_closing ?_ ?_
  · intro block member
    obtain ⟨run, isInner, rfl⟩ := List.mem_map.mp member
    rw [inner_run_log isInner, Simplex.numbered_pivots_silent fun _ _ _ => rfl]
  · intro block member
    obtain ⟨run, isInner, rfl⟩ := List.mem_map.mp member
    rw [inner_run_log isInner, Simplex.numbered_pivots_silent fun _ _ _ => rfl]

/-- The lines of a barrier solve: those of its inner solves, each with pivot numbers of its
own, and between them the lines of its iterations. -/
structure Lines (settings : Settings Float) (problem : Problem Float) (lines : List String) :
    Prop where
  pivots : ∀ run ∈ innerRuns settings problem,
    PivotLines run.pivotCells.length (run.events.map Event.line)
  rounds : Rounds LogLine.stepNumber? LogLine.closingNumber? 1
    ((innerRuns settings problem).map fun run => run.events.map Event.line)
    (closedAt (solve settings problem)) lines
  numbered : ∃ count, NumberedFrom LogLine.stepNumber? LogLine.closingNumber? 1
    (closedAt (solve settings problem)) lines count

theorem solve_lines (settings : Settings Float) (problem : Problem Float) :
    Lines settings problem ((solve settings problem).events.map Event.line) := by
  constructor
  case pivots =>
    intro run member
    rw [inner_run_log member]
    exact Simplex.numbered_pivots_lines run.pivotCells
  case rounds =>
    have rounds := (solve_rounds settings problem).map Event.step_number_of_line
      Event.closing_number_of_line
    rwa [List.map_map] at rounds
  case numbered =>
    obtain ⟨count, numbered⟩ := solve_numbered settings problem
    exact ⟨count, numbered.map Event.step_number_of_line Event.closing_number_of_line⟩

end Barrier

end LinearProgram
