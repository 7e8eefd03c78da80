import LinearProgram.Proofs.Barrier.Caps
import LinearProgram.Proofs.CommandLine.Flags
import LinearProgram.Proofs.CommandLine.Streams
import LinearProgram.Proofs.Report.Log

/-!
# Verbose flags show the log and nothing else

Whatever the number of verbose flags, a command ends with the same status and the same
output, and its error stream is the shown part of the log before what a silent run writes
there. The lines that fewer flags show are those of more flags without the lines of a level.
What the full log says is read off the text of its lines: each solve numbers its own.
-/

namespace LinearProgram

/-! ## Log lines -/

/-- A line of a level starts with its name. -/
def Level.owns (level : Level) (line : String) : Bool :=
  (level.name.toList ++ [' ']).isPrefixOf line.toList

/-- Lines without those of a level. -/
def Level.removed (level : Level) (lines : List String) : List String :=
  lines.filter fun line => !level.owns line

theorem Event.line_characters (event : Event Float) :
    event.line.toList = event.level.name.toList ++ ' ' :: event.text.toList := by
  simp [Event.line, ToString.toString]

theorem Event.owns_line (event : Event Float) (level : Level) :
    level.owns event.line = decide (event.level = level) := by
  rw [Level.owns, event.line_characters]
  cases event.level <;> cases level <;> rfl

theorem log_lines_full {verbosity : ℕ} (full : 2 ≤ verbosity) (events : List (Event Float)) :
    logLines verbosity events = events.map Event.line := by
  have shown : ∀ level : Level, level.isShown verbosity = true := by
    intro level
    cases level <;> simp [Level.isShown] <;> omega
  simp [logLines, shown]

theorem log_lines_debug (events : List (Event Float)) :
    logLines 1 events = Level.trace.removed (events.map Event.line) := by
  have shown : ∀ event : Event Float,
      event.level.isShown 1 = !Level.trace.owns event.line := by
    intro event
    rw [event.owns_line]
    cases event.level <;> rfl
  rw [logLines, Level.removed, List.filter_map]
  congr 2
  funext event
  exact shown event

namespace CommandLine

theorem unlines_append (front back : List String) :
    unlines (front ++ back) = unlines front ++ unlines back := by
  rw [unlines, List.map_append, String.join_append, unlines, unlines]

/-! ## One command, silent and verbose -/

/-- The verbosity decides on the log alone; the rest of the error stream stands behind it. -/
theorem run_splits (command : Command) (state : FileState) :
    ∃ status output complaint, ∀ verbosity,
      Invocation.run ⟨verbosity, command⟩ state =
        ⟨status, output, unlines (Invocation.log ⟨verbosity, command⟩ state) ++ complaint⟩ := by
  have silentLog : ∀ verbosity, unlines (logLines verbosity []) = "" := fun _ => rfl
  cases command with
  | solve file request format =>
      cases content : state.problem with
      | error line =>
          refine ⟨1, "", unlines [line], fun verbosity => ?_⟩
          simp [Invocation.run, Invocation.log, Invocation.events, withProblem, content,
            Outcome.failure, silentLog]
      | ok problem =>
          cases outcome : (Report.solve request problem).outcome with
          | error cause =>
              refine ⟨1, "", unlines [s!"Solve error: {cause.message}"], fun verbosity => ?_⟩
              simp [Invocation.run, Invocation.log, Invocation.events, withProblem, content,
                solveProblem, outcome, Outcome.failure, unlines_append]
          | ok report =>
              cases format with
              | json =>
                  refine ⟨0, unlines [report.documentText], "", fun verbosity => ?_⟩
                  simp [Invocation.run, Invocation.log, Invocation.events, withProblem, content,
                    solveProblem, outcome, Outcome.success]
              | pretty =>
                  refine ⟨0, unlines report.lines, "", fun verbosity => ?_⟩
                  simp [Invocation.run, Invocation.log, Invocation.events, withProblem, content,
                    solveProblem, outcome, Outcome.success]
  | demo request =>
      cases outcome : (Report.solve request sampleProblem).outcome with
      | error cause =>
          refine ⟨1, unlines [s!"The problem does not have a solution! ({cause.message})"], "",
            fun verbosity => ?_⟩
          simp [Invocation.run, Invocation.log, Invocation.events, solveSample, outcome,
            Outcome.success]
      | ok report =>
          refine ⟨0, unlines report.lines, "", fun verbosity => ?_⟩
          simp [Invocation.run, Invocation.log, Invocation.events, solveSample, outcome,
            Outcome.success]
  | check file =>
      -- a check logs nothing
      let silent := Invocation.run ⟨0, .check file⟩ state
      have same : ∀ verbosity, Invocation.run ⟨verbosity, .check file⟩ state = silent :=
        fun _ => rfl
      refine ⟨silent.status, silent.output, silent.errors, fun verbosity => ?_⟩
      rw [Invocation.log, Invocation.events, silentLog, String.empty_append, same]

/-- What a command writes to the error stream when nothing of its log is shown. -/
def Command.complaint (command : Command) (state : FileState) : String :=
  (Invocation.run ⟨0, command⟩ state).errors

theorem run_errors (invocation : Invocation) (state : FileState) :
    (invocation.run state).errors =
      unlines (invocation.log state) ++ invocation.command.complaint state := by
  obtain ⟨verbosity, command⟩ := invocation
  obtain ⟨status, output, complaint, ran⟩ := run_splits command state
  have silent : Invocation.log ⟨0, command⟩ state = [] := log_silent rfl
  have alone : command.complaint state = complaint := by
    rw [Command.complaint, ran, silent]
    exact String.empty_append
  rw [ran, alone]

theorem run_status_output {invocation other : Invocation} (state : FileState)
    (same : other.command = invocation.command) :
    (other.run state).status = (invocation.run state).status ∧
      (other.run state).output = (invocation.run state).output := by
  obtain ⟨verbosity, command⟩ := invocation
  obtain ⟨otherVerbosity, otherCommand⟩ := other
  obtain rfl : otherCommand = command := same
  obtain ⟨status, output, complaint, ran⟩ := run_splits otherCommand state
  rw [ran, ran]
  exact ⟨rfl, rfl⟩

/-! ## The full log -/

/-- The problem that a command solves, if it comes to that. -/
inductive Solves (state : FileState) : Command → Report.Request Float → Problem Float → Prop
  | file {file : String} {request : Report.Request Float} {format : Format}
      {problem : Problem Float} (content : state.problem = .ok problem) :
      Solves state (.solve file request format) request problem
  | sample {request : Report.Request Float} : Solves state (.demo request) request sampleProblem

theorem log_of_solve {invocation : Invocation} {state : FileState}
    {request : Report.Request Float} {problem : Problem Float}
    (solves : Solves state invocation.command request problem) :
    invocation.log state = logLines invocation.verbosity (Report.solve request problem).events := by
  obtain ⟨verbosity, command⟩ := invocation
  cases solves with
  | file content => simp [Invocation.log, Invocation.events, content]
  | sample => rfl

theorem log_of_no_solve {invocation : Invocation} {state : FileState}
    (solves : ∀ request problem, ¬Solves state invocation.command request problem) :
    invocation.log state = [] := by
  obtain ⟨verbosity, command⟩ := invocation
  cases command with
  | solve file request format =>
      cases content : state.problem with
      | error line =>
          simp [Invocation.log, Invocation.events, content, logLines]
      | ok problem => exact absurd (.file content) (solves request problem)
  | demo request => exact absurd .sample (solves request sampleProblem)
  | check file => rfl

/-- The log with all its lines: those of the tasks of the request, one after the other. The
text of the lines of each task carries the numbers of its own solve. -/
structure FullLog (request : Report.Request Float) (problem : Problem Float)
    (lines : List String) : Prop where
  tasks : lines = (Report.performed request problem request.tasks).flatMap
    (Report.Task.lines request problem)
  numbered : ∀ task ∈ Report.performed request problem request.tasks,
    task.Numbered request problem

theorem full_log_of_solve {invocation : Invocation} {state : FileState}
    {request : Report.Request Float} {problem : Problem Float}
    (solves : Solves state invocation.command request problem)
    (full : 2 ≤ invocation.verbosity) : FullLog request problem (invocation.log state) := by
  constructor
  case tasks =>
    rw [log_of_solve solves, log_lines_full full, Report.solve_events, List.map_flatMap]
    rfl
  case numbered =>
    intro task _
    exact task.numbered request problem

theorem text_of_utf8 (text : String) : (FileState.bytes text.toUTF8).text = .ok text := by
  have decoded : String.fromUTF8? text.toUTF8 = some text := by
    simp only [String.fromUTF8?, String.toUTF8_eq_toByteArray, dif_pos text.isValidUTF8]
    rfl
  rw [FileState.text, decoded]

/-! ## Command lines that differ in their flags -/

/-- Two invocations that differ in their verbose flags, `count` for the first and `otherCount`
for the second, on one state of the file. -/
structure SameButLog (count otherCount : ℕ) (invocation other : Invocation) (state : FileState) :
    Prop where
  status : (other.run state).status = (invocation.run state).status
  output : (other.run state).output = (invocation.run state).output
  errors : (invocation.run state).errors =
    unlines (invocation.log state) ++ invocation.command.complaint state
  silent : otherCount = 0 → (other.run state).errors = invocation.command.complaint state
  single : otherCount = 1 → 1 ≤ count → (other.run state).errors =
    unlines (Level.trace.removed (invocation.log state)) ++ invocation.command.complaint state
  lines : ∀ line ∈ invocation.log state,
    Unbroken line ∧ (Level.debug.owns line = true ∨ Level.trace.owns line = true)
  solving : ∀ request problem, Solves state invocation.command request problem →
    2 ≤ invocation.verbosity → FullLog request problem (invocation.log state)
  idle : (∀ request problem, ¬Solves state invocation.command request problem) →
    invocation.log state = []

theorem log_lines_marked {verbosity : ℕ} {events : List (Event Float)} {line : String}
    (member : line ∈ logLines verbosity events) :
    Unbroken line ∧ (Level.debug.owns line = true ∨ Level.trace.owns line = true) := by
  obtain ⟨event, _, rfl⟩ := List.mem_map.mp member
  refine ⟨event.line_unbroken, ?_⟩
  rw [event.owns_line, event.owns_line]
  cases event.level <;> simp

/-- However many levels are shown, without the lines of the second they are those of one flag. -/
theorem log_lines_removed {verbosity : ℕ} (shown : 1 ≤ verbosity) (events : List (Event Float)) :
    Level.trace.removed (logLines verbosity events) = logLines 1 events := by
  rcases Nat.eq_or_lt_of_le shown with rfl | full
  · rw [log_lines_debug, Level.removed, Level.removed, List.filter_filter]
    simp
  · rw [log_lines_full full, log_lines_debug]

/-- Command lines that are the same but for their verbose flags end alike and write the same
output; on the error stream they differ in the log lines only. -/
theorem flags_only_log {arguments others : List String} {invocation other : Invocation}
    (spelled : Invocation.ofArguments? arguments = some invocation)
    (spelledOther : Invocation.ofArguments? others = some other)
    (same : withoutFlags others = withoutFlags arguments) (state : FileState) :
    SameButLog (flagCount arguments) (flagCount others) invocation other state := by
  obtain ⟨silent, _, shown⟩ := invocation_without_flags spelled
  obtain ⟨silentOther, atMost, shownOther⟩ := invocation_without_flags spelledOther
  rw [same, silent, Option.some.injEq, Invocation.mk.injEq] at silentOther
  have sameCommand : other.command = invocation.command := silentOther.2.symm
  obtain ⟨status, output⟩ := run_status_output state sameCommand
  have otherErrors := run_errors other state
  have otherLog : other.log state = logLines other.verbosity (invocation.events state) := by
    rw [Invocation.log, Invocation.events, sameCommand, ← Invocation.events]
  rw [otherLog, sameCommand] at otherErrors
  refine ⟨status, output, run_errors invocation state, ?_, ?_, ?_, ?_, ?_⟩
  · intro noFlag
    have quiet : other.verbosity = 0 := by omega
    rw [otherErrors, quiet, log_lines_silent]
    exact String.empty_append
  · intro oneFlag flags
    have once : other.verbosity = 1 := by omega
    rw [otherErrors, once, Invocation.log, log_lines_removed (shown flags)]
  · intro line member
    exact log_lines_marked member
  · intro request problem solves full
    exact full_log_of_solve solves full
  · exact log_of_no_solve

/-- A problem that a barrier solve finishes in its second iteration. -/
def remoteText : String :=
  "\x7b\"objective\":[1],\"constraints\":[[1]],\"rhs\":[1e200]\x7d"

def remoteRequest : Report.Request Float :=
  ⟨.both, 0.0001, [0.5], 10000⟩

def remoteCommand : Command :=
  .solve "problem.json" remoteRequest .pretty

def remoteLines : List String :=
  ["TRACE barrierlp_solver::simplex: pivot iteration=0 pivot_col=0 pivot_row=0",
    "TRACE barrierlp_solver::simplex: pivot iteration=0 pivot_col=0 pivot_row=0",
    "DEBUG barrierlp_solver::interior_point: interior-point iteration iteration=1 " ++
      "t=1.0 mu=1e-200 sigma=2e-200 converged=false",
    "TRACE barrierlp_solver::simplex: pivot iteration=0 pivot_col=0 pivot_row=0",
    "DEBUG barrierlp_solver::interior_point: interior-point iteration iteration=2 " ++
      "t=0.5 mu=0.0 sigma=0.0 converged=true",
    "DEBUG barrierlp_solver::interior_point: interior-point converged iteration=2 barrier=0.25"]

theorem flags_only_log_of_remote_bound :
    Invocation.ofArguments? ["-v", "solve", "-vv", "problem.json"] = some ⟨2, remoteCommand⟩ ∧
      Invocation.ofArguments? ["solve", "problem.json", "--verbose"] = some ⟨1, remoteCommand⟩ ∧
      withoutFlags ["solve", "problem.json", "--verbose"] =
        withoutFlags ["-v", "solve", "-vv", "problem.json"] ∧
      SameButLog 3 1 ⟨2, remoteCommand⟩ ⟨1, remoteCommand⟩ (.bytes remoteText.toUTF8) ∧
      Invocation.log ⟨2, remoteCommand⟩ (.bytes remoteText.toUTF8) = remoteLines ∧
      FullLog remoteRequest remoteBound remoteLines ∧
      remoteLines.map LogLine.stepNumber? = [none, none, some 1, none, some 2, none] ∧
      remoteLines.map LogLine.closingNumber? = [none, none, none, none, none, some 2] := by
  have spelled : Invocation.ofArguments? ["-v", "solve", "-vv", "problem.json"] =
      some ⟨2, remoteCommand⟩ := rfl
  have spelledOther : Invocation.ofArguments? ["solve", "problem.json", "--verbose"] =
      some ⟨1, remoteCommand⟩ := rfl
  have same : withoutFlags ["solve", "problem.json", "--verbose"] =
      withoutFlags ["-v", "solve", "-vv", "problem.json"] := by
    decide +kernel
  have count : flagCount ["-v", "solve", "-vv", "problem.json"] = 3 := by decide +kernel
  have countOther : flagCount ["solve", "problem.json", "--verbose"] = 1 := by decide +kernel
  have sameButLog := flags_only_log spelled spelledOther same (.bytes remoteText.toUTF8)
  rw [count, countOther] at sameButLog
  have parsed : Document.parse remoteText = .ok remoteBound := by decide +kernel
  have solves : Solves (.bytes remoteText.toUTF8) remoteCommand remoteRequest remoteBound :=
    .file (by rw [FileState.problem, text_of_utf8]; simp only [parsed])
  have log : Invocation.log ⟨2, remoteCommand⟩ (.bytes remoteText.toUTF8) = remoteLines := by
    rw [log_of_solve solves]
    decide +kernel
  have fullLog := sameButLog.solving remoteRequest remoteBound solves le_rfl
  rw [log] at fullLog
  have lines : remoteLines = (Report.solve remoteRequest remoteBound).events.map Event.line := by
    rw [← log, log_of_solve solves, log_lines_full le_rfl]
  have steps : LogLine.stepNumber? ∘ Event.line = Event.stepNumber? :=
    funext Event.step_number_of_line
  have closings : LogLine.closingNumber? ∘ Event.line = Event.closingNumber? :=
    funext Event.closing_number_of_line
  refine ⟨spelled, spelledOther, same, sameButLog, log, fullLog, ?_, ?_⟩
  · rw [lines, List.map_map, steps]
    decide +kernel
  · rw [lines, List.map_map, closings]
    decide +kernel

end CommandLine

end LinearProgram
