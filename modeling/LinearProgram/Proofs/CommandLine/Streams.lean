import LinearProgram.CommandLine.Arguments
import LinearProgram.CommandLine.Outcome
import LinearProgram.Proofs.Report.Composition

/-!
# What a command writes on which stream

A command that succeeds writes its answer to the output and nothing but log lines to the
error stream. A command that fails writes to the error stream alone, the log first and the
reason last. The failure of the sample problem is the exception: its reason goes to the
output, and the status is that of a failure.
-/

namespace LinearProgram

theorem Report.lines_ne_nil {request : Request Float} {problem : Problem Float}
    {report : Report Float} (answers : Answers request problem report)
    (asks : request.shrinkFactors ≠ []) : report.lines ≠ [] := by
  by_cases skipped : request.method = .interiorPoint
  · have entries := answers.barrier (by rw [skipped]; decide)
    have nonempty : report.barrier.isEmpty = false := by
      cases barrier : report.barrier with
      | nil =>
          rw [barrier, List.forall₂_nil_right_iff] at entries
          exact absurd entries asks
      | cons => rfl
    simp [lines, nonempty]
  · obtain ⟨solution, _, isSolution⟩ := answers.simplex skipped
    simp [lines, isSolution, Solution.lines]

namespace CommandLine

theorem unlines_ne_empty {lines : List String} (nonempty : lines ≠ []) : unlines lines ≠ "" := by
  obtain ⟨line, rest, rfl⟩ := List.exists_cons_of_ne_nil nonempty
  rw [unlines, List.map_cons, String.join_cons]
  simp

theorem log_lines_silent (events : List (Event Float)) : logLines 0 events = [] := by
  have hidden : ∀ event : Event Float, event.level.isShown 0 = false := by
    intro event
    cases event <;> rfl
  simp [logLines, hidden]

/-! ## What arguments ask for -/

def Command.request? : Command → Option (Report.Request Float)
  | .solve _ request _ | .demo request => some request
  | .check _ => none

theorem Given.request_asks (given : Given) {standard : List Float} (nonempty : standard ≠ []) :
    (given.request standard).shrinkFactors ≠ [] := by
  unfold Given.request
  dsimp only
  split
  · exact nonempty
  · next some_given => simpa using some_given

theorem command_of_arguments {arguments : List String} {invocation : Invocation}
    (spelled : Invocation.ofArguments? arguments = some invocation) :
    ∃ given subcommand, Given.command given subcommand = some invocation.command := by
  simp only [Invocation.ofArguments?, Option.bind_eq_bind, Option.bind_eq_some_iff,
    Option.pure_def, Option.some.injEq] at spelled
  obtain ⟨_, _, given, _, command, isCommand, rfl⟩ := spelled
  exact ⟨given, _, isCommand⟩

/-- A request that is spelled by arguments has shrink factors, its own or the usual ones. -/
theorem request_of_arguments {arguments : List String} {invocation : Invocation}
    (spelled : Invocation.ofArguments? arguments = some invocation)
    {request : Report.Request Float} (asked : invocation.command.request? = some request) :
    request.shrinkFactors ≠ [] := by
  obtain ⟨given, subcommand, isCommand⟩ := command_of_arguments spelled
  cases subcommand with
  | solve =>
      obtain ⟨file, _, same⟩ := Option.map_eq_some_iff.mp isCommand
      rw [← same, Command.request?, Option.some.injEq] at asked
      rw [← asked]
      exact given.request_asks (by simp)
  | demo =>
      rw [← Option.some.inj isCommand, Command.request?, Option.some.injEq] at asked
      rw [← asked]
      exact given.request_asks (by simp)
  | check =>
      obtain ⟨file, _, same⟩ := Option.map_eq_some_iff.mp isCommand
      rw [← same] at asked
      cases asked

/-! ## Log and complaints -/

/-- The events of the solves that an invocation carries out. -/
def Invocation.events (invocation : Invocation) (state : FileState) : List (Event Float) :=
  match invocation.command with
  | .solve _ request _ =>
      match state.problem with
      | .error _ => []
      | .ok problem => (Report.solve request problem).events
  | .demo request => (Report.solve request sampleProblem).events
  | .check _ => []

def Invocation.log (invocation : Invocation) (state : FileState) : List String :=
  logLines invocation.verbosity (invocation.events state)

/-- The lines that tell why an invocation fails. -/
inductive Complaint (invocation : Invocation) (state : FileState) : List String → Prop where
  | unread {file reason : String} (named : invocation.command.file? = some file)
      (failed : state.text = .error reason) :
      Complaint invocation state [s!"Error reading file: {reason}"]
  | unparsed {file text : String} {cause : Document.ReadError}
      (named : invocation.command.file? = some file) (content : state.text = .ok text)
      (failed : Document.parse text = .error cause) :
      Complaint invocation state [s!"Parse error: {cause.message}"]
  | unsolved {file : String} {request : Report.Request Float} {format : Format}
      {problem : Problem Float} {cause : SolveError Float}
      (command : invocation.command = .solve file request format)
      (content : state.problem = .ok problem)
      (failed : (Report.solve request problem).outcome = .error cause) :
      Complaint invocation state [s!"Solve error: {cause.message}"]
  | invalid {file : String} {problem : Problem Float} {cause : SolveError Float}
      (command : invocation.command = .check file) (content : state.problem = .ok problem)
      (failed : problem.validate = .error cause) :
      Complaint invocation state [s!"✗ {file} has errors:", s!"  {cause.message}"]

/-- Failure and success each keep to their own stream. -/
structure Separates (invocation : Invocation) (state : FileState) : Prop where
  status : (invocation.run state).status = 0 ∨ (invocation.run state).status = 1
  failure : (invocation.run state).status = 1 →
    (invocation.run state).output = "" ∧
      ∃ complaint, Complaint invocation state complaint ∧
        (invocation.run state).errors = unlines (invocation.log state ++ complaint)
  success : (invocation.run state).status = 0 →
    (invocation.run state).output ≠ "" ∧
      (invocation.run state).errors = unlines (invocation.log state)
  silent : invocation.verbosity = 0 → invocation.log state = []

variable {invocation : Invocation} {state : FileState}

theorem log_silent (quiet : invocation.verbosity = 0) : invocation.log state = [] := by
  rw [Invocation.log, quiet]
  exact log_lines_silent _

theorem separates_of_failure {complaint : List String}
    (ran : invocation.run state = .failure (invocation.log state) complaint)
    (reason : Complaint invocation state complaint) : Separates invocation state := by
  refine ⟨?_, ?_, ?_, log_silent⟩ <;> rw [ran]
  · exact .inr rfl
  · intro _
    exact ⟨rfl, complaint, reason, rfl⟩
  · intro succeeded
    cases succeeded

theorem separates_of_success {lines : List String}
    (ran : invocation.run state = .success (invocation.log state) lines)
    (nonempty : lines ≠ []) : Separates invocation state := by
  refine ⟨?_, ?_, ?_, log_silent⟩ <;> rw [ran]
  · exact .inl rfl
  · intro failed
    cases failed
  · intro _
    exact ⟨unlines_ne_empty nonempty, rfl⟩

theorem complaint_of_file {file line : String} (named : invocation.command.file? = some file)
    (failed : state.problem = .error line) : Complaint invocation state [line] := by
  unfold FileState.problem at failed
  split at failed
  · next unread =>
    rw [← Except.error.inj failed]
    exact .unread named unread
  · next content =>
    split at failed
    · next unparsed =>
      rw [← Except.error.inj failed]
      exact .unparsed named content unparsed
    · cases failed

/-! ## The commands -/

theorem separates_of_no_problem {file line : String} (named : invocation.command.file? = some file)
    (content : state.problem = .error line) : Separates invocation state := by
  have ran : invocation.run state = .failure (invocation.log state) [line] := by
    unfold Invocation.run Invocation.log Invocation.events
    cases command : invocation.command with
    | solve | check => simp [withProblem, content, logLines]
    | demo =>
        rw [command] at named
        cases named
  exact separates_of_failure ran (complaint_of_file named content)

theorem separates_of_solve {file : String} {request : Report.Request Float} {format : Format}
    {problem : Problem Float} (command : invocation.command = .solve file request format)
    (content : state.problem = .ok problem) (asks : request.shrinkFactors ≠ []) :
    Separates invocation state := by
  have ran : invocation.run state =
      solveProblem invocation.verbosity request format problem := by
    simp [Invocation.run, command, withProblem, content]
  have log : invocation.log state =
      logLines invocation.verbosity (Report.solve request problem).events := by
    simp [Invocation.log, Invocation.events, command, content]
  cases outcome : (Report.solve request problem).outcome with
  | error cause =>
      refine separates_of_failure ?_ (.unsolved command content outcome)
      simp [ran, log, solveProblem, outcome]
  | ok report =>
      have answers := Report.solve_eq_ok_iff.mp outcome
      cases format with
      | json =>
          refine separates_of_success ?_ (List.cons_ne_nil report.documentText [])
          simp [ran, log, solveProblem, outcome]
      | pretty =>
          refine separates_of_success ?_ (Report.lines_ne_nil answers asks)
          simp [ran, log, solveProblem, outcome]

theorem separates_of_check {file : String} {problem : Problem Float}
    (command : invocation.command = .check file) (content : state.problem = .ok problem) :
    Separates invocation state := by
  have ran : invocation.run state = checkProblem file problem := by
    simp [Invocation.run, command, withProblem, content]
  have log : invocation.log state = [] := by
    simp [Invocation.log, Invocation.events, command, logLines]
  cases valid : problem.validate with
  | error cause =>
      refine separates_of_failure ?_ (.invalid command content valid)
      simp [ran, log, checkProblem, valid]
  | ok =>
      unfold checkProblem at ran
      rw [valid, ← log] at ran
      exact separates_of_success ran (by simp)

/-- The command solves the sample problem, and the solve fails. -/
def Invocation.SampleFails (invocation : Invocation) : Prop :=
  ∃ request cause, invocation.command = .demo request ∧
    (Report.solve request sampleProblem).outcome = .error cause

theorem run_of_sample_failure {request : Report.Request Float} {cause : SolveError Float}
    (command : invocation.command = .demo request)
    (failed : (Report.solve request sampleProblem).outcome = .error cause) :
    invocation.run state =
      ⟨1, unlines [s!"The problem does not have a solution! ({cause.message})"],
        unlines (invocation.log state)⟩ := by
  simp [Invocation.run, Invocation.log, Invocation.events, command, solveSample, failed,
    Outcome.success]

theorem separates_of_demo {request : Report.Request Float}
    (command : invocation.command = .demo request) (asks : request.shrinkFactors ≠ [])
    (solved : ¬invocation.SampleFails) : Separates invocation state := by
  cases outcome : (Report.solve request sampleProblem).outcome with
  | error cause => exact absurd ⟨request, cause, command, outcome⟩ solved
  | ok report =>
      have answers := Report.solve_eq_ok_iff.mp outcome
      refine separates_of_success ?_ (Report.lines_ne_nil answers asks)
      simp [Invocation.run, Invocation.log, Invocation.events, command, solveSample, outcome]

theorem not_separates_of_sample_failure (fails : invocation.SampleFails) :
    ¬Separates invocation state := by
  obtain ⟨request, cause, command, failed⟩ := fails
  intro separates
  have ran := @run_of_sample_failure invocation state request cause command failed
  have silent := (separates.failure (by rw [ran])).1
  rw [ran] at silent
  exact unlines_ne_empty (List.cons_ne_nil _ []) silent

/-- Whatever the arguments ask for and whatever the file holds, the streams are kept
apart, unless the sample problem fails. Then the one line of output is the reason. -/
theorem streams_separate_iff {arguments : List String}
    (spelled : Invocation.ofArguments? arguments = some invocation) (state : FileState) :
    (Separates invocation state ↔ ¬invocation.SampleFails) ∧
      ∀ request cause, invocation.command = .demo request →
        (Report.solve request sampleProblem).outcome = .error cause →
          invocation.run state =
            ⟨1, unlines [s!"The problem does not have a solution! ({cause.message})"],
              unlines (invocation.log state)⟩ := by
  constructor
  · constructor
    · intro separates fails
      exact not_separates_of_sample_failure fails separates
    · intro solved
      cases command : invocation.command with
      | demo request =>
          have asks := request_of_arguments spelled (by rw [command]; rfl)
          exact separates_of_demo command asks solved
      | solve file request format =>
          have asks := request_of_arguments spelled (by rw [command]; rfl)
          cases content : state.problem with
          | error line => exact separates_of_no_problem (by rw [command]; rfl) content
          | ok problem => exact separates_of_solve command content asks
      | check file =>
          cases content : state.problem with
          | error line => exact separates_of_no_problem (by rw [command]; rfl) content
          | ok problem => exact separates_of_check command content
  · intro request cause command failed
    exact run_of_sample_failure command failed

theorem streams_separate_of_missing_file :
    ∃ invocation, Invocation.ofArguments? ["solve", "problem.json", "-v"] = some invocation ∧
      invocation.run .missing =
        ⟨1, "", "Error reading file: No such file or directory (os error 2)\n"⟩ ∧
      Separates invocation .missing := by
  have found : (Invocation.ofArguments? ["solve", "problem.json", "-v"]).map
      (fun invocation => (invocation.command.file?, invocation.run .missing)) =
        some (some "problem.json",
          ⟨1, "", "Error reading file: No such file or directory (os error 2)\n"⟩) := by
    decide +kernel
  obtain ⟨invocation, spelled, same⟩ := Option.map_eq_some_iff.mp found
  obtain ⟨named, ran⟩ := Prod.mk.inj same
  refine ⟨invocation, spelled, ran, (streams_separate_iff spelled .missing).1.mpr ?_⟩
  rintro ⟨request, cause, command, _⟩
  rw [command] at named
  cases named

/-- A refused tolerance makes the sample problem fail, and nobody who reads the error
stream is told. -/
theorem sample_failure_on_output :
    ∃ invocation, Invocation.ofArguments? ["demo", "--eps=-1"] = some invocation ∧
      invocation.run .missing =
        ⟨1, "The problem does not have a solution! (Invalid parameter: tolerance must be positive, got -1)\n",
          ""⟩ ∧
      ¬Separates invocation .missing := by
  have ran : (Invocation.ofArguments? ["demo", "--eps=-1"]).map (·.run .missing) =
      some ⟨1, "The problem does not have a solution! (Invalid parameter: tolerance must be positive, got -1)\n",
        ""⟩ := by
    decide +kernel
  obtain ⟨invocation, spelled, ran⟩ := Option.map_eq_some_iff.mp ran
  refine ⟨invocation, spelled, ran, ?_⟩
  intro separates
  have silent := (separates.failure (by rw [ran])).1
  rw [ran] at silent
  exact absurd silent (by decide)

end CommandLine

end LinearProgram
