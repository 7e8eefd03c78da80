import LinearProgram.CommandLine.Command
import LinearProgram.Document.Problem
import LinearProgram.Log
import LinearProgram.Message
import LinearProgram.Report.Text

/-!
# Carrying out a command

The whole effect of a command is its exit status and the text on its two output
streams. It is computed from the invocation and the state of the file alone.
-/

namespace LinearProgram.CommandLine

/-- What opening the file of a command gives. -/
inductive FileState where
  | bytes (content : ByteArray)
  | missing
  | directory
  /-- Any other failure, in the words of the system. -/
  | unreadable (reason : String)

structure Outcome where
  status : Nat
  output : String
  errors : String
deriving DecidableEq, Repr

def unlines (lines : List String) : String :=
  String.join (lines.map (· ++ "\n"))

namespace Outcome

def success (log output : List String) : Outcome :=
  ⟨0, unlines output, unlines log⟩

/-- A failure reported after the log lines. -/
def failure (log errors : List String) : Outcome :=
  ⟨1, "", unlines (log ++ errors)⟩

end Outcome

def FileState.text : FileState → Except String String
  | .bytes content =>
      match String.fromUTF8? content with
      | some text => .ok text
      | none => .error "stream did not contain valid UTF-8"
  | .missing => .error "No such file or directory (os error 2)"
  | .directory => .error "Is a directory (os error 21)"
  | .unreadable reason => .error reason

/-- The problem in a file, or the line that says why there is none. -/
def FileState.problem (file : FileState) : Except String (Problem Float) :=
  match file.text with
  | .error reason => .error s!"Error reading file: {reason}"
  | .ok text =>
      match Document.parse text with
      | .error cause => .error s!"Parse error: {cause.message}"
      | .ok problem => .ok problem

/-- Maximize `2x + 3y + 4z` under three constraints. -/
def sampleProblem : Problem Float where
  objective := [2, 3, 4]
  constraints := [[3, 2, 1], [2, 5, 3], [4, 1, 2]]
  rhs := [10, 15, 8]

def solveProblem (verbosity : Nat) (request : Report.Request Float) (format : Format)
    (problem : Problem Float) : Outcome :=
  let run := Report.solve request problem
  let log := logLines verbosity run.events
  match run.outcome with
  | .error cause => .failure log [s!"Solve error: {cause.message}"]
  | .ok report =>
      match format with
      | .json => .success log [report.documentText]
      | .pretty => .success log report.lines

/-- The sample problem. Its failure is part of the output. -/
def solveSample (verbosity : Nat) (request : Report.Request Float) : Outcome :=
  let run := Report.solve request sampleProblem
  let log := logLines verbosity run.events
  match run.outcome with
  | .error cause =>
      { Outcome.success log [s!"The problem does not have a solution! ({cause.message})"] with
        status := 1 }
  | .ok report => .success log report.lines

def checkProblem (file : String) (problem : Problem Float) : Outcome :=
  match problem.validate with
  | .error cause => .failure [] [s!"✗ {file} has errors:", s!"  {cause.message}"]
  | .ok () =>
      .success [] <|
        [s!"✓ {file} is valid", s!"  {problem.numVariables} variables",
          s!"  {problem.numConstraints} constraints"] ++
        (problem.barrierNote.map fun note => s!"  note: {note}").toList

/-- Hand the problem in a file on, or report why there is none. -/
def withProblem (state : FileState) (next : Problem Float → Outcome) : Outcome :=
  match state.problem with
  | .error line => .failure [] [line]
  | .ok problem => next problem

/-- The effect of an invocation, given the state of the file it names. -/
def Invocation.run (invocation : Invocation) (state : FileState) : Outcome :=
  match invocation.command with
  | .solve _ request format => withProblem state (solveProblem invocation.verbosity request format)
  | .demo request => solveSample invocation.verbosity request
  | .check file => withProblem state (checkProblem file)

end LinearProgram.CommandLine
