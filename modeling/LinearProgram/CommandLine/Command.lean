import LinearProgram.Report

/-!
# Commands

What the program can be asked to do: solve the problem in a file, solve a sample
problem, or check a file.
-/

namespace LinearProgram.CommandLine

inductive Format where
  | pretty
  | json
deriving DecidableEq, Repr

inductive Command where
  | solve (file : String) (request : Report.Request Float) (format : Format)
  | demo (request : Report.Request Float)
  | check (file : String)

/-- A command, and how many times verbose output was asked for. -/
structure Invocation where
  verbosity : Nat
  command : Command

def Command.file? : Command → Option String
  | .solve file _ _ | .check file => some file
  | .demo _ => none

end LinearProgram.CommandLine
