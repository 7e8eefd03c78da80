import LinearProgram.CommandLine.Arguments
import LinearProgram.CommandLine.Outcome

/-!
# The program

Reads the file that the command names, and writes what the command gives.
-/

open LinearProgram.CommandLine

/-- An error of opening names the path; one of reading does not. -/
def LinearProgram.CommandLine.readState (file : String) : IO FileState := do
  try
    return .bytes (← IO.FS.readBinFile file)
  catch failure =>
    match failure with
    | .noFileOrDirectory .. => return .missing
    | .inappropriateType (some _) .. => return .unreadable "Not a directory (os error 20)"
    | .inappropriateType .. => return .directory
    | .permissionDenied .. => return .unreadable "Permission denied (os error 13)"
    | other => return .unreadable (toString other)

def main (arguments : List String) : IO UInt32 := do
  match Invocation.ofArguments? arguments with
  | none =>
      IO.eprintln "Usage: [-v]... <solve FILE | demo | check FILE> [OPTIONS]"
      return 2
  | some invocation =>
      let state ← match invocation.command.file? with
        | some file => readState file
        | none => pure .missing
      let outcome := invocation.run state
      IO.eprint outcome.errors
      IO.print outcome.output
      return outcome.status.toUInt32
