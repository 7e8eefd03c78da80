import LinearProgram.Decimal.Style
import LinearProgram.Run

/-!
# Log lines

Each event has one line at one of two levels. How often the program was asked to
be verbose decides which levels are shown.
-/

namespace LinearProgram

open Decimal

inductive Level where
  | debug
  | trace
deriving DecidableEq, Repr

/-- Debug lines are shown from the first request on, trace lines from the second. -/
def Level.isShown (level : Level) (verbosity : Nat) : Bool :=
  match level with
  | .debug => decide (1 ≤ verbosity)
  | .trace => decide (2 ≤ verbosity)

def Level.name : Level → String
  | .debug => "DEBUG"
  | .trace => "TRACE"

namespace Event

def level {α : Type} : Event α → Level
  | .pivot .. => .trace
  | .barrierStep .. | .converged .. => .debug

def text : Event Float → String
  | .pivot iteration column row =>
      s!"barrierlp_solver::simplex: pivot iteration={iteration} pivot_col={column} pivot_row={row}"
  | .barrierStep iteration barrier measure target closed =>
      "barrierlp_solver::interior_point: interior-point iteration " ++
        s!"iteration={iteration} t={Style.exact.text barrier} mu={Style.exact.text measure} " ++
        s!"sigma={Style.exact.text target} converged={closed}"
  | .converged iteration barrier =>
      "barrierlp_solver::interior_point: interior-point converged " ++
        s!"iteration={iteration} barrier={Style.exact.text barrier}"

/-- The line as text. The time at which it is written, which stands in front, and the colours
of a terminal are left out. -/
def line (event : Event Float) : String :=
  s!"{event.level.name} {event.text}"

end Event

def logLines (verbosity : Nat) (events : List (Event Float)) : List String :=
  (events.filter fun event => event.level.isShown verbosity).map Event.line

end LinearProgram
