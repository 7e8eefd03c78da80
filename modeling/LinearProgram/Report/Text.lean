import LinearProgram.Document.Value
import LinearProgram.Report
import LinearProgram.Solution

/-!
# Text of reports

A report is written for readers, with rounded numbers and headings, or as a
document with exact numbers.
-/

namespace LinearProgram

open Decimal Document

def Solution.document (solution : Solution Float) : Value :=
  .object [("objective", .number solution.objective), ("values", .vector solution.values)]

def BarrierAnswer.document (answer : BarrierAnswer Float) : Value :=
  .object
    [("alpha", .number answer.shrinkFactor), ("values", .vector answer.values),
      ("objective", .number answer.objective), ("iterations", .count answer.iterations)]

def Solution.lines (solution : Solution Float) : List String :=
  ["--- Simplex Method ---", "",
    s!"x* by Simplex algorithm: {vectorText solution.values}",
    s!"Maximum value of the objective function: {roundedText solution.objective}", ""]

def BarrierAnswer.lines (answer : BarrierAnswer Float) : List String :=
  let alpha := Style.plain.text answer.shrinkFactor
  [s!"x* by Interior-Point algorithm (alpha = {alpha}): {vectorText answer.values}",
    s!"Maximum value of the objective function (alpha = {alpha}): {roundedText answer.objective}"]

namespace Report

/-- A method that was not asked for has no member. -/
def document (report : Report Float) : Value :=
  .object
    ((report.simplex.map fun solution => ("simplex", solution.document)).toList ++
      [("interior_point", .list (report.barrier.map BarrierAnswer.document))])

def documentText (report : Report Float) : String :=
  report.document.spread 0

/-- A part without answers has no heading. -/
def lines (report : Report Float) : List String :=
  (report.simplex.map Solution.lines).getD [] ++
    if report.barrier.isEmpty then []
    else ["--- Interior-Point Method ---", ""] ++ report.barrier.flatMap BarrierAnswer.lines

end Report

end LinearProgram
