import LinearProgram.Decimal.Style
import LinearProgram.Simplex

/-!
# Text of solutions

Vectors are written in brackets: with four decimal places for readers, and in the
exact style where no digit may be lost.
-/

namespace LinearProgram

open Decimal

/-- Entries in brackets, separated by a comma and a blank. -/
def bracketed (entries : List String) : String :=
  "[" ++ String.intercalate ", " entries ++ "]"

/-- Numbers for readers have four decimal places. -/
def roundedText (value : Float) : String :=
  fixedText 4 value

def vectorText (values : List Float) : String :=
  bracketed (values.map roundedText)

def exactVectorText (values : List Float) : String :=
  bracketed (values.map Style.exact.text)

def Solution.text (solution : Solution Float) : String :=
  s!"x* = {exactVectorText solution.values}\nobj = {Style.exact.text solution.objective}"

end LinearProgram
