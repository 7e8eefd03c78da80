import LinearProgram.Decimal.Style

/-!
# Written documents

A JSON document of numbers, lists and objects, written on one line or with one
item per line.
-/

namespace LinearProgram.Document

open Decimal

/-- A number keeps its point and writes a sign before every exponent. A value
that is not finite has no number text. -/
def numberStyle : Style where
  tie := .toEven
  positional := some (-5, 15)
  keepsPoint := true
  signsExponent := true
  nan := "null"
  infinity := "null"
  negativeInfinity := "null"

inductive Value where
  | number (value : Float)
  | count (value : Nat)
  | list (items : List Value)
  | object (members : List (String × Value))

namespace Value

def vector (values : List Float) : Value :=
  .list (values.map .number)

def matrix (rows : List (List Float)) : Value :=
  .list (rows.map vector)

/-- Names of members are written as they are; they hold no character that would
need an escape. -/
def quotedName (name : String) : String :=
  "\"" ++ name ++ "\""

def compact : Value → String
  | .number value => numberStyle.text value
  | .count value => toString value
  | .list items => "[" ++ String.intercalate "," (compactItems items) ++ "]"
  | .object members => "\x7b" ++ String.intercalate "," (compactMembers members) ++ "\x7d"
where
  compactItems : List Value → List String
    | [] => []
    | item :: rest => compact item :: compactItems rest
  compactMembers : List (String × Value) → List String
    | [] => []
    | (name, value) :: rest => (quotedName name ++ ":" ++ compact value) :: compactMembers rest

/-- A new line at a depth of nesting, two blanks for each level. -/
def newLine (depth : Nat) : String :=
  "\n" ++ String.ofList (List.replicate (2 * depth) ' ')

/-- Items between brackets, one per line; nothing but the brackets when there
are no items. -/
def block (depth : Nat) (opening closing : String) (items : List String) : String :=
  if items.isEmpty then opening ++ closing
  else
    opening ++ newLine (depth + 1) ++ String.intercalate ("," ++ newLine (depth + 1)) items ++
      newLine depth ++ closing

/-- One item per line, inside `depth` levels of nesting. -/
def spread (depth : Nat) : Value → String
  | .number value => numberStyle.text value
  | .count value => toString value
  | .list items => block depth "[" "]" (spreadItems depth items)
  | .object members => block depth "\x7b" "\x7d" (spreadMembers depth members)
where
  spreadItems (depth : Nat) : List Value → List String
    | [] => []
    | item :: rest => spread (depth + 1) item :: spreadItems depth rest
  spreadMembers (depth : Nat) : List (String × Value) → List String
    | [] => []
    | (name, value) :: rest =>
        (quotedName name ++ ": " ++ spread (depth + 1) value) :: spreadMembers depth rest

end Value

end LinearProgram.Document
