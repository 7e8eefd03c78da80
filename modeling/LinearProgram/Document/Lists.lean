import LinearProgram.Document.Number
import LinearProgram.Document.String

/-!
# Numbers and lists as values

Readers for the values of a problem: a double, and lists of whatever another
reader reads. A place that holds something else is refused with a description of
what stands there.
-/

namespace LinearProgram.Document

/-- Why a value is refused where something else is expected, given its first
character. A value that is itself malformed is refused for that. -/
def refuse (expected : Expected) (first : Char) (rest : List Char) : ReadError :=
  let named (word : List Char) (found : Found) : ReadError :=
    match expectWord word rest with
    | .error cause => cause
    | .ok _ => .wrongType found expected
  if first = 'n' then named ['u', 'l', 'l'] .null
  else if first = 't' then named ['r', 'u', 'e'] (.boolean true)
  else if first = 'f' then named ['a', 'l', 's', 'e'] (.boolean false)
  else if first = '-' ∨ first.isDigit then
    match readNumber (first :: rest) with
    | .error cause => cause
    | .ok (number, _) => .wrongType number.found expected
  else if first = '"' then
    match scanString strictEscape [] rest with
    | .error cause => cause
    | .ok (content, _) => .wrongType (.string content) expected
  else if first = '[' then .wrongType .sequence expected
  else if first = '\x7b' then .wrongType .map expected
  else .expectedValue

def readFloat (text : List Char) : Except ReadError (Float × List Char) :=
  match dropBlank text with
  | [] => .error (.ended .value)
  | first :: rest =>
      if first = '-' ∨ first.isDigit then
        match readNumber (first :: rest) with
        | .error cause => .error cause
        | .ok (number, after) => .ok (number.toFloat, after)
      else .error (refuse .number first rest)

theorem read_float_length {text : List Char} {value : Float} {rest : List Char}
    (read : readFloat text = .ok (value, rest)) : rest.length < text.length := by
  have bound := drop_blank_length text
  unfold readFloat at read
  split at read
  · cases read
  · rename_i remaining
    rw [remaining] at bound
    split at read
    · split at read
      · cases read
      · rename_i number
        cases read
        have shorter := read_number_length number
        omega
    · cases read

def float : Reader Float where
  read := readFloat
  shrinks := read_float_length

/-- What comes next in a list or an object: its end, or the text of an item. -/
inductive Next where
  | close (rest : List Char)
  | item (text : List Char)

/-- Look for the next item of a list. A comma precedes every item but the first. -/
def nextItem (isFirst : Bool) (text : List Char) : Except ReadError Next :=
  match dropBlank text with
  | [] => .error (.ended .list)
  | character :: rest =>
      if character = ']' then .ok (.close rest)
      else if isFirst then .ok (.item (character :: rest))
      else if character = ',' then
        match dropBlank rest with
        | [] => .error (.ended .value)
        | next :: after =>
            if next = ']' then .error .trailingComma else .ok (.item (next :: after))
      else .error .expectedCommaOrBracket

theorem next_item_item_length {isFirst : Bool} {text item : List Char}
    (next : nextItem isFirst text = .ok (.item item)) : item.length ≤ text.length := by
  have bound := drop_blank_length text
  unfold nextItem at next
  split at next
  · cases next
  · rename_i character tail remaining
    have further := drop_blank_length tail
    rw [remaining, List.length_cons] at bound
    split at next
    · cases next
    · split at next
      · cases next
        rw [List.length_cons]
        omega
      · split at next
        · split at next
          · cases next
          · rename_i following
            rw [following] at further
            split at next
            · cases next
            · cases next
              omega
        · cases next

theorem next_item_close_length {isFirst : Bool} {text rest : List Char}
    (next : nextItem isFirst text = .ok (.close rest)) : rest.length < text.length := by
  have bound := drop_blank_length text
  unfold nextItem at next
  split at next
  · cases next
  · rename_i character tail remaining
    rw [remaining, List.length_cons] at bound
    split at next
    · cases next
      omega
    · split at next
      · cases next
      · split at next
        · split at next
          · cases next
          · split at next <;> cases next
        · cases next

/-- The items of a list up to its closing bracket. `items` holds the earlier
ones, the newest first. -/
def readItems {β : Type} (item : Reader β) (items : List β) (isFirst : Bool) (text : List Char) :
    Except ReadError (List β × List Char) :=
  match _next : nextItem isFirst text with
  | .error cause => .error cause
  | .ok (.close rest) => .ok (items.reverse, rest)
  | .ok (.item start) =>
      match _read : item.read start with
      | .error cause => .error cause
      | .ok (value, rest) => readItems item (value :: items) false rest
termination_by text.length
decreasing_by exact Nat.lt_of_lt_of_le (item.shrinks _read) (next_item_item_length _next)

theorem read_items_length {β : Type} {item : Reader β} {items : List β} {isFirst : Bool}
    {text : List Char} {values : List β} {rest : List Char}
    (read : readItems item items isFirst text = .ok (values, rest)) :
    rest.length < text.length := by
  fun_induction readItems item items isFirst text with
  | case1 => cases read
  | case2 items isFirst text after next =>
      cases read
      exact next_item_close_length next
  | case3 => cases read
  | case4 items isFirst text start next value after found induction =>
      have shorter := item.shrinks found
      have bound := next_item_item_length next
      have further := induction read
      omega

def readList {β : Type} (item : Reader β) (text : List Char) :
    Except ReadError (List β × List Char) :=
  match dropBlank text with
  | [] => .error (.ended .value)
  | first :: rest =>
      if first = '[' then readItems item [] true rest else .error (refuse .sequence first rest)

theorem read_list_length {β : Type} {item : Reader β} {text : List Char} {values : List β}
    {rest : List Char} (read : readList item text = .ok (values, rest)) :
    rest.length < text.length := by
  have bound := drop_blank_length text
  unfold readList at read
  split at read
  · cases read
  · rename_i remaining
    rw [remaining, List.length_cons] at bound
    split at read
    · have shorter := read_items_length read
      omega
    · cases read

def list {β : Type} (item : Reader β) : Reader (List β) where
  read := readList item
  shrinks := read_list_length

def vector : Reader (List Float) := list float

def matrix : Reader (List (List Float)) := list vector

end LinearProgram.Document
