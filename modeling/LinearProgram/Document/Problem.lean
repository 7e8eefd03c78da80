import LinearProgram.Document.Lists
import LinearProgram.Document.Skip
import LinearProgram.Problem

/-!
# Problem documents

A problem is written as an object with the members `objective`, `constraints`
and `rhs` in any order, among others that are passed over, or as a list of the
three values in that order. It is always written back as an object.
-/

namespace LinearProgram.Document

def Field.ofName? (name : List Char) : Option Field :=
  [Field.objective, .constraints, .rhs].find? fun field => field.name.toList == name

structure Draft where
  objective : Option (List Float) := none
  constraints : Option (List (List Float)) := none
  rhs : Option (List Float) := none

namespace Draft

def has (draft : Draft) : Field → Bool
  | .objective => draft.objective.isSome
  | .constraints => draft.constraints.isSome
  | .rhs => draft.rhs.isSome

/-- The problem once every member has been read, or the first one missing. -/
def finish (draft : Draft) : Except ReadError (Problem Float) :=
  match draft.objective, draft.constraints, draft.rhs with
  | none, _, _ => .error (.missingField .objective)
  | some _, none, _ => .error (.missingField .constraints)
  | some _, some _, none => .error (.missingField .rhs)
  | some objective, some constraints, some rhs => .ok ⟨objective, constraints, rhs⟩

def readField (draft : Draft) (field : Field) (text : List Char) :
    Except ReadError (Draft × List Char) :=
  match field with
  | .objective =>
      (vector.read text).map fun (value, rest) => ({ draft with objective := some value }, rest)
  | .constraints =>
      (matrix.read text).map fun (value, rest) => ({ draft with constraints := some value }, rest)
  | .rhs => (vector.read text).map fun (value, rest) => ({ draft with rhs := some value }, rest)

/-- Read what follows a key. That a member is given twice is noticed at its key. -/
def readMember (draft : Draft) (key text : List Char) : Except ReadError (Draft × List Char) :=
  match Field.ofName? key with
  | some field =>
      if draft.has field then .error (.duplicateField field)
      else
        match expectColon text with
        | .error cause => .error cause
        | .ok after => draft.readField field after
  | none =>
      match expectColon text with
      | .error cause => .error cause
      | .ok after => (skipValue after).map (draft, ·)

theorem read_field_length {draft next : Draft} {field : Field} {text rest : List Char}
    (read : draft.readField field text = .ok (next, rest)) : rest.length < text.length := by
  cases field with
  | objective =>
      obtain ⟨inner, found, same⟩ := map_ok read
      cases same
      exact vector.shrinks found
  | constraints =>
      obtain ⟨inner, found, same⟩ := map_ok read
      cases same
      exact matrix.shrinks found
  | rhs =>
      obtain ⟨inner, found, same⟩ := map_ok read
      cases same
      exact vector.shrinks found

theorem read_member_length {draft next : Draft} {key text rest : List Char}
    (read : draft.readMember key text = .ok (next, rest)) : rest.length < text.length := by
  unfold readMember at read
  split at read
  · split at read
    · cases read
    · split at read
      · cases read
      · rename_i colon
        have first := expect_colon_length colon
        have second := read_field_length read
        omega
  · split at read
    · cases read
    · rename_i colon
      obtain ⟨inner, skipped, same⟩ := map_ok read
      cases same
      have first := expect_colon_length colon
      have second : rest.length ≤ _ := skip_length skipped
      omega

end Draft

/-- Look for the next key of an object: the text after its opening quote. A comma
precedes every key but the first. -/
def nextKey (isFirst : Bool) (text : List Char) : Except ReadError Next :=
  match dropBlank text with
  | [] => .error (.ended .object)
  | character :: rest =>
      if character = '\x7d' then .ok (.close rest)
      else if isFirst then
        if character = '"' then .ok (.item rest) else .error .keyNotString
      else if character = ',' then
        match dropBlank rest with
        | [] => .error (.ended .value)
        | next :: after =>
            if next = '"' then .ok (.item after)
            else if next = '\x7d' then .error .trailingComma
            else .error .keyNotString
      else .error .expectedCommaOrBrace

theorem next_key_item_length {isFirst : Bool} {text item : List Char}
    (next : nextKey isFirst text = .ok (.item item)) : item.length ≤ text.length := by
  have bound := drop_blank_length text
  unfold nextKey at next
  split at next
  · cases next
  · rename_i character tail remaining
    have further := drop_blank_length tail
    rw [remaining, List.length_cons] at bound
    split at next
    · cases next
    · split at next
      · split at next
        · cases next
          omega
        · cases next
      · split at next
        · split at next
          · cases next
          · rename_i following
            rw [following, List.length_cons] at further
            split at next
            · cases next
              omega
            · split at next <;> cases next
        · cases next

def readMembers (draft : Draft) (isFirst : Bool) (text : List Char) :
    Except ReadError (Problem Float × List Char) :=
  match _next : nextKey isFirst text with
  | .error cause => .error cause
  | .ok (.close rest) => draft.finish.map (·, rest)
  | .ok (.item start) =>
      match _scanned : scanString strictEscape [] start with
      | .error cause => .error cause
      | .ok (key, afterKey) =>
          match _read : draft.readMember key afterKey with
          | .error cause => .error cause
          | .ok (draft, rest) => readMembers draft false rest
termination_by text.length
decreasing_by
  have first := next_key_item_length _next
  have second := scan_string_length _scanned
  have third := Draft.read_member_length _read
  omega

/-- The item at a place in the list form. -/
def readEntry {β : Type} (item : Reader β) (index : Nat) (text : List Char) :
    Except ReadError (β × List Char) :=
  match nextItem (index == 0) text with
  | .error cause => .error cause
  | .ok (.close _) => .error (.wrongLength index)
  | .ok (.item start) => item.read start

/-- The end of the list form, where no item may follow. -/
def closeEntries (text : List Char) : Except ReadError (List Char) :=
  match dropBlank text with
  | [] => .error (.ended .list)
  | character :: rest =>
      if character = ']' then .ok rest
      else if character = ',' then
        match dropBlank rest with
        | ']' :: _ => .error .trailingComma
        | _ => .error .trailingCharacters
      else .error .trailingCharacters

def readEntries (text : List Char) : Except ReadError (Problem Float × List Char) := do
  let (objective, afterObjective) ← readEntry vector 0 text
  let (constraints, afterConstraints) ← readEntry matrix 1 afterObjective
  let (rhs, afterRhs) ← readEntry vector 2 afterConstraints
  let rest ← closeEntries afterRhs
  pure (⟨objective, constraints, rhs⟩, rest)

def readProblem (text : List Char) : Except ReadError (Problem Float × List Char) :=
  match dropBlank text with
  | [] => .error (.ended .value)
  | first :: rest =>
      if first = '\x7b' then readMembers {} true rest
      else if first = '[' then readEntries rest
      else .error (refuse .problem first rest)

/-- The problem that a whole text holds. -/
def parse (source : String) : Except ReadError (Problem Float) :=
  match readProblem source.toList with
  | .error cause => .error cause
  | .ok (problem, rest) =>
      if (dropBlank rest).isEmpty then .ok problem else .error .trailingCharacters

def ofProblem (problem : Problem Float) : Value :=
  .object
    [(Field.objective.name, .vector problem.objective),
      (Field.constraints.name, .matrix problem.constraints),
      (Field.rhs.name, .vector problem.rhs)]

end LinearProgram.Document
