import LinearProgram.Document.Number
import LinearProgram.Document.String

/-!
# Values that are passed over

A member that a problem does not know may hold any JSON value. The value is
checked for its form and forgotten. The lists and objects that are still open are
kept in a list of frames, so that any depth of nesting is accepted.
-/

namespace LinearProgram.Document

inductive Frame where
  | list
  | object
deriving DecidableEq, Repr

namespace Frame

def closing : Frame → Char
  | .list => ']'
  | .object => '\x7d'

def scope : Frame → Scope
  | .list => .list
  | .object => .object

/-- What is missing where neither a comma nor the closing bracket stands. -/
def separatorMissing : Frame → ReadError
  | .list => .expectedCommaOrBracket
  | .object => .expectedCommaOrBrace

def ofOpening? : Char → Option Frame
  | '[' => some .list
  | '\x7b' => some .object
  | _ => none

end Frame

def expectColon (text : List Char) : Except ReadError (List Char) :=
  match dropBlank text with
  | [] => .error (.ended .object)
  | character :: rest => if character = ':' then .ok rest else .error .expectedColon

/-- A key that is passed over, with its colon. -/
def skipKey (text : List Char) : Except ReadError (List Char) :=
  match dropBlank text with
  | [] => .error (.ended .object)
  | character :: rest =>
      if character = '"' then
        match scanString looseEscape [] rest with
        | .error cause => .error cause
        | .ok (_, after) => expectColon after
      else .error .keyNotString

/-- The place where the value of the next item begins. -/
def itemStart : Frame → List Char → Except ReadError (List Char)
  | .list, text => .ok text
  | .object, text => skipKey text

/-- A value that opens no list and no object, its first character known. -/
def skipScalar (first : Char) (rest : List Char) : Except ReadError (List Char) :=
  if first = 'n' then expectWord ['u', 'l', 'l'] rest
  else if first = 't' then expectWord ['r', 'u', 'e'] rest
  else if first = 'f' then expectWord ['a', 'l', 's', 'e'] rest
  else if first = '-' ∨ first.isDigit then skipNumber (first :: rest)
  else if first = '"' then (scanString looseEscape [] rest).map (·.2)
  else .error .expectedValue

inductive Position where
  | beforeValue
  | afterValue
deriving DecidableEq, Repr

/-- One move over a text, up to a position before or after a value: the frames
then open and the text that is left. -/
def skipStep : Position → List Frame → List Char →
    Except ReadError (Position × List Frame × List Char)
  | .beforeValue, frames, text =>
      match dropBlank text with
      | [] => .error (.ended .value)
      | first :: rest =>
          match Frame.ofOpening? first with
          | none => (skipScalar first rest).map (.afterValue, frames, ·)
          | some frame =>
              match dropBlank rest with
              | [] => .error (.ended frame.scope)
              | second :: after =>
                  if second = frame.closing then .ok (.afterValue, frames, after)
                  else (itemStart frame (second :: after)).map (.beforeValue, frame :: frames, ·)
  | .afterValue, [], text => .ok (.afterValue, [], text)
  | .afterValue, frame :: frames, text =>
      match dropBlank text with
      | [] => .error (.ended frame.scope)
      | first :: rest =>
          if first = ',' then (itemStart frame rest).map (.beforeValue, frame :: frames, ·)
          else if first = frame.closing then .ok (.afterValue, frames, rest)
          else .error frame.separatorMissing

theorem expect_colon_length {text rest : List Char} (read : expectColon text = .ok rest) :
    rest.length < text.length := by
  have bound := drop_blank_length text
  unfold expectColon at read
  split at read
  · cases read
  · rename_i remaining
    rw [remaining, List.length_cons] at bound
    split at read
    · cases read
      omega
    · cases read

theorem skip_key_length {text rest : List Char} (read : skipKey text = .ok rest) :
    rest.length < text.length := by
  have bound := drop_blank_length text
  unfold skipKey at read
  split at read
  · cases read
  · rename_i remaining
    rw [remaining, List.length_cons] at bound
    split at read
    · split at read
      · cases read
      · rename_i scanned
        have first := scan_string_length scanned
        have second := expect_colon_length read
        omega
    · cases read

theorem item_start_length {frame : Frame} {text rest : List Char}
    (read : itemStart frame text = .ok rest) : rest.length ≤ text.length := by
  cases frame with
  | list => cases read; exact Nat.le_refl _
  | object => exact Nat.le_of_lt (skip_key_length read)

theorem skip_scalar_length {first : Char} {rest after : List Char}
    (read : skipScalar first rest = .ok after) : after.length ≤ rest.length := by
  unfold skipScalar at read
  split at read
  · exact expect_word_length read
  · split at read
    · exact expect_word_length read
    · split at read
      · exact expect_word_length read
      · split at read
        · have shorter := skip_number_length read
          rw [List.length_cons] at shorter
          omega
        · split at read
          · cases scanned : scanString looseEscape [] rest with
            | error cause => rw [scanned] at read; cases read
            | ok found =>
                rw [scanned] at read
                cases read
                exact Nat.le_of_lt (scan_string_length scanned)
          · cases read

theorem map_ok {β γ : Type} {result : Except ReadError β} {f : β → γ} {value : γ}
    (mapped : result.map f = .ok value) : ∃ inner, result = .ok inner ∧ f inner = value := by
  cases result with
  | error cause => cases mapped
  | ok inner => cases mapped; exact ⟨inner, rfl, rfl⟩

/-- Every move but the last takes a character off the text. -/
theorem skip_step_length {position next : Position} {frames inner : List Frame}
    {text rest : List Char} (step : skipStep position frames text = .ok (next, inner, rest))
    (unfinished : position = .beforeValue ∨ frames ≠ []) : rest.length < text.length := by
  have bound := drop_blank_length text
  unfold skipStep at step
  split at step
  · split at step
    · cases step
    · rename_i first tail remaining
      rw [remaining, List.length_cons] at bound
      split at step
      · obtain ⟨inner, scalar, same⟩ := map_ok step
        cases same
        have shorter := skip_scalar_length scalar
        omega
      · have further := drop_blank_length tail
        split at step
        · cases step
        · rename_i second after opened
          rw [opened, List.length_cons] at further
          split at step
          · cases step
            omega
          · obtain ⟨inner, start, same⟩ := map_ok step
            cases same
            have shorter := item_start_length start
            rw [List.length_cons] at shorter
            omega
  · simp at unfinished
  · split at step
    · cases step
    · rename_i remaining
      rw [remaining, List.length_cons] at bound
      split at step
      · obtain ⟨inner, start, same⟩ := map_ok step
        cases same
        have shorter := item_start_length start
        omega
      · split at step
        · cases step
          omega
        · cases step

/-- Move over a text until no value is due and no frame is open. -/
def skip (position : Position) (frames : List Frame) (text : List Char) :
    Except ReadError (List Char) :=
  if _finished : position = .afterValue ∧ frames = [] then .ok text
  else
    match _step : skipStep position frames text with
    | .error cause => .error cause
    | .ok (next, frames, rest) => skip next frames rest
termination_by text.length
decreasing_by
  refine skip_step_length _step ?_
  cases position with
  | beforeValue => exact .inl rfl
  | afterValue => exact .inr fun empty => _finished ⟨rfl, empty⟩

def skipValue (text : List Char) : Except ReadError (List Char) :=
  skip .beforeValue [] text

theorem skip_length {position : Position} {frames : List Frame} {text rest : List Char}
    (read : skip position frames text = .ok rest) : rest.length ≤ text.length := by
  fun_induction skip position frames text with
  | case1 => cases read; exact Nat.le_refl _
  | case2 => cases read
  | case3 position frames text finished next inner after step induction =>
      have further := induction read
      have shorter : after.length < text.length := by
        refine skip_step_length step ?_
        cases position with
        | beforeValue => exact .inl rfl
        | afterValue => exact .inr fun empty => finished ⟨rfl, empty⟩
      omega

end LinearProgram.Document
