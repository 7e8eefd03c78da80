import LinearProgram.Document.ReadError

/-!
# Readers

A reader takes a value off the front of a text. It always takes at least one
character, so that repeated reading comes to an end.
-/

namespace LinearProgram.Document

structure Reader (β : Type) where
  read : List Char → Except ReadError (β × List Char)
  shrinks : ∀ {text value rest}, read text = .ok (value, rest) → rest.length < text.length

/-- The characters permitted between tokens. -/
def isBlank (character : Char) : Bool :=
  character == ' ' || character == '\t' || character == '\n' || character == '\r'

def dropBlank (text : List Char) : List Char :=
  text.dropWhile isBlank

theorem drop_blank_length (text : List Char) : (dropBlank text).length ≤ text.length :=
  (List.dropWhile_suffix isBlank).length_le

/-- The rest of a word whose first letter has been seen. -/
def expectWord : (word text : List Char) → Except ReadError (List Char)
  | [], text => .ok text
  | _ :: _, [] => .error (.ended .value)
  | letter :: word, character :: text =>
      if letter = character then expectWord word text else .error .expectedIdent

theorem expect_word_length {word text rest : List Char} (read : expectWord word text = .ok rest) :
    rest.length ≤ text.length := by
  fun_induction expectWord word text with
  | case1 text => cases read; exact Nat.le_refl _
  | case2 => cases read
  | case3 letter word text induction => exact Nat.le_succ_of_le (induction read)
  | case4 => cases read

end LinearProgram.Document
