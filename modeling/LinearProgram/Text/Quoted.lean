import LinearProgram.Text.Invisible

/-!
# Quoted text

Text between double quotes in a message. Quotes, backslashes and the common
control characters are escaped by a letter, every other character without a
visible form of its own by its code point in braces.
-/

namespace LinearProgram.Text

def escapeLetter? : Char → Option Char
  | '"' => some '"'
  | '\\' => some '\\'
  | '\n' => some 'n'
  | '\r' => some 'r'
  | '\t' => some 't'
  | '\x00' => some '0'
  | _ => none

def escapeCharacter (character : Char) : List Char :=
  match escapeLetter? character with
  | some letter => ['\\', letter]
  | none =>
      if isInvisible character then
        ['\\', 'u', '\x7b'] ++ Nat.toDigits 16 character.toNat ++ ['\x7d']
      else [character]

def quoted (text : List Char) : String :=
  String.ofList ('"' :: (text.flatMap escapeCharacter ++ ['"']))

end LinearProgram.Text
