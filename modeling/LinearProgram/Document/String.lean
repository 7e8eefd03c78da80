import LinearProgram.Document.Reader

/-!
# Strings in documents

A string ends at the next quote that no backslash escapes. Where its content
matters, code units above the basic plane must come in pairs; where it is
skipped, only the form of the escapes is checked.
-/

namespace LinearProgram.Document

def hexDigit? (character : Char) : Option Nat :=
  if character.isDigit then some (character.toNat - '0'.toNat)
  else if 'a' ≤ character ∧ character ≤ 'f' then some (character.toNat - 'a'.toNat + 10)
  else if 'A' ≤ character ∧ character ≤ 'F' then some (character.toNat - 'A'.toNat + 10)
  else none

def byteCount (text : List Char) : Nat :=
  text.foldl (fun count character => count + character.utf8Size) 0

/-- Four hexadecimal digits. A text of fewer than four bytes has ended too soon. -/
def readHex : List Char → Except ReadError (Nat × List Char)
  | first :: second :: third :: fourth :: rest =>
      match [first, second, third, fourth].mapM hexDigit? with
      | some digits => .ok (digits.foldl (fun value digit => value * 16 + digit) 0, rest)
      | none => .error .invalidEscape
  | text => if byteCount text < 4 then .error (.ended .string) else .error .invalidEscape

theorem read_hex_length {text : List Char} {value : Nat} {rest : List Char}
    (read : readHex text = .ok (value, rest)) : rest.length < text.length := by
  unfold readHex at read
  split at read
  · split at read
    · cases read
      simp only [List.length_cons]
      omega
    · cases read
  · split at read <;> cases read

def unescape? : Char → Option Char
  | '"' => some '"'
  | '\\' => some '\\'
  | '/' => some '/'
  | 'b' => some '\x08'
  | 'f' => some '\x0c'
  | 'n' => some '\n'
  | 'r' => some '\r'
  | 't' => some '\t'
  | _ => none

def isLeadingSurrogate (unit : Nat) : Bool :=
  decide (0xD800 ≤ unit ∧ unit ≤ 0xDBFF)

def isTrailingSurrogate (unit : Nat) : Bool :=
  decide (0xDC00 ≤ unit ∧ unit ≤ 0xDFFF)

def combineSurrogates (leading trailing : Nat) : Char :=
  Char.ofNat (0x10000 + (leading - 0xD800) * 0x400 + (trailing - 0xDC00))

/-- The second half of a pair of code units. -/
def readTrailing (leading : Nat) : List Char → Except ReadError (Char × List Char)
  | [] => .error (.ended .string)
  | slash :: rest =>
      if slash = '\\' then
        match rest with
        | [] => .error (.ended .string)
        | letter :: digits =>
            if letter = 'u' then
              match readHex digits with
              | .error cause => .error cause
              | .ok (trailing, after) =>
                  if isTrailingSurrogate trailing then
                    .ok (combineSurrogates leading trailing, after)
                  else .error .loneSurrogate
            else .error .unfinishedSurrogate
      else .error .unfinishedSurrogate

theorem read_trailing_length {leading : Nat} {text : List Char} {value : Char} {rest : List Char}
    (read : readTrailing leading text = .ok (value, rest)) : rest.length < text.length := by
  fun_cases readTrailing leading text <;> simp_all [readTrailing]
  rename_i hex _
  have shorter := read_hex_length hex
  omega

/-- A character written by its code units, after `\u`. -/
def readCodeUnits (text : List Char) : Except ReadError (Char × List Char) :=
  match readHex text with
  | .error cause => .error cause
  | .ok (unit, rest) =>
      if isTrailingSurrogate unit then .error .loneSurrogate
      else if isLeadingSurrogate unit then readTrailing unit rest
      else .ok (Char.ofNat unit, rest)

theorem read_code_units_length {text : List Char} {value : Char} {rest : List Char}
    (read : readCodeUnits text = .ok (value, rest)) : rest.length < text.length := by
  unfold readCodeUnits at read
  split at read
  · cases read
  · rename_i hex
    have shorter := read_hex_length hex
    split at read
    · cases read
    · split at read
      · have further := read_trailing_length read
        omega
      · cases read
        exact shorter

/-- What follows a backslash, where `unit` reads the part after `u`. -/
def readEscape {β : Type} (unit : List Char → Except ReadError (β × List Char))
    (plain : Char → β) : List Char → Except ReadError (β × List Char)
  | [] => .error (.ended .string)
  | letter :: rest =>
      if letter = 'u' then unit rest
      else
        match unescape? letter with
        | some character => .ok (plain character, rest)
        | none => .error .invalidEscape

theorem read_escape_length {β : Type} {unit : List Char → Except ReadError (β × List Char)}
    {plain : Char → β}
    (unitShrinks : ∀ {text value rest}, unit text = .ok (value, rest) → rest.length < text.length)
    {text : List Char} {value : β} {rest : List Char}
    (read : readEscape unit plain text = .ok (value, rest)) : rest.length < text.length := by
  unfold readEscape at read
  split at read
  · cases read
  · split at read
    · have shorter := unitShrinks read
      simp only [List.length_cons]
      omega
    · split at read
      · cases read
        simp
      · cases read

/-- Escapes where the content matters. -/
def strictEscape : Reader Char where
  read := readEscape readCodeUnits id
  shrinks := read_escape_length read_code_units_length

/-- Escapes where the content does not matter; the value is without meaning. -/
def looseEscape : Reader Char where
  read := readEscape (fun text => (readHex text).map fun (_, rest) => (' ', rest)) id
  shrinks := read_escape_length fun {text value rest} read => by
    cases hex : readHex text with
    | error cause => rw [hex] at read; cases read
    | ok found =>
        rw [hex] at read
        cases read
        exact read_hex_length hex

/-- The rest of a string whose opening quote has been seen. `content` holds what
has been read of it, the last character first. -/
def scanString (escape : Reader Char) (content text : List Char) :
    Except ReadError (List Char × List Char) :=
  match text with
  | [] => .error (.ended .string)
  | character :: rest =>
      if character = '"' then .ok (content.reverse, rest)
      else if character = '\\' then
        match _escaped : escape.read rest with
        | .error cause => .error cause
        | .ok (decoded, after) => scanString escape (decoded :: content) after
      else if character.toNat < 0x20 then .error .controlCharacter
      else scanString escape (character :: content) rest
termination_by text.length
decreasing_by
  · have shorter := escape.shrinks _escaped
    simp only [List.length_cons]
    omega
  · simp

theorem scan_string_length {escape : Reader Char} {content text value rest : List Char}
    (read : scanString escape content text = .ok (value, rest)) : rest.length < text.length := by
  fun_induction scanString escape content text with
  | case1 => cases read
  | case2 => cases read; simp
  | case3 => cases read
  | case4 content rest decoded after escaped _ induction =>
      have shorter := escape.shrinks escaped
      have further := induction read
      simp only [List.length_cons]
      omega
  | case5 => cases read
  | case6 content character rest notQuote notBackslash printable induction =>
      have further := induction read
      simp only [List.length_cons]
      omega

end LinearProgram.Document
