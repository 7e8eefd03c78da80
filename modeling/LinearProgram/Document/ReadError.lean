import LinearProgram.Document.Value
import LinearProgram.Text.Quoted

/-!
# Why a document is rejected

The causes for which a problem document is refused, their wording, and their
three kinds: the text ended too soon, it is no JSON, or it is JSON of the wrong
form.
-/

namespace LinearProgram.Document

inductive Field where
  | objective
  | constraints
  | rhs
deriving DecidableEq, Repr

def Field.name : Field → String
  | .objective => "objective"
  | .constraints => "constraints"
  | .rhs => "rhs"

inductive Scope where
  | value
  | list
  | object
  | string
deriving DecidableEq, Repr

def Scope.describe : Scope → String
  | .value => "a value"
  | .list => "a list"
  | .object => "an object"
  | .string => "a string"

inductive Expected where
  | problem
  | sequence
  | number
deriving DecidableEq, Repr

def Expected.describe : Expected → String
  | .problem => "struct LpProblem"
  | .sequence => "a sequence"
  | .number => "f64"

inductive Found where
  | null
  | boolean (value : Bool)
  | integer (value : Int)
  | fraction (value : Float)
  | string (content : List Char)
  | sequence
  | map
deriving DecidableEq, Repr

def Found.describe : Found → String
  | .null => "null"
  | .boolean value => s!"boolean `{value}`"
  | .integer value => s!"integer `{value}`"
  | .fraction value => s!"floating point `{numberStyle.text value}`"
  | .string content => s!"string {Text.quoted content}"
  | .sequence => "sequence"
  | .map => "map"

inductive ReadError where
  | ended (scope : Scope)
  | expectedValue
  | expectedIdent
  | expectedColon
  | expectedCommaOrBracket
  | expectedCommaOrBrace
  | keyNotString
  | trailingComma
  | trailingCharacters
  | invalidNumber
  | numberOutOfRange
  | invalidEscape
  | controlCharacter
  | loneSurrogate
  | unfinishedSurrogate
  | wrongType (found : Found) (expected : Expected)
  | wrongLength (found : Nat)
  | missingField (field : Field)
  | duplicateField (field : Field)
deriving DecidableEq, Repr

inductive Category where
  | ended
  | malformed
  | unsuitable
deriving DecidableEq, Repr

namespace ReadError

def category : ReadError → Category
  | .ended _ => .ended
  | .wrongType .. | .wrongLength _ | .missingField _ | .duplicateField _ => .unsuitable
  | _ => .malformed

/-- The message without the position in the document, ` at line L column C`, that stands at
its end. -/
def message : ReadError → String
  | .ended scope => s!"EOF while parsing {scope.describe}"
  | .expectedValue => "expected value"
  | .expectedIdent => "expected ident"
  | .expectedColon => "expected `:`"
  | .expectedCommaOrBracket => "expected `,` or `]`"
  | .expectedCommaOrBrace => "expected `,` or `\x7d`"
  | .keyNotString => "key must be a string"
  | .trailingComma => "trailing comma"
  | .trailingCharacters => "trailing characters"
  | .invalidNumber => "invalid number"
  | .numberOutOfRange => "number out of range"
  | .invalidEscape => "invalid escape"
  | .controlCharacter =>
      "control character (\\u0000-\\u001F) found while parsing a string"
  | .loneSurrogate => "lone leading surrogate in hex escape"
  | .unfinishedSurrogate => "unexpected end of hex escape"
  | .wrongType found expected => s!"invalid type: {found.describe}, expected {expected.describe}"
  | .wrongLength found => s!"invalid length {found}, expected struct LpProblem with 3 elements"
  | .missingField field => s!"missing field `{field.name}`"
  | .duplicateField field => s!"duplicate field `{field.name}`"

end ReadError

end LinearProgram.Document
