import LinearProgram.Document.Problem

/-!
# The forms of a problem document

How texts are made, without a word on how they are read. `Written` makes any JSON value;
`Listed` and `FieldWritten` make the values of a problem; `ObjectWritten` and `ArrayWritten`
make the two forms of a document. Blanks may stand between all tokens.
-/

namespace LinearProgram.Document

/-- What may stand between two tokens. -/
structure Gap where
  text : List Char
  blank : ∀ character ∈ text, isBlank character = true

namespace Gap

def none : Gap := ⟨[], nofun⟩

def of (text : List Char) (blank : text.all isBlank = true) : Gap :=
  ⟨text, List.all_eq_true.mp blank⟩

end Gap

/-! ## Numbers -/

def Digits (text : List Char) : Prop :=
  text ≠ [] ∧ ∀ digit ∈ text, digit.isDigit = true

/-- A zero stands alone before the point. -/
def WholeForm (text : List Char) : Prop :=
  Digits text ∧ (text.head? = some '0' → text.length = 1)

inductive FractionForm : List Char → Prop
  | absent : FractionForm []
  | present {digits : List Char} (run : Digits digits) : FractionForm ('.' :: digits)

inductive ExponentForm : List Char → Prop
  | absent : ExponentForm []
  | present {mark : Char} {sign digits : List Char} (isMark : mark = 'e' ∨ mark = 'E')
      (isSign : sign = [] ∨ sign = ['+'] ∨ sign = ['-']) (run : Digits digits) :
      ExponentForm (mark :: (sign ++ digits))

/-- A number text, of any size and with any number of digits. -/
inductive NumberForm : List Char → Prop
  | mk {sign whole fraction exponent : List Char} (isSign : sign = [] ∨ sign = ['-'])
      (isWhole : WholeForm whole) (isFraction : FractionForm fraction)
      (isExponent : ExponentForm exponent) :
      NumberForm (sign ++ (whole ++ (fraction ++ exponent)))

/-! ## Strings -/

/-- A character that stands for itself between quotes. -/
def IsPlain (character : Char) : Prop :=
  character ≠ '"' ∧ character ≠ '\\' ∧ 0x20 ≤ character.toNat

instance : DecidablePred IsPlain := fun _ => inferInstanceAs (Decidable (_ ∧ _ ∧ _))

/-- Four hexadecimal digits for a code unit. -/
def UnitForm (digits : List Char) (unit : Nat) : Prop :=
  digits.length = 4 ∧ ∃ values, digits.mapM hexDigit? = some values ∧
    values.foldl (fun value digit => value * 16 + digit) 0 = unit

/-- What may stand between quotes: code units need not come in pairs. -/
inductive StringForm : List Char → Prop
  | nil : StringForm []
  | plain {character : Char} {rest : List Char} (isPlain : IsPlain character)
      (further : StringForm rest) : StringForm (character :: rest)
  | letter {letter character : Char} {rest : List Char}
      (stands : unescape? letter = some character) (further : StringForm rest) :
      StringForm ('\\' :: letter :: rest)
  | unit {digits rest : List Char} {unit : Nat} (form : UnitForm digits unit)
      (further : StringForm rest) : StringForm ('\\' :: 'u' :: (digits ++ rest))

/-- A text between quotes, and the characters that it stands for. -/
inductive Spells : List Char → List Char → Prop
  | nil : Spells [] []
  | plain {character : Char} {rest content : List Char} (isPlain : IsPlain character)
      (further : Spells rest content) : Spells (character :: rest) (character :: content)
  | letter {letter character : Char} {rest content : List Char}
      (stands : unescape? letter = some character) (further : Spells rest content) :
      Spells ('\\' :: letter :: rest) (character :: content)
  | unit {digits rest content : List Char} {unit : Nat} (form : UnitForm digits unit)
      (notLeading : isLeadingSurrogate unit = false)
      (notTrailing : isTrailingSurrogate unit = false) (further : Spells rest content) :
      Spells ('\\' :: 'u' :: (digits ++ rest)) (Char.ofNat unit :: content)
  | pair {digits others rest content : List Char} {leading trailing : Nat}
      (first : UnitForm digits leading) (second : UnitForm others trailing)
      (isLeading : isLeadingSurrogate leading = true)
      (isTrailing : isTrailingSurrogate trailing = true) (further : Spells rest content) :
      Spells ('\\' :: 'u' :: (digits ++ '\\' :: 'u' :: (others ++ rest)))
        (combineSurrogates leading trailing :: content)

/-! ## Values -/

/-- A key between quotes, a colon and a value, with what stands around them. -/
structure MemberGaps where
  beforeKey : Gap
  beforeColon : Gap
  beforeValue : Gap
  afterValue : Gap

def MemberGaps.none : MemberGaps :=
  ⟨.none, .none, .none, .none⟩

def MemberGaps.lay (gaps : MemberGaps) (key value rest : List Char) : List Char :=
  gaps.beforeKey.text ++ '"' :: (key ++ '"' :: (gaps.beforeColon.text ++ ':' ::
    (gaps.beforeValue.text ++ (value ++ (gaps.afterValue.text ++ rest)))))

def Frame.opening : Frame → Char
  | .list => '['
  | .object => '\x7b'

/-- A text is a value, or what a list or an object holds between its brackets. -/
inductive Part where
  | value
  | content (frame : Frame)

/-- Any well-formed value, nested to any depth. -/
inductive Written : Part → List Char → Prop
  | null : Written .value ['n', 'u', 'l', 'l']
  | true : Written .value ['t', 'r', 'u', 'e']
  | false : Written .value ['f', 'a', 'l', 's', 'e']
  | number {text : List Char} (form : NumberForm text) : Written .value text
  | string {text : List Char} (form : StringForm text) :
      Written .value ('"' :: (text ++ ['"']))
  | empty (frame : Frame) (gap : Gap) :
      Written .value (frame.opening :: (gap.text ++ [frame.closing]))
  | filled {frame : Frame} {text : List Char} (content : Written (.content frame) text) :
      Written .value (frame.opening :: (text ++ [frame.closing]))
  | lastItem (before after : Gap) {text : List Char} (value : Written .value text) :
      Written (.content .list) (before.text ++ (text ++ after.text))
  | item (before after : Gap) {text rest : List Char} (value : Written .value text)
      (others : Written (.content .list) rest) :
      Written (.content .list) (before.text ++ (text ++ (after.text ++ ',' :: rest)))
  | lastMember (gaps : MemberGaps) {key text : List Char} (form : StringForm key)
      (value : Written .value text) : Written (.content .object) (gaps.lay key text [])
  | member (gaps : MemberGaps) {key text rest : List Char} (form : StringForm key)
      (value : Written .value text) (others : Written (.content .object) rest) :
      Written (.content .object) (gaps.lay key text (',' :: rest))

/-! ## The values of a problem -/

/-- A number text that the reader of numbers accepts, and its double. -/
structure NumberWritten (text : List Char) (value : Float) : Prop where
  form : NumberForm text
  accepted : ∃ number, readNumber text = .ok (number, []) ∧ number.toFloat = value

/-- The items of a list between its brackets, at least one. -/
inductive Listed {β : Type} (item : List Char → β → Prop) : List Char → List β → Prop
  | last (before after : Gap) {text : List Char} {value : β} (own : item text value) :
      Listed item (before.text ++ (text ++ after.text)) [value]
  | more (before after : Gap) {text rest : List Char} {value : β} {values : List β}
      (own : item text value) (others : Listed item rest values) :
      Listed item (before.text ++ (text ++ (after.text ++ ',' :: rest))) (value :: values)

inductive ListWritten {β : Type} (item : List Char → β → Prop) : List Char → List β → Prop
  | empty (gap : Gap) : ListWritten item ('[' :: (gap.text ++ [']'])) []
  | filled {text : List Char} {values : List β} (items : Listed item text values) :
      ListWritten item ('[' :: (text ++ [']'])) values

def VectorWritten : List Char → List Float → Prop :=
  ListWritten NumberWritten

def MatrixWritten : List Char → List (List Float) → Prop :=
  ListWritten VectorWritten

/-- A text for one of the three parts of a problem. -/
def FieldWritten (problem : Problem Float) (text : List Char) : Field → Prop
  | .objective => VectorWritten text problem.objective
  | .constraints => MatrixWritten text problem.constraints
  | .rhs => VectorWritten text problem.rhs

/-! ## Documents -/

/-- A member of an object: the characters of its key, and the text of its value. -/
structure Member where
  key : List Char
  value : List Char

/-- The field that a member is for, if its key is a known one. -/
def Member.field? (member : Member) : Option Field :=
  Field.ofName? member.key

inductive MembersWritten : List Member → List Char → Prop
  | last (gaps : MemberGaps) {member : Member} {key : List Char} (spelled : Spells key member.key) :
      MembersWritten [member] (gaps.lay key member.value [])
  | more (gaps : MemberGaps) {member : Member} {members : List Member} {key rest : List Char}
      (spelled : Spells key member.key) (others : MembersWritten members rest) :
      MembersWritten (member :: members) (gaps.lay key member.value (',' :: rest))

/-- A document in the object form, with these members in this order. -/
inductive ObjectWritten : List Member → List Char → Prop
  | empty (gap : Gap) : ObjectWritten [] ('\x7b' :: (gap.text ++ ['\x7d']))
  | filled {members : List Member} {text : List Char} (written : MembersWritten members text) :
      ObjectWritten members ('\x7b' :: (text ++ ['\x7d']))

/-- A document in the list form. -/
inductive ArrayWritten (problem : Problem Float) : List Char → Prop
  | mk (before₁ after₁ before₂ after₂ before₃ after₃ : Gap)
      {objective constraints rhs : List Char}
      (first : FieldWritten problem objective .objective)
      (second : FieldWritten problem constraints .constraints)
      (third : FieldWritten problem rhs .rhs) :
      ArrayWritten problem ('[' :: (before₁.text ++ (objective ++ (after₁.text ++ ',' ::
        (before₂.text ++ (constraints ++ (after₂.text ++ ',' ::
          (before₃.text ++ (rhs ++ (after₃.text ++ [']']))))))))))

/-- How often a field occurs among the members. -/
def occurrences (members : List Member) (field : Field) : Nat :=
  (members.filterMap Member.field?).count field

/-- A member holds what the problem has for its field, or anything if it is for none. -/
def Member.Suits (problem : Problem Float) (member : Member) : Prop :=
  match member.field? with
  | some field => FieldWritten problem member.value field
  | none => Written .value member.value

end LinearProgram.Document
