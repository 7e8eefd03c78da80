import LinearProgram.Proofs.Document.Grammar

/-!
# Scanning well-formed tokens

A number or a string that is written by the grammar is scanned to its end and no
further, whatever follows it.
-/

namespace LinearProgram.Document

open Decimal

/-! ## Blanks -/

theorem drop_blank_gap (gap : Gap) (text : List Char) :
    dropBlank (gap.text ++ text) = dropBlank text :=
  List.dropWhile_append_of_pos gap.blank

theorem drop_blank_cons {first : Char} (ink : isBlank first = false) (rest : List Char) :
    dropBlank (first :: rest) = first :: rest := by
  simp [dropBlank, ink]

theorem drop_blank_gap_cons (gap : Gap) {first : Char} (ink : isBlank first = false)
    (rest : List Char) : dropBlank (gap.text ++ first :: rest) = first :: rest := by
  rw [drop_blank_gap, drop_blank_cons ink]

theorem drop_blank_drop_blank (text : List Char) : dropBlank (dropBlank text) = dropBlank text := by
  induction text with
  | nil => rfl
  | cons first rest induction =>
      cases ink : isBlank first with
      | false => rw [drop_blank_cons ink, drop_blank_cons ink]
      | true =>
          have dropped : dropBlank (first :: rest) = dropBlank rest := by simp [dropBlank, ink]
          rw [dropped, induction]

theorem drop_blank_eq_nil_iff {text : List Char} :
    dropBlank text = [] ↔ ∀ character ∈ text, isBlank character = true := by
  induction text with
  | nil => simp [dropBlank]
  | cons first rest induction =>
      cases ink : isBlank first with
      | false => simp [drop_blank_cons ink, ink]
      | true =>
          have dropped : dropBlank (first :: rest) = dropBlank rest := by simp [dropBlank, ink]
          rw [dropped, induction]
          simp [ink]

/-! ## Where a number ends -/

/-- No digit stands in front. -/
def NoDigit (text : List Char) : Prop :=
  ∀ first ∈ text.head?, first.isDigit = false

/-- A number that stands before this text ends there. -/
def Ends (text : List Char) : Prop :=
  NoDigit text ∧ ∀ first ∈ text.head?, first ≠ '.' ∧ first ≠ 'e' ∧ first ≠ 'E'

theorem ends_nil : Ends [] :=
  ⟨nofun, nofun⟩

theorem ends_cons {first : Char} (noDigit : first.isDigit = false)
    (noMark : first ≠ '.' ∧ first ≠ 'e' ∧ first ≠ 'E') (rest : List Char) :
    Ends (first :: rest) := by
  constructor <;> intro other same <;> cases same <;> assumption

theorem ends_comma (rest : List Char) : Ends (',' :: rest) :=
  ends_cons rfl (by decide) rest

theorem ends_closing (frame : Frame) (rest : List Char) : Ends (frame.closing :: rest) := by
  cases frame <;> exact ends_cons rfl (by decide) rest

theorem ends_bracket (rest : List Char) : Ends (']' :: rest) :=
  ends_closing .list rest

theorem ends_brace (rest : List Char) : Ends ('\x7d' :: rest) :=
  ends_closing .object rest

theorem ends_gap (gap : Gap) {rest : List Char} (ends : Ends rest) : Ends (gap.text ++ rest) := by
  obtain ⟨text, blank⟩ := gap
  cases text with
  | nil => exact ends
  | cons first text =>
      have isBlank := blank first List.mem_cons_self
      simp only [Document.isBlank, Bool.or_eq_true, beq_iff_eq] at isBlank
      rcases isBlank with ((rfl | rfl) | rfl) | rfl <;> exact ends_cons rfl (by decide) _

/-! ## Numbers -/

theorem span_digits_append {digits rest : List Char} (all : ∀ digit ∈ digits, digit.isDigit = true)
    (stops : NoDigit rest) : spanDigits (digits ++ rest) = (digits, rest) := by
  have none : rest.takeWhile Char.isDigit = [] ∧ rest.dropWhile Char.isDigit = rest := by
    cases rest with
    | nil => exact ⟨rfl, rfl⟩
    | cons first rest => simp [stops first rfl]
  simp [spanDigits, List.takeWhile_append_of_pos all, List.dropWhile_append_of_pos all, none]

theorem scan_digits_append {digits rest : List Char} (run : Digits digits) (stops : NoDigit rest) :
    scanDigits (digits ++ rest) = .ok (digits, rest) := by
  simp [scanDigits, span_digits_append run.2 stops, run.1]

theorem scan_whole_append {digits rest : List Char} (whole : WholeForm digits)
    (stops : NoDigit rest) : scanWhole (digits ++ rest) = .ok (digits, rest) := by
  simp only [scanWhole, scan_digits_append whole.1 stops]
  exact if_neg fun zero => zero.2 (whole.2 zero.1)

theorem scan_fraction_append {fraction rest : List Char} (form : FractionForm fraction)
    (stops : NoDigit rest) (noPoint : ∀ first ∈ rest.head?, first ≠ '.') :
    scanFraction (fraction ++ rest) = .ok (fraction.drop 1, rest) := by
  cases form with
  | present run => exact scan_digits_append run stops
  | absent =>
      unfold scanFraction
      split
      · rename_i same
        exact absurd rfl (noPoint '.' (by simp [show rest = _ from same]))
      · rfl

theorem span_sign_append {sign digits : List Char}
    (isSign : sign = [] ∨ sign = ['+'] ∨ sign = ['-']) (run : Digits digits) (rest : List Char) :
    spanSign (sign ++ (digits ++ rest)) = (sign == ['-'], digits ++ rest) := by
  rcases isSign with rfl | rfl | rfl
  · obtain ⟨first, tail, rfl⟩ := List.exists_cons_of_ne_nil run.1
    have isDigit := run.2 first List.mem_cons_self
    simp only [List.nil_append, List.cons_append]
    unfold spanSign
    split
    · rename_i same
      cases same
      cases isDigit
    · rename_i same
      cases same
      cases isDigit
    · rfl
  · rfl
  · rfl

theorem scan_exponent_present {mark : Char} {sign digits rest : List Char}
    (isMark : mark = 'e' ∨ mark = 'E') (isSign : sign = [] ∨ sign = ['+'] ∨ sign = ['-'])
    (run : Digits digits) (stops : NoDigit rest) :
    scanExponent (mark :: (sign ++ digits) ++ rest) = .ok (some (sign == ['-'], digits), rest) := by
  simp only [List.cons_append, List.append_assoc, scanExponent, if_pos isMark,
    span_sign_append isSign run, scan_digits_append run stops]

theorem scan_exponent_append {exponent : List Char} (form : ExponentForm exponent) :
    ∃ written, ∀ rest, Ends rest → scanExponent (exponent ++ rest) = .ok (written, rest) := by
  cases form with
  | present isMark isSign run =>
      exact ⟨_, fun rest ends => scan_exponent_present isMark isSign run ends.1⟩
  | absent =>
      refine ⟨none, fun rest ends => ?_⟩
      cases rest with
      | nil => rfl
      | cons first rest =>
          have noMark := (ends.2 first rfl).2
          exact if_neg (not_or.mpr noMark)

theorem exponent_stops {exponent rest : List Char} (form : ExponentForm exponent)
    (ends : Ends rest) :
    NoDigit (exponent ++ rest) ∧ ∀ first ∈ (exponent ++ rest).head?, first ≠ '.' := by
  cases form with
  | absent => exact ⟨ends.1, fun first same => (ends.2 first same).1⟩
  | present isMark =>
      constructor <;> intro first same <;> cases same <;>
        rcases isMark with rfl | rfl <;> decide

theorem fraction_stops {fraction rest : List Char} (form : FractionForm fraction)
    (stops : NoDigit rest) : NoDigit (fraction ++ rest) := by
  cases form with
  | absent => exact stops
  | present =>
      intro first same
      cases same
      rfl

theorem scan_minus_append {sign whole : List Char} (isSign : sign = [] ∨ sign = ['-'])
    (isWhole : WholeForm whole) (rest : List Char) :
    scanMinus (sign ++ (whole ++ rest)) = (sign == ['-'], whole ++ rest) := by
  rcases isSign with rfl | rfl
  · obtain ⟨first, tail, rfl⟩ := List.exists_cons_of_ne_nil isWhole.1.1
    have isDigit := isWhole.1.2 first List.mem_cons_self
    simp only [List.nil_append, List.cons_append]
    unfold scanMinus
    split
    · rename_i same
      cases same
      cases isDigit
    · rfl
  · rfl

/-- The parts of a number text come back as they were put together. -/
theorem scan_number_parts {sign whole fraction exponent : List Char}
    {written : Option (Bool × List Char)} {rest : List Char} (isSign : sign = [] ∨ sign = ['-'])
    (isWhole : WholeForm whole) (isFraction : FractionForm fraction)
    (isExponent : ExponentForm exponent) (ends : Ends rest)
    (scanned : scanExponent (exponent ++ rest) = .ok (written, rest)) :
    scanNumber (sign ++ (whole ++ (fraction ++ exponent)) ++ rest) =
      .ok (⟨sign == ['-'], whole, fraction.drop 1, written⟩, rest) := by
  obtain ⟨noDigit, noPoint⟩ := exponent_stops isExponent ends
  have wholeScanned := scan_whole_append isWhole (fraction_stops isFraction noDigit)
  have fractionScanned := scan_fraction_append isFraction noDigit noPoint
  simp only [List.append_assoc, scanNumber, scan_minus_append isSign isWhole, wholeScanned,
    fractionScanned, scanned, bind, Except.bind, pure, Except.pure]

theorem scan_number_append {text : List Char} (form : NumberForm text) :
    ∃ number, ∀ rest, Ends rest → scanNumber (text ++ rest) = .ok (number, rest) := by
  cases form with
  | mk isSign isWhole isFraction isExponent =>
      obtain ⟨written, scanned⟩ := scan_exponent_append isExponent
      exact ⟨_, fun rest ends =>
        scan_number_parts isSign isWhole isFraction isExponent ends (scanned rest ends)⟩

theorem read_number_append {text : List Char} (form : NumberForm text) :
    ∃ outcome : Except ReadError Number, ∀ rest, Ends rest →
      readNumber (text ++ rest) = outcome.map (·, rest) := by
  obtain ⟨number, scanned⟩ := scan_number_append form
  exact ⟨number.number, fun rest ends => by simp [readNumber, scanned rest ends]⟩

theorem skip_number_append {text rest : List Char} (form : NumberForm text) (ends : Ends rest) :
    skipNumber (text ++ rest) = .ok rest := by
  obtain ⟨number, scanned⟩ := scan_number_append form
  simp [skipNumber, scanned rest ends]

/-- A number starts with a minus or a digit. -/
theorem number_head {text : List Char} (form : NumberForm text) :
    ∃ first rest, text = first :: rest ∧ (first = '-' ∨ first.isDigit = true) := by
  cases form with
  | mk isSign isWhole =>
      rcases isSign with rfl | rfl
      · obtain ⟨first, tail, rfl⟩ := List.exists_cons_of_ne_nil isWhole.1.1
        exact ⟨first, _, rfl, .inr (isWhole.1.2 first List.mem_cons_self)⟩
      · exact ⟨'-', _, rfl, .inl rfl⟩

/-! ## Strings -/

theorem read_hex_append {digits : List Char} {unit : Nat} (form : UnitForm digits unit)
    (rest : List Char) : readHex (digits ++ rest) = .ok (unit, rest) := by
  obtain ⟨length, values, read, rfl⟩ := form
  match digits, length with
  | [first, second, third, fourth], _ =>
      simp only [List.cons_append, List.nil_append, readHex, read]

section

variable (escape : Reader Char) (content : List Char)

theorem scan_string_quote (rest : List Char) :
    scanString escape content ('"' :: rest) = .ok (content.reverse, rest) := by
  rw [scanString, if_pos rfl]

theorem scan_string_plain {character : Char} (isPlain : IsPlain character) (rest : List Char) :
    scanString escape content (character :: rest) =
      scanString escape (character :: content) rest := by
  rw [scanString, if_neg isPlain.1, if_neg isPlain.2.1, if_neg (Nat.not_lt.mpr isPlain.2.2)]

theorem scan_string_escaped {escape : Reader Char} {text after : List Char} {decoded : Char}
    (escaped : escape.read text = .ok (decoded, after)) :
    scanString escape content ('\\' :: text) = scanString escape (decoded :: content) after := by
  rw [scanString, if_neg (by decide), if_pos rfl]
  split
  · rename_i failed
    rw [escaped] at failed
    cases failed
  · rename_i found
    rw [escaped] at found
    cases found
    rfl

end

theorem read_escape_letter {β : Type} (unit : List Char → Except ReadError (β × List Char))
    (plain : Char → β) {letter character : Char} (stands : unescape? letter = some character)
    (rest : List Char) :
    readEscape unit plain (letter :: rest) = .ok (plain character, rest) := by
  have notUnit : letter ≠ 'u' := by
    rintro rfl
    cases stands
  simp [readEscape, notUnit, stands]

theorem strict_escape_letter {letter character : Char} (stands : unescape? letter = some character)
    (rest : List Char) : strictEscape.read (letter :: rest) = .ok (character, rest) :=
  read_escape_letter _ id stands rest

theorem loose_escape_letter {letter character : Char} (stands : unescape? letter = some character)
    (rest : List Char) : looseEscape.read (letter :: rest) = .ok (character, rest) := by
  simp only [looseEscape, read_escape_letter _ _ stands, id]

theorem loose_escape_unit {digits : List Char} {unit : Nat} (form : UnitForm digits unit)
    (rest : List Char) : looseEscape.read ('u' :: (digits ++ rest)) = .ok (' ', rest) := by
  change (readHex (digits ++ rest)).map _ = _
  rw [read_hex_append form]
  rfl

theorem strict_escape_unit {digits : List Char} {unit : Nat} (form : UnitForm digits unit)
    (notLeading : isLeadingSurrogate unit = false) (notTrailing : isTrailingSurrogate unit = false)
    (rest : List Char) :
    strictEscape.read ('u' :: (digits ++ rest)) = .ok (Char.ofNat unit, rest) := by
  change readCodeUnits (digits ++ rest) = _
  simp [readCodeUnits, read_hex_append form, notLeading, notTrailing]

/-- No code unit is both halves of a pair. -/
theorem leading_not_trailing {unit : Nat} (isLeading : isLeadingSurrogate unit = true) :
    isTrailingSurrogate unit = false := by
  simp only [isLeadingSurrogate, isTrailingSurrogate, decide_eq_true_eq,
    decide_eq_false_iff_not] at *
  omega

theorem strict_escape_pair {digits others : List Char} {leading trailing : Nat}
    (first : UnitForm digits leading) (second : UnitForm others trailing)
    (isLeading : isLeadingSurrogate leading = true)
    (isTrailing : isTrailingSurrogate trailing = true) (rest : List Char) :
    strictEscape.read ('u' :: (digits ++ '\\' :: 'u' :: (others ++ rest))) =
      .ok (combineSurrogates leading trailing, rest) := by
  change readCodeUnits (digits ++ '\\' :: 'u' :: (others ++ rest)) = _
  simp [readCodeUnits, readTrailing, read_hex_append first, read_hex_append second, isLeading,
    leading_not_trailing isLeading, isTrailing]

/-- Where the content matters, a string is read as what it spells. -/
theorem scan_string_spells {text spelled : List Char} (spells : Spells text spelled)
    (content rest : List Char) :
    scanString strictEscape content (text ++ '"' :: rest) =
      .ok (content.reverse ++ spelled, rest) := by
  induction spells generalizing content with
  | nil => simp [scan_string_quote]
  | plain isPlain _ induction =>
      rw [List.cons_append, scan_string_plain _ _ isPlain, induction]
      simp
  | letter stands _ induction =>
      rw [List.cons_append, List.cons_append,
        scan_string_escaped content (strict_escape_letter stands _), induction]
      simp
  | unit form notLeading notTrailing _ induction =>
      rw [List.cons_append, List.cons_append, List.append_assoc,
        scan_string_escaped content (strict_escape_unit form notLeading notTrailing _), induction]
      simp
  | pair first second isLeading isTrailing _ induction =>
      have escaped := strict_escape_pair first second isLeading isTrailing
      simp only [List.cons_append, List.append_assoc]
      rw [scan_string_escaped content (escaped _), induction]
      simp

/-- Where it does not, any well-formed string is passed over. -/
theorem scan_string_form {text : List Char} (form : StringForm text) (content rest : List Char) :
    ∃ found, scanString looseEscape content (text ++ '"' :: rest) = .ok (found, rest) := by
  induction form generalizing content with
  | nil => exact ⟨_, scan_string_quote _ _ _⟩
  | plain isPlain _ induction =>
      rw [List.cons_append, scan_string_plain _ _ isPlain]
      exact induction _
  | letter stands _ induction =>
      rw [List.cons_append, List.cons_append,
        scan_string_escaped content (loose_escape_letter stands _)]
      exact induction _
  | unit form _ induction =>
      rw [List.cons_append, List.cons_append, List.append_assoc,
        scan_string_escaped content (loose_escape_unit form _)]
      exact induction _

end LinearProgram.Document
