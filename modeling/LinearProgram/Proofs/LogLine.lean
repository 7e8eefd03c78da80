import Mathlib
import LinearProgram.Log

/-!
# Reading log lines

A log line is a row of words: its level, the part of the program that writes it, the words of
a message, and fields of a name and a value with an equals sign between them. There is no
white space inside of a word, so a line is cut into its words again, and what was logged can
be read off its text.
-/

namespace LinearProgram

open Decimal

/-! ## White space -/

def Unspaced (characters : List Char) : Prop :=
  ∀ char ∈ characters, char.isWhitespace = false

instance (characters : List Char) : Decidable (Unspaced characters) :=
  decidable_of_iff (characters.all fun char => !char.isWhitespace) (by simp [Unspaced])

@[simp] theorem unspaced_nil : Unspaced [] :=
  nofun

@[simp] theorem unspaced_cons (char : Char) (characters : List Char) :
    Unspaced (char :: characters) ↔ char.isWhitespace = false ∧ Unspaced characters :=
  List.forall_mem_cons

@[simp] theorem unspaced_append (front back : List Char) :
    Unspaced (front ++ back) ↔ Unspaced front ∧ Unspaced back :=
  List.forall_mem_append

theorem digits_unspaced (number : ℕ) : Unspaced (Nat.toDigits 10 number) := by
  intro char member
  have digit := Nat.isDigit_of_mem_toDigits (by decide) (by decide) member
  by_contra space
  have cases : char = ' ' ∨ char = '\t' ∨ char = '\r' ∨ char = '\n' := by
    simpa [Char.isWhitespace, or_iff_not_imp_left] using space
  rcases cases with rfl | rfl | rfl | rfl <;> exact absurd digit (by decide)

theorem lay_unspaced (style : Style) (decimal : Scientific) : Unspaced (style.lay decimal) := by
  have digits : Unspaced decimal.digits := digits_unspaced decimal.coefficient
  have front : ∀ count, Unspaced (decimal.digits.take count) := fun count char member =>
    digits char (List.mem_of_mem_take member)
  have back : ∀ count, Unspaced (decimal.digits.drop count) := fun count char member =>
    digits char (List.mem_of_mem_drop member)
  have tail : Unspaced decimal.digits.tail := fun char member =>
    digits char (List.mem_of_mem_tail member)
  have zeros : ∀ count, Unspaced (List.replicate count '0') := by
    intro count char member
    rw [List.eq_of_mem_replicate member]
    rfl
  unfold Style.lay Style.layPositional Style.layScientific
  dsimp only
  split_ifs <;> simp [digits, front, back, tail, zeros, digits_unspaced]

theorem exact_text_unspaced (value : Float) : Unspaced (Style.exact.text value).toList := by
  unfold Style.text
  split
  · decide
  · split <;> decide
  · next negative significand exponent _ =>
    have laid := lay_unspaced Style.exact (shortest Style.exact.tie significand exponent)
    cases negative <;> simp [Style.sign, laid]

theorem flag_unspaced (flag : Bool) : Unspaced (toString flag).toList := by
  cases flag <;> decide

def Unbroken (text : String) : Prop :=
  '\n' ∉ text.toList

instance (text : String) : Decidable (Unbroken text) :=
  inferInstanceAs (Decidable (_ ∉ _))

/-! ## A line and its text -/

structure LogLine where
  level : String
  target : String
  message : List String
  fields : List (String × String)
deriving DecidableEq, Repr

namespace LogLine

def fieldText (field : String × String) : String :=
  field.1 ++ "=" ++ field.2

def words (line : LogLine) : List String :=
  line.level :: line.target :: (line.message ++ line.fields.map fieldText)

def text (line : LogLine) : String :=
  " ".intercalate line.words

def cut (text : String) : List String :=
  (text.toList.splitOn ' ').map String.ofList

def isField (word : String) : Bool :=
  word.toList.contains '='

/-- The name of a field ends at the first equals sign. -/
def field (word : String) : String × String :=
  (String.ofList (word.toList.takeWhile (· ≠ '=')),
    String.ofList (word.toList.dropWhile (· ≠ '=')).tail)

/-- The message ends where the first field begins. -/
def read? (text : String) : Option LogLine :=
  match cut text with
  | level :: target :: rest =>
      some ⟨level, target, rest.takeWhile fun word => !isField word,
        (rest.dropWhile fun word => !isField word).map field⟩
  | _ => none

/-- An equals sign stands in the fields alone, behind the name. -/
structure Plain (line : LogLine) : Prop where
  unspaced : ∀ word ∈ line.words, Unspaced word.toList
  message : ∀ word ∈ line.message, isField word = false
  names : ∀ found ∈ line.fields, isField found.1 = false

theorem field_text_is_field (found : String × String) : isField (fieldText found) = true := by
  simp [isField, fieldText]

theorem field_of_text {name : String} (plain : isField name = false) (value : String) :
    field (fieldText (name, value)) = (name, value) := by
  have other : ∀ char ∈ name.toList, (decide (char ≠ '=')) = true := by
    intro char member
    have absent : '=' ∉ name.toList := by simpa [isField] using plain
    exact decide_eq_true fun same => absent (same ▸ member)
  have characters : (fieldText (name, value)).toList = name.toList ++ '=' :: value.toList := by
    simp [fieldText]
  rw [field, characters, List.takeWhile_append_of_pos other, List.dropWhile_append_of_pos other]
  simp

/-- Words without blanks in them are cut apart again. -/
theorem cut_intercalate {words : List String} (some : words ≠ [])
    (blankFree : ∀ word ∈ words, ' ' ∉ word.toList) : cut (" ".intercalate words) = words := by
  have blank : " ".toList = [' '] := rfl
  have parts : ∀ part ∈ words.map String.toList, ' ' ∉ part := List.forall_mem_map.mpr blankFree
  have split := List.splitOn_intercalate ' ' parts (by simpa using some)
  rw [cut, String.toList_intercalate, blank, split, List.map_map]
  conv_rhs => rw [← List.map_id words]
  exact List.map_congr_left fun word _ => String.ofList_toList

theorem read_text {line : LogLine} (plain : line.Plain) : read? line.text = some line := by
  have blankFree : ∀ word ∈ line.words, ' ' ∉ word.toList := by
    intro word member blank
    exact absurd (plain.unspaced word member ' ' blank) (by decide)
  have pieces : cut line.text = line.words := cut_intercalate (List.cons_ne_nil _ _) blankFree
  have isMessage : ∀ word ∈ line.message, (!isField word) = true := by
    intro word member
    rw [plain.message word member, Bool.not_false]
  have noMore : (line.fields.map fieldText).takeWhile (fun word => !isField word) = [] := by
    cases line.fields <;> simp [field_text_is_field]
  have all : (line.fields.map fieldText).dropWhile (fun word => !isField word) =
      line.fields.map fieldText := by
    cases line.fields <;> simp [field_text_is_field]
  have fields : (line.fields.map fieldText).map field = line.fields := by
    rw [List.map_map]
    conv_rhs => rw [← List.map_id line.fields]
    exact List.map_congr_left fun found member => field_of_text (plain.names found member) found.2
  rw [read?, pieces, words]
  dsimp only
  rw [List.takeWhile_append_of_pos isMessage, List.dropWhile_append_of_pos isMessage, noMore, all,
    fields, List.append_nil]

/-- A blank is no line break. -/
theorem intercalate_unbroken {words : List String} (each : ∀ word ∈ words, Unbroken word) :
    Unbroken (" ".intercalate words) := by
  induction words with
  | nil => decide
  | cons word words ih =>
      have here : '\n' ∉ word.toList := each word List.mem_cons_self
      have rest : '\n' ∉ (" ".intercalate words).toList := ih fun other member =>
        each other (.tail _ member)
      cases words with
      | nil => simpa [Unbroken] using here
      | cons next words => simpa [Unbroken, String.intercalate_cons_cons, here] using rest

theorem text_unbroken {line : LogLine} (plain : line.Plain) : Unbroken line.text := by
  refine intercalate_unbroken fun word member lineBreak => ?_
  exact absurd (plain.unspaced word member '\n' lineBreak) (by decide)

def iteration? (line : LogLine) : Option ℕ :=
  (line.fields.lookup "iteration").bind String.toNat?

/-- The number of the iteration that a text carries, if it is a line of this kind. -/
def number? (level target : String) (message : List String) (text : String) : Option ℕ :=
  (read? text).bind fun line =>
    if line.level = level ∧ line.target = target ∧ line.message = message then line.iteration?
    else none

def pivotNumber? : String → Option ℕ :=
  number? "TRACE" "barrierlp_solver::simplex:" ["pivot"]

def stepNumber? : String → Option ℕ :=
  number? "DEBUG" "barrierlp_solver::interior_point:" ["interior-point", "iteration"]

def closingNumber? : String → Option ℕ :=
  number? "DEBUG" "barrierlp_solver::interior_point:" ["interior-point", "converged"]

end LogLine

/-! ## The line of an event -/

namespace Event

/-- What the line of an event says. -/
def logged : Event Float → LogLine
  | .pivot iteration column row =>
      ⟨"TRACE", "barrierlp_solver::simplex:", ["pivot"],
        [("iteration", toString iteration), ("pivot_col", toString column),
          ("pivot_row", toString row)]⟩
  | .barrierStep iteration barrier measure target closed =>
      ⟨"DEBUG", "barrierlp_solver::interior_point:", ["interior-point", "iteration"],
        [("iteration", toString iteration), ("t", Style.exact.text barrier),
          ("mu", Style.exact.text measure), ("sigma", Style.exact.text target),
          ("converged", toString closed)]⟩
  | .converged iteration barrier =>
      ⟨"DEBUG", "barrierlp_solver::interior_point:", ["interior-point", "converged"],
        [("iteration", toString iteration), ("barrier", Style.exact.text barrier)]⟩

theorem line_eq_text (event : Event Float) : event.line = event.logged.text := by
  unfold line logged LogLine.text LogLine.words LogLine.fieldText
  cases event with
  | pivot iteration column row =>
      have opening : "barrierlp_solver::simplex: pivot iteration=" =
          "barrierlp_solver::simplex:" ++ (" " ++ ("pivot" ++ (" " ++ ("iteration" ++ "=")))) := by
        decide
      have column : " pivot_col=" = " " ++ ("pivot_col" ++ "=") := by decide
      have row : " pivot_row=" = " " ++ ("pivot_row" ++ "=") := by decide
      unfold text level Level.name
      simp only [ToString.toString, List.map_cons, List.map_nil, List.cons_append,
        List.nil_append, String.intercalate_cons_cons, String.intercalate_singleton,
        String.append_assoc, opening, column, row]
  | barrierStep iteration barrier measure target closed =>
      have opening : "barrierlp_solver::interior_point: interior-point iteration " =
          "barrierlp_solver::interior_point:" ++
            (" " ++ ("interior-point" ++ (" " ++ ("iteration" ++ " ")))) := by
        decide
      have iteration : "iteration=" = "iteration" ++ "=" := by decide
      have barrier : " t=" = " " ++ ("t" ++ "=") := by decide
      have measure : " mu=" = " " ++ ("mu" ++ "=") := by decide
      have target : "sigma=" = "sigma" ++ "=" := by decide
      have closed : " converged=" = " " ++ ("converged" ++ "=") := by decide
      unfold text level Level.name
      simp only [ToString.toString, List.map_cons, List.map_nil, List.cons_append,
        List.nil_append, String.intercalate_cons_cons, String.intercalate_singleton,
        String.append_assoc, opening, iteration, barrier, measure, target, closed]
  | converged iteration barrier =>
      have opening : "barrierlp_solver::interior_point: interior-point converged " =
          "barrierlp_solver::interior_point:" ++
            (" " ++ ("interior-point" ++ (" " ++ ("converged" ++ " ")))) := by
        decide
      have iteration : "iteration=" = "iteration" ++ "=" := by decide
      have barrier : " barrier=" = " " ++ ("barrier" ++ "=") := by decide
      unfold text level Level.name
      simp only [ToString.toString, List.map_cons, List.map_nil, List.cons_append,
        List.nil_append, String.intercalate_cons_cons, String.intercalate_singleton,
        String.append_assoc, opening, iteration, barrier]

theorem logged_plain (event : Event Float) : event.logged.Plain := by
  constructor
  case unspaced =>
    cases event <;>
      simp [logged, LogLine.words, LogLine.fieldText, digits_unspaced, exact_text_unspaced,
        flag_unspaced]
  case message => cases event <;> simp [logged, LogLine.isField]
  case names => cases event <;> simp [logged, LogLine.isField]

/-- What was logged can be read off the line. -/
theorem read_line (event : Event Float) : LogLine.read? event.line = some event.logged := by
  rw [event.line_eq_text]
  exact LogLine.read_text event.logged_plain

/-- The last line of a solve with three iterations. -/
example : LogLine.read? (Event.converged 3 0.125).line =
    some ⟨"DEBUG", "barrierlp_solver::interior_point:", ["interior-point", "converged"],
      [("iteration", "3"), ("barrier", "0.125")]⟩ := by
  decide +kernel

theorem line_unbroken (event : Event Float) : Unbroken event.line := by
  rw [event.line_eq_text]
  exact LogLine.text_unbroken event.logged_plain

section Numbers

variable {α : Type}

def pivotNumber? : Event α → Option ℕ
  | .pivot number .. => some number
  | _ => none

def stepNumber? : Event α → Option ℕ
  | .barrierStep number .. => some number
  | _ => none

def closingNumber? : Event α → Option ℕ
  | .converged number _ => some number
  | _ => none

end Numbers

theorem pivot_number_of_line (event : Event Float) :
    LogLine.pivotNumber? event.line = event.pivotNumber? := by
  rw [LogLine.pivotNumber?, LogLine.number?, event.read_line]
  cases event <;> simp [logged, LogLine.iteration?, pivotNumber?, Nat.toNat?_repr]

theorem step_number_of_line (event : Event Float) :
    LogLine.stepNumber? event.line = event.stepNumber? := by
  rw [LogLine.stepNumber?, LogLine.number?, event.read_line]
  cases event <;> simp [logged, LogLine.iteration?, stepNumber?, Nat.toNat?_repr]

theorem closing_number_of_line (event : Event Float) :
    LogLine.closingNumber? event.line = event.closingNumber? := by
  rw [LogLine.closingNumber?, LogLine.number?, event.read_line]
  cases event <;> simp [logged, LogLine.iteration?, closingNumber?, Nat.toNat?_repr]

end Event

end LinearProgram
