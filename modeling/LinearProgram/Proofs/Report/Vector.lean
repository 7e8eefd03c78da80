import LinearProgram.Solution
import LinearProgram.Proofs.Decimal.Fixed
import LinearProgram.Proofs.Text.Separated

/-!
# Vectors for readers

A vector of finite doubles is written as its entries in order, each of them rounded to four
places, and the entries can be cut out of the text again.
-/

namespace LinearProgram

open Decimal Double

/-! ## Cutting a vector into its entries -/

/-- What stands between the brackets, cut at each comma and blank. Brackets around nothing
have no entry. -/
def entriesOf (text : String) : List String :=
  let inside := String.ofList text.toList.tail.dropLast
  if inside = "" then [] else (inside.split ", ").toList.map (·.copy)

theorem inside_bracketed (entries : List String) :
    String.ofList (bracketed entries).toList.tail.dropLast = String.intercalate ", " entries := by
  have characters : (bracketed entries).toList =
      '[' :: ((String.intercalate ", " entries).toList ++ [']']) := by
    simp [bracketed]
  rw [characters, List.tail_cons, List.dropLast_concat, String.ofList_toList]

theorem intercalate_ne_empty {separator entry : String} (separates : separator ≠ "")
    (inhabited : entry ≠ "") (entries : List String) :
    separator.intercalate (entry :: entries) ≠ "" := by
  cases entries with
  | nil => rwa [String.intercalate_singleton]
  | cons next entries => simp [String.intercalate_cons_cons, separates]

theorem entries_of_bracketed {entries : List String} (inhabited : ∀ entry ∈ entries, entry ≠ "")
    (plain : ∀ entry ∈ entries, ',' ∉ entry.toList) : entriesOf (bracketed entries) = entries := by
  have cut :=
    Text.split_intercalate (show ", " = String.singleton ',' ++ " " by decide) entries plain
  rw [entriesOf, inside_bracketed]
  cases entries with
  | nil => rfl
  | cons entry entries =>
      have present := intercalate_ne_empty (show ", " ≠ "" by decide)
        (inhabited entry List.mem_cons_self) entries
      rw [if_neg present, cut, if_neg (List.cons_ne_nil _ _)]

/-! ## Entries -/

section

variable {places : ℕ} {negative : Bool} {text : List Char}

theorem fixed_form_plain (form : FixedForm places negative text) : text ≠ [] ∧ ',' ∉ text := by
  obtain ⟨isWhole, isFraction, _⟩ := form
  refine ⟨by simp, ?_⟩
  have noDigit {digits : List Char} (all : ∀ digit ∈ digits, digit.isDigit = true) : ',' ∉ digits :=
    fun member => absurd (all ',' member) (by decide)
  have noSign : ',' ∉ Style.sign negative := by cases negative <;> decide
  simp [noSign, noDigit isWhole.1.2, noDigit isFraction]

end

theorem rounded_text_rounds {value : Float} (finite : value.isFinite = true) :
    Rounds 4 value (roundedText value).toList :=
  .of_fixed_text (by decide) ((is_finite_iff value).mp finite)

/-- Of finite doubles, each entry is the decimal with four places nearest to the exact value,
ties going to the even last digit. So it is off by half a unit of the last place at most,
keeps the order of the doubles, and is found again by cutting the text. -/
theorem vector_text_rounded (values : List Float)
    (finite : ∀ value ∈ values, value.isFinite = true) :
    vectorText values = "[" ++ String.intercalate ", " (values.map roundedText) ++ "]" ∧
      (∀ value ∈ values, Rounds 4 value (roundedText value).toList) ∧
      (∀ value ∈ values, ∃ number, number? (roundedText value).toList = some number ∧
        |number - exactValue value| ≤ 1 / 20000) ∧
      (∀ value ∈ values, ∀ other ∈ values, value ≤ other →
        ∃ number further, number? (roundedText value).toList = some number ∧
          number? (roundedText other).toList = some further ∧ number ≤ further) ∧
      entriesOf (vectorText values) = values.map roundedText := by
  have rounds : ∀ value ∈ values, Rounds 4 value (roundedText value).toList :=
    fun value member => rounded_text_rounds (finite value member)
  refine ⟨rfl, rounds, fun value member => ?_, fun value member other member' le => ?_, ?_⟩
  · have error := (rounds value member).error
    norm_num at error
    exact error
  · have ordered := (le_iff_exact_value ((is_finite_iff value).mp (finite value member))
      ((is_finite_iff other).mp (finite other member'))).mp le
    exact (rounds value member).mono (rounds other member') ordered
  · have plain : ∀ entry ∈ values.map roundedText, entry.toList ≠ [] ∧ ',' ∉ entry.toList := by
      intro entry member
      obtain ⟨value, isValue, rfl⟩ := List.mem_map.mp member
      exact fixed_form_plain (rounds value isValue).form
    exact entries_of_bracketed
      (fun entry member none => (plain entry member).1 (by simp [none]))
      fun entry member => (plain entry member).2

/-- Two exact halves, a carry into a new digit, a negative number that is written as zero, and
a number without places. -/
def unevenValues : List Float :=
  [0.03125, -0.09375, 9.99999, -5e-324, 1e22]

def unevenTexts : List String :=
  ["0.0312", "-0.0938", "10.0000", "-0.0000", "10000000000000000000000.0000"]

theorem vector_text_rounded_of_ties :
    (∀ value ∈ unevenValues, value.isFinite = true) ∧
      unevenValues.map roundedText = unevenTexts ∧
      vectorText unevenValues =
        "[0.0312, -0.0938, 10.0000, -0.0000, 10000000000000000000000.0000]" ∧
      (∀ value ∈ unevenValues, Rounds 4 value (roundedText value).toList) ∧
      (∃ number, number? "-0.0000".toList = some number ∧
        |number - exactValue (-5e-324)| ≤ 1 / 20000) ∧
      (∃ number further, number? "-0.0938".toList = some number ∧
        number? "-0.0000".toList = some further ∧ number ≤ further) ∧
      entriesOf (vectorText unevenValues) = unevenTexts := by
  have finite : ∀ value ∈ unevenValues, value.isFinite = true := by decide +kernel
  have texts : unevenValues.map roundedText = unevenTexts := by decide +kernel
  obtain ⟨text, rounds, error, ordered, cut⟩ := vector_text_rounded unevenValues finite
  have isTiny : roundedText (-5e-324) = "-0.0000" := by decide +kernel
  have isHalf : roundedText (-0.09375) = "-0.0938" := by decide +kernel
  have tiny := error (-5e-324) (by simp [unevenValues])
  have less := ordered (-0.09375) (by simp [unevenValues]) (-5e-324) (by simp [unevenValues])
    (by decide +kernel)
  rw [isTiny] at tiny less
  rw [isHalf] at less
  rw [texts] at text cut
  exact ⟨finite, texts, text.trans (by decide +kernel), rounds, tiny, less, cut⟩

end LinearProgram
