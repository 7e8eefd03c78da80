import LinearProgram.Proofs.Document.Layout
import LinearProgram.Proofs.Document.NumberText
import LinearProgram.Proofs.Rounding.Scaling
import LinearProgram.Proofs.Rounding.Signs

/-!
# A problem that was written and read again

Its lists come back with the same lengths and its entries with the same signs. An entry of
few digits comes back as it was; any other may be off by as many as two doubles, since the
reader rounds the digits, the power of ten and their product one after the other.
-/

namespace LinearProgram.Document

open Decimal Double

/-! ## Entries -/

/-- The decimal that is written for the double of a rank. -/
def decimalOf (place : ℕ) : Scientific :=
  shortest numberStyle.tie (significandAt place) ((levelAt place : ℤ) - 1074)

/-- The digits fit a double, and so does the power of ten. -/
def IsShort (value : Float) : Prop :=
  (gathered (decimalOf (magnitude value))).1 < 2 ^ 53 ∧
    (gathered (decimalOf (magnitude value))).2.natAbs ≤ 22

instance (value : Float) : Decidable (IsShort value) :=
  inferInstanceAs (Decidable (_ ∧ _))

/-- The zeros of both signs are short. -/
theorem short_of_zero {value : Float} (zero : magnitude value = 0) : IsShort value := by
  rw [IsShort, zero]
  decide +kernel

/-- What is read of the digits and the exponent that are written. -/
def scaledBack (place : ℕ) : Except ReadError Float :=
  scaled (gathered (decimalOf place)).1 (gathered (decimalOf place)).2

theorem spelled_back {place : ℕ} (finite : place < top) :
    Spelled (numberStyle.lay (decimalOf place)) (gathered (decimalOf place)).1
      (gathered (decimalOf place)).2 := by
  rcases Nat.eq_zero_or_pos place with rfl | positive
  · exact @spelled_fraction ['0'] ['0'] _ _ ⟨⟨List.cons_ne_nil _ _, zeros_digits 1⟩, fun _ => rfl⟩
      ⟨List.cons_ne_nil _ _, zeros_digits 1⟩ rfl rfl (by decide)
  · have denotes := shortest_denotes numberStyle.tie positive finite
    exact (gathers denotes.positive denotes.short denotes.lower denotes.upper).spelled

/-- Zero, and the two greatest doubles, above which there is no room. -/
theorem scaled_ends : ∀ place ∈ [0, top - 2, top - 1], (scaledBack place).toOption.any
    (fun again => decide (rank again < top ∧ rank again ≤ place + 2 ∧ place ≤ rank again + 2 ∧
      ((gathered (decimalOf place)).1 < 2 ^ 53 → rank again = place))) = true := by
  decide +kernel

theorem scaled_back {place : ℕ} (finite : place < top) :
    ∃ again, scaledBack place = .ok again ∧ Reaches ((gathered (decimalOf place)).1 < 2 ^ 53 ∧
      (gathered (decimalOf place)).2.natAbs ≤ 22) again place := by
  by_cases ordinary : 0 < place ∧ place + 2 < top
  · have denotes := shortest_denotes numberStyle.tie ordinary.1 finite
    have gathers := gathers denotes.positive denotes.short denotes.lower denotes.upper
    have nearest := denotes.nearest
    rw [← gathers.value] at nearest
    exact scaled_near gathers.positive gathers.small gathers.lower gathers.upper nearest ordinary.2
  · -- Zero has no leading digit, and two ranks beyond the greatest doubles is infinity.
    have member : place ∈ [0, top - 2, top - 1] := by
      simp only [List.mem_cons, List.not_mem_nil, or_false]
      omega
    have checked := scaled_ends place member
    cases isScaled : scaledBack place with
    | error cause =>
        rw [isScaled] at checked
        cases checked
    | ok again =>
        rw [isScaled] at checked
        obtain ⟨isFinite, above, below, exact⟩ := of_decide_eq_true checked
        exact ⟨again, rfl, isFinite, ⟨above, below⟩, fun short => exact short.1⟩

/-- How a finite double comes back. -/
structure ReadBack (value again : Float) : Prop where
  finite : again.isFinite = true
  sign : isNegative again = isNegative value
  near : Beside (magnitude again) (magnitude value)
  exact : IsShort value → again = value

theorem text_finite {value : Float} (finite : magnitude value < top) :
    (numberStyle.text value).toList =
      Style.sign (isNegative value) ++ numberStyle.lay (decimalOf (magnitude value)) := by
  rw [Style.text, of_float_finite finite]
  exact String.toList_ofList

theorem number_back {value : Float} (finite : value.isFinite = true) :
    ∃ again, NumberWritten (numberStyle.text value).toList again ∧ ReadBack value again := by
  have inside := (is_finite_iff value).mp finite
  have spelled := spelled_back inside
  obtain ⟨again, isScaled, reaches⟩ := scaled_back inside
  obtain ⟨sign, rank⟩ := parts_of_lt reaches.finite (isNegative value)
  refine ⟨if isNegative value then -again else again, ⟨?_, ?_⟩, ?_, sign, ?_, fun short => ?_⟩
  · rw [text_finite inside]
    exact spelled.form _
  · have read := spelled.read (isNegative value)
    change _ = (scaledBack (magnitude value)).map _ at read
    rw [isScaled] at read
    rw [text_finite inside, read]
    exact ⟨_, rfl, rfl⟩
  · rw [is_finite_iff, rank]
    exact reaches.finite
  · rw [rank]
    exact reaches.beside
  · exact eq_of_parts sign (rank.trans (reaches.exact short))

/-! ## Lists -/

theorem listed_items {β : Type} {item : List Char → β → Prop} {texts : List (List Char)}
    {values : List β} (own : List.Forall₂ item texts values) (some : texts ≠ []) :
    Listed item (List.intercalate [','] texts) values := by
  induction own with
  | nil => exact absurd rfl some
  | @cons text value texts values first others induction =>
      cases others with
      | nil =>
          have whole : Gap.none.text ++ (text ++ Gap.none.text) = text := List.append_nil text
          rw [List.intercalate_singleton, ← whole]
          exact .last .none .none first
      | cons second others =>
          rw [List.intercalate_cons_cons, List.append_assoc]
          exact .more .none .none first (induction (List.cons_ne_nil _ _))

theorem list_items {β : Type} {item : List Char → β → Prop} {texts : List (List Char)}
    {values : List β} (own : List.Forall₂ item texts values) :
    ListWritten item ('[' :: (List.intercalate [','] texts ++ [']'])) values := by
  cases own with
  | nil => exact .empty .none
  | cons first others => exact .filled (listed_items (.cons first others) (List.cons_ne_nil _ _))

theorem compact_items_eq (items : List Value) :
    Value.compact.compactItems items = items.map Value.compact := by
  induction items with
  | nil => rfl
  | cons item items induction => rw [Value.compact.compactItems, induction, List.map_cons]

/-- A list is laid out as its items with commas between them. -/
theorem compact_list (items : List Value) : (Value.list items).compact.toList =
    '[' :: (List.intercalate [','] (items.map fun item => item.compact.toList) ++ [']']) := by
  simp [Value.compact, compact_items_eq, String.toList_intercalate]
  rfl

theorem forall₂_of_exists {α β : Type} {relation : α → β → Prop} {values : List α}
    (own : ∀ value ∈ values, ∃ again, relation value again) :
    ∃ others, List.Forall₂ relation values others := by
  induction values with
  | nil => exact ⟨[], .nil⟩
  | cons value values induction =>
      obtain ⟨again, isAgain⟩ := own value List.mem_cons_self
      obtain ⟨others, areOthers⟩ := induction fun other member =>
        own other (List.mem_cons_of_mem value member)
      exact ⟨again :: others, .cons isAgain areOthers⟩

/-- A list comes back when each of its items does. -/
theorem list_back {α β : Type} {write : α → Value} {item : List Char → β → Prop}
    {relation : α → β → Prop} {values : List α} (own : ∀ value ∈ values, ∃ again,
      item (write value).compact.toList again ∧ relation value again) :
    ∃ again, ListWritten item (Value.list (values.map write)).compact.toList again ∧
      List.Forall₂ relation values again := by
  obtain ⟨again, both⟩ := forall₂_of_exists own
  refine ⟨again, ?_, both.imp fun _ _ item => item.2⟩
  rw [compact_list, List.map_map]
  exact list_items (List.forall₂_map_left_iff.mpr (both.imp fun _ _ item => item.1))

theorem vector_back {values : List Float} (finite : ∀ value ∈ values, value.isFinite = true) :
    ∃ again, VectorWritten (Value.vector values).compact.toList again ∧
      List.Forall₂ ReadBack values again :=
  list_back fun value member => number_back (finite value member)

theorem matrix_back {rows : List (List Float)}
    (finite : ∀ row ∈ rows, ∀ value ∈ row, value.isFinite = true) :
    ∃ again, MatrixWritten (Value.matrix rows).compact.toList again ∧
      List.Forall₂ (List.Forall₂ ReadBack) rows again :=
  list_back fun row member => vector_back (finite row member)

/-! ## Problems -/

/-- How a problem of finite entries comes back. -/
structure ReadBackProblem (problem again : Problem Float) : Prop where
  objective : List.Forall₂ ReadBack problem.objective again.objective
  constraints : List.Forall₂ (List.Forall₂ ReadBack) problem.constraints again.constraints
  rhs : List.Forall₂ ReadBack problem.rhs again.rhs

/-- All entries of a problem, wherever they stand. -/
def entries (problem : Problem Float) : List Float :=
  problem.objective ++ problem.constraints.flatten ++ problem.rhs

/-- The members of a problem that was written. -/
def writtenMembers (problem : Problem Float) : List Member :=
  [⟨Field.objective.name.toList, (Value.vector problem.objective).compact.toList⟩,
    ⟨Field.constraints.name.toList, (Value.matrix problem.constraints).compact.toList⟩,
    ⟨Field.rhs.name.toList, (Value.vector problem.rhs).compact.toList⟩]

theorem written_once (problem : Problem Float) (field : Field) :
    occurrences (writtenMembers problem) field = 1 := by
  simp only [occurrences, writtenMembers, List.filterMap_cons, Member.field?, of_name_name]
  cases field <;> rfl

theorem compact_problem (problem : Problem Float) :
    ObjectWritten (writtenMembers problem) (ofProblem problem).compact.toList := by
  have written : MembersWritten (writtenMembers problem) _ :=
    .more .none (name_spells .objective) (.more .none (name_spells .constraints)
      (.last .none (name_spells .rhs)))
  have filled := ObjectWritten.filled written
  convert filled using 1
  simp [ofProblem, Value.compact, Value.compact.compactMembers, Value.quotedName, MemberGaps.lay,
    MemberGaps.none, Gap.none]

theorem parse_object {problem : Problem Float} {members : List Member} {text : String}
    (written : ObjectWritten members text.toList)
    (suit : ∀ member ∈ members, member.Suits problem)
    (once : ∀ field, occurrences members field = 1) : parse text = .ok problem := by
  have read := read_problem_object written suit once []
  have parsed := parse_of_read .none read (List.forall_mem_nil _)
  have whole : Gap.none.text ++ (text.toList ++ []) = text.toList := List.append_nil _
  rwa [whole, String.ofList_toList] at parsed

theorem problem_back {problem : Problem Float}
    (finite : ∀ value ∈ entries problem, value.isFinite = true) :
    ∃ again, parse (ofProblem problem).compact = .ok again ∧ ReadBackProblem problem again := by
  simp only [entries, List.mem_append, List.mem_flatten] at finite
  obtain ⟨objective, objectiveWritten, objectiveBack⟩ :=
    vector_back fun value member => finite value (.inl (.inl member))
  obtain ⟨constraints, constraintsWritten, constraintsBack⟩ :=
    matrix_back fun row isRow value member => finite value (.inl (.inr ⟨row, isRow, member⟩))
  obtain ⟨rhs, rhsWritten, rhsBack⟩ := vector_back fun value member => finite value (.inr member)
  refine ⟨⟨objective, constraints, rhs⟩, ?_, objectiveBack, constraintsBack, rhsBack⟩
  have suits : ∀ member ∈ writtenMembers problem, member.Suits ⟨objective, constraints, rhs⟩ := by
    intro member isMember
    simp only [writtenMembers, List.mem_cons, List.not_mem_nil, or_false] at isMember
    rcases isMember with rfl | rfl | rfl
    · exact Member.suits_of_field (of_name_name .objective) objectiveWritten
    · exact Member.suits_of_field (of_name_name .constraints) constraintsWritten
    · exact Member.suits_of_field (of_name_name .rhs) rhsWritten
  exact parse_object (compact_problem problem) suits (written_once problem)

theorem forall₂_same {α : Type} {relation : α → α → Prop} {values again : List α}
    (back : List.Forall₂ relation values again)
    (own : ∀ value ∈ values, ∀ other, relation value other → other = value) : again = values := by
  induction back with
  | nil => rfl
  | cons first others induction =>
      rw [own _ List.mem_cons_self _ first,
        induction fun value member => own value (List.mem_cons_of_mem _ member)]

theorem ReadBackProblem.exact {problem again : Problem Float} (back : ReadBackProblem problem again)
    (short : ∀ value ∈ entries problem, IsShort value) : again = problem := by
  simp only [entries, List.mem_append, List.mem_flatten] at short
  have objective := forall₂_same back.objective fun value member _ own =>
    own.exact (short value (.inl (.inl member)))
  have constraints := forall₂_same back.constraints fun row isRow _ own =>
    forall₂_same own fun value member _ own =>
      own.exact (short value (.inl (.inr ⟨row, isRow, member⟩)))
  have rhs := forall₂_same back.rhs fun value member _ own => own.exact (short value (.inr member))
  cases again
  cases problem
  simp only at objective constraints rhs
  rw [objective, constraints, rhs]

/-- A problem of finite entries, whatever the lengths of its lists, is read again after it was
written. Every entry keeps its sign and comes back next to where it was on the ladder of
doubles, and a problem of short entries comes back unchanged. -/
theorem round_trip {problem : Problem Float}
    (finite : ∀ value ∈ entries problem, value.isFinite = true) :
    ∃ again, parse (ofProblem problem).compact = .ok again ∧ ReadBackProblem problem again ∧
      ((∀ value ∈ entries problem, IsShort value) → again = problem) := by
  obtain ⟨again, parsed, back⟩ := problem_back finite
  exact ⟨again, parsed, back, back.exact⟩

/-- Rows of different lengths, a negative zero and the least double. -/
def ragged : Problem Float :=
  ⟨[0.1, Float.ofBits 0x8000000000000000], [[1], [], [Float.ofBits 1, 1e300]], []⟩

/-- Short entries, both zeros among them, and again rows of different lengths. -/
def shortRagged : Problem Float :=
  ⟨[0.1, Float.ofBits 0x8000000000000000], [[0], [], [-12.5, 1e10]], [Float.ofBits 0]⟩

theorem round_trip_of_ragged : (∀ value ∈ entries ragged, value.isFinite = true) ∧
    (∃ again, parse (ofProblem ragged).compact = .ok again ∧ ReadBackProblem ragged again ∧
      ((∀ value ∈ entries ragged, IsShort value) → again = ragged)) ∧
    (∀ value ∈ entries shortRagged, value.isFinite = true) ∧
    (∀ value ∈ entries shortRagged, IsShort value) ∧
    parse (ofProblem shortRagged).compact = .ok shortRagged := by
  have finite : ∀ value ∈ entries ragged, value.isFinite = true := by decide +kernel
  have finiteShort : ∀ value ∈ entries shortRagged, value.isFinite = true := by decide +kernel
  have short : ∀ value ∈ entries shortRagged, IsShort value := by decide +kernel
  obtain ⟨again, parsed, _, exact⟩ := round_trip finiteShort
  obtain rfl := exact short
  exact ⟨finite, round_trip finite, finiteShort, short, parsed⟩

/-- Two entries of many digits. -/
def manyDigits : Problem Float :=
  ⟨[Float.ofBits 0x4164D8399F767C45], [[1]], [Float.ofBits 0x2BFECDCE3691B39C]⟩

/-- What is read of them: the double just below the one, and the second above the other. -/
def manyDigitsAgain : Problem Float :=
  ⟨[Float.ofBits 0x4164D8399F767C44], [[1]], [Float.ofBits 0x2BFECDCE3691B39E]⟩

theorem many_digits_differ : (∀ value ∈ entries manyDigits, value.isFinite = true) ∧
    (ofProblem manyDigits).compact =
      "\x7b\"objective\":[10928588.983213553],\"constraints\":[[1.0]],\"rhs\":[9.013376279646015e-97]\x7d" ∧
    parse (ofProblem manyDigits).compact = .ok manyDigitsAgain ∧ manyDigitsAgain ≠ manyDigits := by
  decide +kernel

end LinearProgram.Document
