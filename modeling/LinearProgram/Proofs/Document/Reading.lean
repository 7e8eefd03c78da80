import LinearProgram.Proofs.Document.Skipping

/-!
# Reading numbers and lists

A list is read by the law of its items. Two laws are lifted from an item to a list:
what is written with a value is read as that value, and what is any JSON value is
either refused or read to its end.
-/

namespace LinearProgram.Document

/-- The reader gives the value with which a text is written. -/
structure Reads {β : Type} (reader : Reader β) (form : List Char → β → Prop) : Prop where
  starts {text : List Char} {value : β} : form text value → Starts text
  read {text : List Char} {value : β} : form text value → ∀ rest : List Char, Ends rest →
    reader.read (text ++ rest) = .ok (value, rest)

/-- The reader refuses a well-formed value or reads it to its end. -/
def Stays {β : Type} (reader : Reader β) : Prop :=
  ∀ {text rest after : List Char} {value : β}, Written .value text → Ends rest →
    reader.read (text ++ rest) = .ok (value, after) → after = rest

/-! ## Numbers -/

theorem read_float_number {text : List Char} (form : NumberForm text) (rest : List Char) :
    readFloat (text ++ rest) =
      (readNumber (text ++ rest)).map fun (number, after) => (number.toFloat, after) := by
  obtain ⟨first, tail, rfl, isNumber⟩ := number_head form
  obtain ⟨_, _, same, ink, _⟩ := number_starts form
  cases same
  simp only [readFloat, List.cons_append, drop_blank_cons ink, if_pos isNumber]
  cases readNumber (first :: (tail ++ rest)) <;> rfl

theorem float_reads : Reads float NumberWritten where
  starts written := number_starts written.form
  read := by
    intro text value written rest ends
    obtain ⟨number, accepted, rfl⟩ := written.accepted
    obtain ⟨outcome, read⟩ := read_number_append written.form
    have alone := read [] ends_nil
    rw [List.append_nil, accepted] at alone
    change readFloat (text ++ rest) = _
    rw [read_float_number written.form, read rest ends]
    cases outcome with
    | error cause => cases alone
    | ok found =>
        cases alone
        rfl

/-- A value that is read as a number is a number. -/
theorem number_of_read {text rest : List Char} {outcome : Float × List Char}
    (written : Written .value text) (read : readFloat (text ++ rest) = .ok outcome) :
    NumberForm text := by
  have refused {first : Char} {tail : List Char} (same : text = first :: tail)
      (noNumber : ¬(first = '-' ∨ first.isDigit = true)) : NumberForm text := by
    obtain ⟨_, _, again, ink, _⟩ := written_starts written
    cases same.symm.trans again
    rw [same] at read
    simp only [readFloat, List.cons_append, drop_blank_cons ink, if_neg noNumber] at read
    cases read
  cases written with
  | number form => exact form
  | null => exact refused rfl (by decide)
  | true => exact refused rfl (by decide)
  | false => exact refused rfl (by decide)
  | string => exact refused rfl (by decide)
  | empty frame => exact refused rfl (by cases frame <;> decide)
  | @filled frame => exact refused rfl (by cases frame <;> decide)

theorem float_stays : Stays float := by
  intro text rest after value written ends read
  change readFloat (text ++ rest) = _ at read
  have form := number_of_read written read
  obtain ⟨outcome, found⟩ := read_number_append form
  rw [read_float_number form, found rest ends] at read
  cases outcome with
  | error cause => cases read
  | ok number =>
      cases read
      rfl

/-! ## The items of a list -/

/-- What stands before an item of a list or a member of an object. -/
def separator (isFirst : Bool) : List Char :=
  if isFirst then [] else [',']

theorem next_item_close (isFirst : Bool) (gap : Gap) (rest : List Char) :
    nextItem isFirst (gap.text ++ ']' :: rest) = .ok (.close rest) := by
  simp [nextItem, drop_blank_gap_cons gap (show isBlank ']' = false from rfl)]

theorem next_item_item (isFirst : Bool) (gap before : Gap) {text : List Char}
    (starts : Starts text) :
    nextItem isFirst (gap.text ++ (separator isFirst ++ (before.text ++ text))) =
      .ok (.item text) := by
  obtain ⟨first, tail, rfl, ink, noComma, goesOn⟩ := starts
  have noBracket : first ≠ ']' := goesOn .list
  cases isFirst with
  | true =>
      simp only [nextItem, separator, if_true, List.nil_append, drop_blank_gap,
        drop_blank_cons ink, if_neg noBracket]
  | false =>
      simp [nextItem, separator, drop_blank_gap_cons gap (show isBlank ',' = false from rfl),
        drop_blank_gap_cons before ink, noBracket]

section

variable {β : Type} {item : Reader β}

theorem read_items_close (items : List β) (isFirst : Bool) (gap : Gap) (rest : List Char) :
    readItems item items isFirst (gap.text ++ ']' :: rest) = .ok (items.reverse, rest) := by
  rw [readItems]
  split <;> rename_i next <;> rw [next_item_close] at next <;> cases next
  rfl

theorem read_items_item (items : List β) (isFirst : Bool) (gap before : Gap) {text : List Char}
    (starts : Starts text) (rest : List Char) :
    readItems item items isFirst
        (gap.text ++ (separator isFirst ++ (before.text ++ (text ++ rest)))) =
      match item.read (text ++ rest) with
      | .error cause => .error cause
      | .ok (value, after) => readItems item (value :: items) false after := by
  have isNext := next_item_item isFirst gap before (starts.append rest)
  rw [readItems]
  split <;> rename_i next <;> rw [isNext] at next <;> cases next
  split <;> rename_i read <;> rw [read]

theorem read_items_listed {form : List Char → β → Prop} (reads : Reads item form)
    {text : List Char} {values : List β} (listed : Listed form text values) (items : List β)
    (isFirst : Bool) (gap : Gap) (rest : List Char) :
    readItems item items isFirst (gap.text ++ (separator isFirst ++ (text ++ ']' :: rest))) =
      .ok (items.reverse ++ values, rest) := by
  induction listed generalizing items isFirst gap with
  | last before after own =>
      have read := reads.read own (after.text ++ ']' :: rest)
        (ends_gap after (ends_bracket rest))
      simp only [List.append_assoc]
      rw [read_items_item items isFirst gap before (reads.starts own), read]
      simpa using read_items_close (_ :: items) false after rest
  | @more before after _ tail _ _ own others induction =>
      have read := reads.read own _ (ends_gap after (ends_comma (tail ++ ']' :: rest)))
      simp only [List.append_assoc, List.cons_append]
      rw [read_items_item items isFirst gap before (reads.starts own), read]
      simpa [separator] using induction (_ :: items) false after

/-- The items of any list, no values attached to them. -/
theorem written_items {part : Part} {text : List Char} (written : Written part text)
    (isContent : part = .content .list) :
    ∃ values : List Unit, Listed (fun text _ => Written .value text) text values := by
  induction written with
  | lastItem before after value => exact ⟨[()], .last before after value⟩
  | item before after value others _ induction =>
      obtain ⟨values, listed⟩ := induction rfl
      exact ⟨() :: values, .more before after value listed⟩
  | _ => cases isContent

theorem read_items_passed (stays : Stays item) {text : List Char} (written : Written .value text)
    {items : List β} {isFirst : Bool} {gap before : Gap} {rest : List Char} (ends : Ends rest)
    {outcome : List β × List Char}
    (read : readItems item items isFirst
      (gap.text ++ (separator isFirst ++ (before.text ++ (text ++ rest)))) = .ok outcome) :
    ∃ value, readItems item (value :: items) false rest = .ok outcome := by
  rw [read_items_item items isFirst gap before (written_starts written)] at read
  cases found : item.read (text ++ rest) with
  | error cause =>
      rw [found] at read
      cases read
  | ok own =>
      obtain rfl := stays written ends found
      rw [found] at read
      exact ⟨own.1, read⟩

theorem read_items_stays (stays : Stays item) {text : List Char} {units : List Unit}
    (listed : Listed (fun text _ => Written .value text) text units) {items : List β}
    {isFirst : Bool} {gap : Gap} {rest : List Char} {outcome : List β × List Char}
    (read : readItems item items isFirst
      (gap.text ++ (separator isFirst ++ (text ++ ']' :: rest))) = .ok outcome) :
    outcome.2 = rest := by
  induction listed generalizing items isFirst gap with
  | last before after written =>
      simp only [List.append_assoc] at read
      obtain ⟨value, closed⟩ :=
        read_items_passed stays written (ends_gap after (ends_bracket rest)) read
      have closing : readItems item (value :: items) false (after.text ++ ']' :: rest) = _ :=
        read_items_close _ false after rest
      cases closing.symm.trans closed
      rfl
  | more before after written others induction =>
      simp only [List.append_assoc, List.cons_append] at read
      obtain ⟨value, further⟩ :=
        read_items_passed stays written (ends_gap after (ends_comma _)) read
      exact induction further

end

/-! ## Lists -/

theorem list_gap {β : Type} (item : Reader β) (gap : Gap) (text : List Char) :
    (list item).read (gap.text ++ text) = (list item).read text := by
  simp only [list, readList, drop_blank_gap]

theorem read_list_open {β : Type} (item : Reader β) (text : List Char) :
    (list item).read ('[' :: text) = readItems item [] true text := by
  simp [list, readList, drop_blank_cons (show isBlank '[' = false from rfl)]

theorem list_reads {β : Type} {item : Reader β} {form : List Char → β → Prop}
    (reads : Reads item form) : Reads (list item) (ListWritten form) where
  starts written := by
    cases written with
    | empty => exact opening_starts .list _
    | filled => exact opening_starts .list _
  read := by
    intro text values written rest _
    cases written with
    | empty gap =>
        rw [List.cons_append, List.append_assoc, read_list_open]
        simpa using read_items_close [] true gap rest
    | filled items =>
        rw [List.cons_append, List.append_assoc, read_list_open]
        exact read_items_listed reads items [] true Gap.none rest

/-- A value that is read as a list is a list. -/
theorem list_of_read {β : Type} {item : Reader β} {text rest : List Char}
    {outcome : List β × List Char} (written : Written .value text)
    (read : (list item).read (text ++ rest) = .ok outcome) :
    (∃ gap : Gap, text = '[' :: (gap.text ++ [']'])) ∨
      ∃ content, Written (.content .list) content ∧ text = '[' :: (content ++ [']']) := by
  obtain ⟨first, tail, same, ink, _⟩ := written_starts written
  have isOpening : first = '[' := Decidable.byContradiction fun noBracket => by
    simp [list, readList, same, drop_blank_cons ink, noBracket] at read
  subst isOpening
  cases written with
  | number form =>
      obtain ⟨_, _, again, isNumber⟩ := number_head form
      cases same.symm.trans again
      simp at isNumber
  | empty frame gap =>
      cases frame with
      | list => exact .inl ⟨gap, rfl⟩
      | object => cases same
  | @filled frame content inner =>
      cases frame with
      | list => exact .inr ⟨content, inner, rfl⟩
      | object => cases same
  | _ => cases same

theorem list_stays {β : Type} {item : Reader β} (stays : Stays item) : Stays (list item) := by
  intro text rest after values written _ read
  obtain ⟨gap, rfl⟩ | ⟨content, inner, rfl⟩ := list_of_read written read
  · rw [List.cons_append, List.append_assoc, read_list_open] at read
    have closing : readItems item [] true (gap.text ++ ']' :: rest) = _ :=
      read_items_close [] true gap rest
    cases closing.symm.trans read
    rfl
  · obtain ⟨units, listed⟩ := written_items inner rfl
    rw [List.cons_append, List.append_assoc, read_list_open] at read
    have fromStart : readItems item [] true
        (Gap.none.text ++ (separator true ++ (content ++ ']' :: rest))) = _ := read
    exact read_items_stays stays listed fromStart

theorem listed_written {β : Type} {form : List Char → β → Prop}
    (own : ∀ {text value}, form text value → Written .value text) {text : List Char}
    {values : List β} (listed : Listed form text values) : Written (.content .list) text := by
  induction listed with
  | last before after item => exact .lastItem before after (own item)
  | more before after item others induction => exact .item before after (own item) induction

/-- What is written with a value is a JSON value. -/
theorem list_written {β : Type} {form : List Char → β → Prop}
    (own : ∀ {text value}, form text value → Written .value text) {text : List Char}
    {values : List β} (written : ListWritten form text values) : Written .value text := by
  cases written with
  | empty gap => exact .empty .list gap
  | filled items => exact .filled (listed_written own items)

theorem vector_written {text : List Char} {values : List Float}
    (written : VectorWritten text values) : Written .value text :=
  list_written (fun number => .number number.form) written

theorem vector_reads : Reads vector VectorWritten :=
  list_reads float_reads

theorem matrix_reads : Reads matrix MatrixWritten :=
  list_reads vector_reads

theorem vector_stays : Stays vector :=
  list_stays float_stays

theorem matrix_stays : Stays matrix :=
  list_stays vector_stays

end LinearProgram.Document
