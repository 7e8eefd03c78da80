import LinearProgram.Proofs.Document.Reading

/-!
# The layout of a document

An object is read member by member. While it is read, the draft holds a problem's
parts exactly where their members have been met; a known field is taken once, so a
document is accepted exactly when each field occurs once and nothing follows it.
-/

namespace LinearProgram.Document

/-! ## Members of an object -/

theorem next_key_close (isFirst : Bool) (gap : Gap) (rest : List Char) :
    nextKey isFirst (gap.text ++ '\x7d' :: rest) = .ok (.close rest) := by
  simp [nextKey, drop_blank_gap_cons gap (show isBlank '\x7d' = false from rfl)]

theorem next_key_item (isFirst : Bool) (gap before : Gap) (rest : List Char) :
    nextKey isFirst (gap.text ++ (separator isFirst ++ (before.text ++ '"' :: rest))) =
      .ok (.item rest) := by
  have quote : isBlank '"' = false := rfl
  cases isFirst with
  | true => simp [nextKey, separator, drop_blank_gap, drop_blank_cons quote]
  | false =>
      simp [nextKey, separator, drop_blank_gap_cons gap (show isBlank ',' = false from rfl),
        drop_blank_gap_cons before quote]

theorem read_members_close (draft : Draft) (isFirst : Bool) (gap : Gap) (rest : List Char) :
    readMembers draft isFirst (gap.text ++ '\x7d' :: rest) = draft.finish.map (·, rest) := by
  rw [readMembers]
  split <;> rename_i next <;> rw [next_key_close] at next <;> cases next
  rfl

/-- The text after a key. -/
def MemberGaps.afterKey (gaps : MemberGaps) (value rest : List Char) : List Char :=
  gaps.beforeColon.text ++ ':' ::
    (gaps.beforeValue.text ++ (value ++ (gaps.afterValue.text ++ rest)))

theorem read_members_member (draft : Draft) (isFirst : Bool) (gap : Gap) (gaps : MemberGaps)
    {spelled key : List Char} (spells : Spells spelled key) (value rest : List Char) :
    readMembers draft isFirst (gap.text ++ (separator isFirst ++ gaps.lay spelled value rest)) =
      match draft.readMember key (gaps.afterKey value rest) with
      | .error cause => .error cause
      | .ok (draft, after) => readMembers draft false after := by
  have isNext := next_key_item isFirst gap gaps.beforeKey
    (spelled ++ '"' :: gaps.afterKey value rest)
  have scanned := scan_string_spells spells [] (gaps.afterKey value rest)
  change nextKey isFirst (gap.text ++ (separator isFirst ++ gaps.lay spelled value rest)) = _
    at isNext
  rw [readMembers]
  split <;> rename_i next <;> rw [isNext] at next <;> cases next
  split <;> rename_i found <;> rw [scanned] at found <;> cases found
  simp only [List.reverse_nil, List.nil_append]
  split <;> rename_i read <;> rw [read]

theorem occurrences_cons (member : Member) (members : List Member) (field : Field) :
    occurrences (member :: members) field =
      (member.field? == some field).toNat + occurrences members field := by
  unfold occurrences
  cases known : member.field? with
  | none => simp [known]
  | some own =>
      rw [List.filterMap_cons_some known, List.count_cons, Nat.add_comm]
      cases field <;> cases own <;> rfl

/-! ## Documents that are accepted -/

/-- The parts of a problem that have been seen. -/
def Draft.holding (problem : Problem Float) (seen : Field → Bool) : Draft where
  objective := if seen .objective then some problem.objective else none
  constraints := if seen .constraints then some problem.constraints else none
  rhs := if seen .rhs then some problem.rhs else none

theorem spells_plain (text : List Char) (plain : text.all (decide <| IsPlain ·) = true) :
    Spells text text := by
  induction text with
  | nil => exact .nil
  | cons first rest induction =>
      rw [List.all_cons, Bool.and_eq_true, decide_eq_true_iff] at plain
      exact .plain plain.1 (induction plain.2)

theorem of_name_name (field : Field) : Field.ofName? field.name.toList = some field := by
  cases field <;> decide

theorem name_spells (field : Field) : Spells field.name.toList field.name.toList :=
  spells_plain _ (by cases field <;> decide)

theorem Member.suits_of_field {problem : Problem Float} {member : Member} {field : Field}
    (known : member.field? = some field) (written : FieldWritten problem member.value field) :
    member.Suits problem := by
  simpa only [Member.Suits, known] using written

theorem Member.written_of_suits {problem : Problem Float} {member : Member}
    (suits : member.Suits problem) : Written .value member.value := by
  unfold Member.Suits at suits
  split at suits
  · rename_i field _
    cases field with
    | objective => exact vector_written suits
    | constraints => exact list_written (fun own => vector_written own) suits
    | rhs => exact vector_written suits
  · exact suits

section

variable {problem : Problem Float} {seen : Field → Bool}

theorem has_holding (field : Field) : (Draft.holding problem seen).has field = seen field := by
  cases field with
  | objective => cases known : seen .objective <;> simp [Draft.holding, Draft.has, known]
  | constraints => cases known : seen .constraints <;> simp [Draft.holding, Draft.has, known]
  | rhs => cases known : seen .rhs <;> simp [Draft.holding, Draft.has, known]

theorem finish_holding (complete : ∀ field, seen field = true) :
    (Draft.holding problem seen).finish = .ok problem := by
  simp [Draft.holding, Draft.finish, complete]

theorem read_field_holding {field : Field} {text : List Char}
    (written : FieldWritten problem text field) (gap : Gap) {rest : List Char}
    (ends : Ends rest) :
    (Draft.holding problem seen).readField field (gap.text ++ (text ++ rest)) =
      .ok (Draft.holding problem fun other => some field == some other || seen other, rest) := by
  cases field with
  | objective =>
      have read : vector.read (gap.text ++ (text ++ rest)) = .ok (problem.objective, rest) :=
        (list_gap float gap _).trans (vector_reads.read written rest ends)
      simp only [Draft.readField, read]
      rfl
  | constraints =>
      have read : matrix.read (gap.text ++ (text ++ rest)) = .ok (problem.constraints, rest) :=
        (list_gap vector gap _).trans (matrix_reads.read written rest ends)
      simp only [Draft.readField, read]
      rfl
  | rhs =>
      have read : vector.read (gap.text ++ (text ++ rest)) = .ok (problem.rhs, rest) :=
        (list_gap float gap _).trans (vector_reads.read written rest ends)
      simp only [Draft.readField, read]
      rfl

theorem read_member_holding {member : Member} (suits : member.Suits problem)
    (fresh : ∀ field, member.field? = some field → seen field = false) (gaps : MemberGaps)
    {rest : List Char} (ends : Ends (gaps.afterValue.text ++ rest)) :
    (Draft.holding problem seen).readMember member.key (gaps.afterKey member.value rest) =
      .ok (Draft.holding problem fun other => member.field? == some other || seen other,
        gaps.afterValue.text ++ rest) := by
  have colon : expectColon (gaps.afterKey member.value rest) = .ok (gaps.beforeValue.text ++
      (member.value ++ (gaps.afterValue.text ++ rest))) := expect_colon_gap _ _
  cases known : member.field? with
  | some field =>
      have written : FieldWritten problem member.value field := by
        simpa only [Member.Suits, known] using suits
      have isKnown : Field.ofName? member.key = some field := known
      simp only [Draft.readMember, isKnown, has_holding, fresh field known, colon]
      exact read_field_holding written _ ends
  | none =>
      have written : Written .value member.value := by
        simpa only [Member.Suits, known] using suits
      have isUnknown : Field.ofName? member.key = none := known
      have skipped : skipValue (gaps.beforeValue.text ++ (member.value ++
          (gaps.afterValue.text ++ rest))) = .ok (gaps.afterValue.text ++ rest) :=
        (skip_congr (drop_blank_gap _ _) []).trans (skip_value_written written ends)
      simp only [Draft.readMember, isUnknown, colon, skipped]
      rfl

/-- Counting goes on after a member as it did before it. -/
theorem once_after {member : Member} {members : List Member}
    (once : ∀ field, (seen field).toNat + occurrences (member :: members) field = 1) :
    (∀ field, member.field? = some field → seen field = false) ∧
      ∀ field, (member.field? == some field || seen field).toNat +
        occurrences members field = 1 := by
  refine ⟨fun field known => ?_, fun field => ?_⟩
  · have count := once field
    rw [occurrences_cons, known, beq_self_eq_true] at count
    cases isSeen : seen field with
    | false => rfl
    | true => simp [isSeen] at count
  · have count := once field
    rw [occurrences_cons] at count
    cases isKnown : member.field? == some field <;> cases isSeen : seen field <;>
      simp [isKnown, isSeen] at count ⊢ <;> omega

theorem read_members_holding {members : List Member} {text : List Char}
    (written : MembersWritten members text) (suit : ∀ member ∈ members, member.Suits problem)
    (once : ∀ field, (seen field).toNat + occurrences members field = 1) (isFirst : Bool)
    (gap : Gap) (rest : List Char) :
    readMembers (Draft.holding problem seen) isFirst
        (gap.text ++ (separator isFirst ++ (text ++ '\x7d' :: rest))) = .ok (problem, rest) := by
  induction written generalizing seen isFirst gap with
  | @last gaps member key spells =>
      obtain ⟨fresh, complete⟩ := once_after once
      have read := read_member_holding (suit member List.mem_cons_self) fresh gaps
        (ends_gap gaps.afterValue (ends_brace rest))
      have finished : (Draft.holding problem _).finish = .ok problem :=
        finish_holding fun field => Bool.toNat_eq_one.mp (complete field)
      rw [MemberGaps.lay_append, read_members_member _ isFirst gap gaps spells, List.nil_append,
        read]
      simp only [read_members_close, finished]
      rfl
  | @more gaps member members key tail spells others induction =>
      obtain ⟨fresh, further⟩ := once_after once
      have read := read_member_holding (suit member List.mem_cons_self) fresh gaps
        (ends_gap gaps.afterValue (ends_comma (tail ++ '\x7d' :: rest)))
      have suitOthers := fun other isOther => suit other (List.mem_cons_of_mem member isOther)
      rw [MemberGaps.lay_append, read_members_member _ isFirst gap gaps spells, List.cons_append,
        read]
      exact induction suitOthers further false gaps.afterValue

end

/-! ## Documents that are rejected -/

theorem read_field_stays {draft next : Draft} {field : Field} {text rest after : List Char}
    (written : Written .value text) (gap : Gap) (ends : Ends rest)
    (read : draft.readField field (gap.text ++ (text ++ rest)) = .ok (next, after)) :
    after = rest ∧ ∀ other, next.has other = (some field == some other || draft.has other) := by
  cases field with
  | objective =>
      obtain ⟨outcome, found, same⟩ := map_ok read
      cases same
      rw [vector, list_gap] at found
      refine ⟨vector_stays written ends found, fun other => ?_⟩
      cases other <;> rfl
  | constraints =>
      obtain ⟨outcome, found, same⟩ := map_ok read
      cases same
      rw [matrix, list_gap] at found
      refine ⟨matrix_stays written ends found, fun other => ?_⟩
      cases other <;> rfl
  | rhs =>
      obtain ⟨outcome, found, same⟩ := map_ok read
      cases same
      rw [vector, list_gap] at found
      refine ⟨vector_stays written ends found, fun other => ?_⟩
      cases other <;> rfl

/-- A member is taken to its end, and a known one only if its field is new. -/
theorem read_member_stays {draft next : Draft} {member : Member} {rest after : List Char}
    (written : Written .value member.value) (gaps : MemberGaps)
    (ends : Ends (gaps.afterValue.text ++ rest))
    (read : draft.readMember member.key (gaps.afterKey member.value rest) = .ok (next, after)) :
    after = gaps.afterValue.text ++ rest ∧ ∀ field,
      (next.has field).toNat = (member.field? == some field).toNat + (draft.has field).toNat := by
  have colon : expectColon (gaps.afterKey member.value rest) = .ok (gaps.beforeValue.text ++
      (member.value ++ (gaps.afterValue.text ++ rest))) := expect_colon_gap _ _
  cases known : member.field? with
  | some own =>
      have isKnown : Field.ofName? member.key = some own := known
      cases isSeen : draft.has own with
      | true =>
          simp [Draft.readMember, isKnown, isSeen] at read
      | false =>
          simp only [Draft.readMember, isKnown, isSeen, colon] at read
          obtain ⟨left, seen⟩ := read_field_stays written gaps.beforeValue ends read
          refine ⟨left, fun field => ?_⟩
          rw [seen field]
          by_cases isOwn : own = field
          · simp [← isOwn, isSeen]
          · have isOther : (own == field) = false := beq_eq_false_iff_ne.mpr isOwn
            simp [isOther]
  | none =>
      have isUnknown : Field.ofName? member.key = none := known
      have skipped : skipValue (gaps.beforeValue.text ++ (member.value ++
          (gaps.afterValue.text ++ rest))) = .ok (gaps.afterValue.text ++ rest) :=
        (skip_congr (drop_blank_gap _ _) []).trans (skip_value_written written ends)
      simp only [Draft.readMember, isUnknown, colon, skipped, Except.map] at read
      cases read
      simp

theorem finish_complete {draft : Draft} {problem : Problem Float}
    (finished : draft.finish = .ok problem) (field : Field) : draft.has field = true := by
  unfold Draft.finish at finished
  split at finished
  · cases finished
  · cases finished
  · cases finished
  · rename_i objective constraints rhs
    cases field with
    | objective => simp [Draft.has, objective]
    | constraints => simp [Draft.has, constraints]
    | rhs => simp [Draft.has, rhs]

theorem read_members_passed {member : Member} (written : Written .value member.value)
    {key : List Char} (spells : Spells key member.key) {draft : Draft} {isFirst : Bool} {gap : Gap}
    {gaps : MemberGaps} {rest : List Char} (ends : Ends (gaps.afterValue.text ++ rest))
    {outcome : Problem Float × List Char}
    (read : readMembers draft isFirst
      (gap.text ++ (separator isFirst ++ gaps.lay key member.value rest)) = .ok outcome) :
    ∃ next : Draft, readMembers next false (gaps.afterValue.text ++ rest) = .ok outcome ∧
      ∀ field, (next.has field).toNat =
        (member.field? == some field).toNat + (draft.has field).toNat := by
  rw [read_members_member _ isFirst gap gaps spells] at read
  cases own : draft.readMember member.key (gaps.afterKey member.value rest) with
  | error cause =>
      rw [own] at read
      cases read
  | ok found =>
      obtain ⟨next, after⟩ := found
      obtain ⟨rfl, seen⟩ := read_member_stays written gaps ends own
      rw [own] at read
      exact ⟨next, read, seen⟩

theorem read_members_stays {members : List Member} {text : List Char}
    (written : MembersWritten members text)
    (values : ∀ member ∈ members, Written .value member.value) {draft : Draft} {isFirst : Bool}
    {gap : Gap} {rest after : List Char} {problem : Problem Float}
    (read : readMembers draft isFirst
      (gap.text ++ (separator isFirst ++ (text ++ '\x7d' :: rest))) = .ok (problem, after)) :
    after = rest ∧ ∀ field, (draft.has field).toNat + occurrences members field = 1 := by
  induction written generalizing draft isFirst gap with
  | @last gaps member key spells =>
      rw [MemberGaps.lay_append, List.nil_append] at read
      obtain ⟨next, closed, seen⟩ := read_members_passed (values member List.mem_cons_self) spells
        (ends_gap gaps.afterValue (ends_brace rest)) read
      rw [read_members_close] at closed
      obtain ⟨found, finished, same⟩ := map_ok closed
      cases same
      refine ⟨rfl, fun field => ?_⟩
      have count := seen field
      rw [finish_complete finished field, Bool.toNat_true] at count
      rw [occurrences_cons, occurrences, List.filterMap_nil, List.count_nil]
      omega
  | @more gaps member members key tail spells others induction =>
      rw [MemberGaps.lay_append, List.cons_append] at read
      obtain ⟨next, further, seen⟩ := read_members_passed (values member List.mem_cons_self) spells
        (ends_gap gaps.afterValue (ends_comma (tail ++ '\x7d' :: rest))) read
      obtain ⟨left, once⟩ := induction
        (fun other isOther => values other (List.mem_cons_of_mem member isOther)) further
      refine ⟨left, fun field => ?_⟩
      have count := once field
      rw [seen field] at count
      rw [occurrences_cons]
      omega

/-! ## The two forms of a document -/

theorem read_entry_written {β : Type} {item : Reader β} {form : List Char → β → Prop}
    (reads : Reads item form) {text : List Char} {value : β} (written : form text value)
    (index : Nat) (gap before : Gap) {rest : List Char} (ends : Ends rest) :
    readEntry item index
        (gap.text ++ (separator (index == 0) ++ (before.text ++ (text ++ rest)))) =
      .ok (value, rest) := by
  simp only [readEntry, next_item_item (index == 0) gap before ((reads.starts written).append rest)]
  exact reads.read written rest ends

theorem close_entries_gap (gap : Gap) (rest : List Char) :
    closeEntries (gap.text ++ ']' :: rest) = .ok rest := by
  simp [closeEntries, drop_blank_gap_cons gap (show isBlank ']' = false from rfl)]

theorem read_problem_brace (text : List Char) :
    readProblem ('\x7b' :: text) = readMembers {} true text := by
  simp [readProblem, drop_blank_cons (show isBlank '\x7b' = false from rfl)]

theorem read_problem_bracket (text : List Char) : readProblem ('[' :: text) = readEntries text := by
  simp [readProblem, drop_blank_cons (show isBlank '[' = false from rfl)]

theorem read_problem_array {problem : Problem Float} {text : List Char}
    (written : ArrayWritten problem text) (trail : List Char) :
    readProblem (text ++ trail) = .ok (problem, trail) := by
  cases written with
  | @mk before₁ after₁ before₂ after₂ before₃ after₃ objective constraints rhs first second third =>
      have objectiveRead := read_entry_written vector_reads first 0 Gap.none before₁
        (ends_gap after₁ (ends_comma (before₂.text ++ (constraints ++ (after₂.text ++ ',' ::
          (before₃.text ++ (rhs ++ (after₃.text ++ ']' :: trail))))))))
      have constraintsRead := read_entry_written matrix_reads second 1 after₁ before₂
        (ends_gap after₂ (ends_comma (before₃.text ++ (rhs ++ (after₃.text ++ ']' :: trail)))))
      have rhsRead := read_entry_written vector_reads third 2 after₂ before₃
        (ends_gap after₃ (ends_bracket trail))
      simp only [separator, Gap.none, Nat.reduceBEq, Bool.false_eq_true, if_true, if_false,
        List.nil_append, List.cons_append] at objectiveRead constraintsRead rhsRead
      simp only [List.cons_append, List.append_assoc, List.nil_append, read_problem_bracket,
        readEntries, objectiveRead, constraintsRead, rhsRead, close_entries_gap, bind, Except.bind,
        pure, Except.pure]

theorem read_problem_object {problem : Problem Float} {members : List Member} {text : List Char}
    (written : ObjectWritten members text) (suit : ∀ member ∈ members, member.Suits problem)
    (once : ∀ field, occurrences members field = 1) (trail : List Char) :
    readProblem (text ++ trail) = .ok (problem, trail) := by
  cases written with
  | empty gap => cases once .objective
  | filled inside =>
      rw [List.cons_append, List.append_assoc, read_problem_brace]
      change readMembers (Draft.holding problem fun _ => false) true
        (Gap.none.text ++ (separator true ++ (_ ++ '\x7d' :: trail))) = _
      exact read_members_holding inside suit (fun field => by simp [once field]) true Gap.none trail

theorem read_problem_stays {members : List Member} {text : List Char}
    (written : ObjectWritten members text)
    (values : ∀ member ∈ members, Written .value member.value) {trail after : List Char}
    {problem : Problem Float} (read : readProblem (text ++ trail) = .ok (problem, after)) :
    after = trail ∧ ∀ field, occurrences members field = 1 := by
  cases written with
  | empty gap =>
      rw [List.cons_append, List.append_assoc, read_problem_brace] at read
      cases (read_members_close {} true gap trail).symm.trans read
  | filled inside =>
      rw [List.cons_append, List.append_assoc, read_problem_brace] at read
      have fromStart : readMembers {} true
        (Gap.none.text ++ (separator true ++ (_ ++ '\x7d' :: trail))) = _ := read
      obtain ⟨left, once⟩ := read_members_stays inside values fromStart
      refine ⟨left, fun field => ?_⟩
      have count := once field
      cases field <;> simpa [Draft.has] using count

theorem parse_of_read {text trail : List Char} {problem : Problem Float} (lead : Gap)
    (read : readProblem (text ++ trail) = .ok (problem, trail))
    (blank : ∀ character ∈ trail, isBlank character = true) :
    parse (String.ofList (lead.text ++ (text ++ trail))) = .ok problem := by
  have fromLead : readProblem (lead.text ++ (text ++ trail)) = .ok (problem, trail) := by
    rw [← read]
    simp only [readProblem, drop_blank_gap]
  have nothing : dropBlank trail = [] := drop_blank_eq_nil_iff.mpr blank
  simp only [parse, String.toList_ofList, fromLead, nothing, List.isEmpty_nil, if_true]

theorem read_of_parse {text trail : List Char} {problem : Problem Float} {lead : Gap}
    (parsed : parse (String.ofList (lead.text ++ (text ++ trail))) = .ok problem) :
    ∃ after, readProblem (text ++ trail) = .ok (problem, after) ∧ dropBlank after = [] := by
  have fromLead : readProblem (lead.text ++ (text ++ trail)) = readProblem (text ++ trail) := by
    simp only [readProblem, drop_blank_gap]
  simp only [parse, String.toList_ofList, fromLead] at parsed
  split at parsed
  · cases parsed
  · rename_i found after read
    split at parsed
    · rename_i nothing
      cases parsed
      exact ⟨after, read, List.isEmpty_iff.mp nothing⟩
    · cases parsed

/-- Members may come in any order, among others, with blanks everywhere: an object means what
the list of its three values means. It is rejected when a field is missing or given twice, or
when anything but blanks follows. -/
theorem layout_irrelevant {members : List Member} {text : List Char}
    (written : ObjectWritten members text) (lead : Gap) (trail : List Char) :
    (∀ (problem : Problem Float) (array : List Char) (before after : Gap),
      (∀ member ∈ members, member.Suits problem) → (∀ field, occurrences members field = 1) →
      ArrayWritten problem array → (∀ character ∈ trail, isBlank character = true) →
        parse (String.ofList (lead.text ++ (text ++ trail))) = .ok problem ∧
          parse (String.ofList (before.text ++ (array ++ after.text))) = .ok problem) ∧
      ((∀ member ∈ members, Written .value member.value) →
        ((∃ field, occurrences members field ≠ 1) ∨
          ∃ character ∈ trail, isBlank character = false) →
        ∃ cause, parse (String.ofList (lead.text ++ (text ++ trail))) = .error cause) := by
  refine ⟨fun problem array before after suit once other blank => ⟨?_, ?_⟩, fun values wrong => ?_⟩
  · exact parse_of_read lead (read_problem_object written suit once trail) blank
  · exact parse_of_read before (read_problem_array other after.text) after.blank
  · cases parsed : parse (String.ofList (lead.text ++ (text ++ trail))) with
    | error cause => exact ⟨cause, rfl⟩
    | ok problem =>
        obtain ⟨left, read, nothing⟩ := read_of_parse parsed
        obtain ⟨rfl, once⟩ := read_problem_stays written values read
        rcases wrong with ⟨field, notOnce⟩ | ⟨character, isLeft, ink⟩
        · exact absurd (once field) notOnce
        · rw [drop_blank_eq_nil_iff.mp nothing character isLeft] at ink
          cases ink

/-! An object with an escape in a key and a member of no field, whose own key holds half of a
pair of code units. -/

def shuffled : List Member :=
  [⟨"rhs".toList, "[3]".toList⟩, ⟨"note".toList, "\x7b\"\\uD800\":[null ]\x7d".toList⟩,
    ⟨"constraints".toList, "[[1, 2]]".toList⟩, ⟨"objective".toList, "[1]".toList⟩]

def shuffledText : List Char :=
  "\x7b\"\\u0072hs\" :[3],\"note\":\x7b\"\\uD800\":[null ]\x7d,\n".toList ++
    "\"constraints\":[[1, 2]],\"objective\":[1]\x7d".toList

def space : Gap :=
  .of [' '] rfl

theorem shuffled_written : ObjectWritten shuffled shuffledText := by
  have unit : UnitForm ['0', '0', '7', '2'] 0x72 := ⟨rfl, _, rfl, rfl⟩
  have rhs := Spells.unit unit rfl rfl (spells_plain "hs".toList (by decide))
  have fourth := @MembersWritten.last .none ⟨"objective".toList, "[1]".toList⟩ _
    (spells_plain _ (by decide))
  have third := @MembersWritten.more ⟨.of ['\n'] rfl, .none, .none, .none⟩
    ⟨"constraints".toList, "[[1, 2]]".toList⟩ _ _ _ (spells_plain _ (by decide)) fourth
  have second := @MembersWritten.more .none
    ⟨"note".toList, "\x7b\"\\uD800\":[null ]\x7d".toList⟩ _ _ _ (spells_plain _ (by decide)) third
  exact .filled (@MembersWritten.more ⟨.none, space, .none, .none⟩
    ⟨"rhs".toList, "[3]".toList⟩ _ _ _ rhs second)

def shuffledProblem : Problem Float :=
  ⟨[1], [[1, 2]], [3]⟩

theorem digit_written {digit : Char} {value : Nat} (isDigit : digit.isDigit = true)
    (read : readNumber [digit] = .ok (.integer value, [])) :
    NumberWritten [digit] (Float.ofNat value) where
  form := @NumberForm.mk [] [digit] [] [] (.inl rfl)
    ⟨⟨List.cons_ne_nil _ _, by simpa using isDigit⟩, fun _ => rfl⟩ .absent .absent
  accepted := ⟨_, read, rfl⟩

theorem note_written : Written .value "\x7b\"\\uD800\":[null ]\x7d".toList := by
  have unit : UnitForm ['D', '8', '0', '0'] 0xD800 := ⟨rfl, _, rfl, rfl⟩
  have key : StringForm "\\uD800".toList := .unit unit .nil
  exact .filled (.lastMember .none key (.filled (.lastItem .none space .null)))

theorem shuffled_values (field : Field) : FieldWritten shuffledProblem (match field with
    | .objective => "[1]".toList
    | .constraints => "[[1, 2]]".toList
    | .rhs => "[3]".toList) field := by
  have one : NumberWritten ['1'] 1 := digit_written rfl rfl
  have two : NumberWritten ['2'] 2 := digit_written rfl rfl
  have three : NumberWritten ['3'] 3 := digit_written rfl rfl
  have row : VectorWritten "[1, 2]".toList [1, 2] :=
    .filled (.more .none .none one (.last space .none two))
  cases field with
  | objective => exact .filled (.last .none .none one)
  | constraints => exact .filled (.last .none .none row)
  | rhs => exact .filled (.last .none .none three)

theorem shuffled_suits : ∀ member ∈ shuffled, member.Suits shuffledProblem := by
  intro member isMember
  simp only [shuffled, List.mem_cons, List.not_mem_nil, or_false] at isMember
  rcases isMember with rfl | rfl | rfl | rfl
  · exact Member.suits_of_field (of_name_name .rhs) (shuffled_values .rhs)
  · exact note_written
  · exact Member.suits_of_field (of_name_name .constraints) (shuffled_values .constraints)
  · exact Member.suits_of_field (of_name_name .objective) (shuffled_values .objective)

theorem shuffled_once (field : Field) : occurrences shuffled field = 1 := by
  cases field <;> rfl

theorem layout_irrelevant_of_shuffled :
    (parse (String.ofList (shuffledText ++ ['\n'])) = .ok shuffledProblem ∧
      parse (String.ofList " [[1],[[1, 2]] ,[3]]".toList) = .ok shuffledProblem) ∧
      ∃ cause, parse (String.ofList (shuffledText ++ ['\n', '1'])) = .error cause := by
  have array : ArrayWritten shuffledProblem "[[1],[[1, 2]] ,[3]]".toList :=
    .mk .none .none .none space .none .none (shuffled_values .objective)
      (shuffled_values .constraints) (shuffled_values .rhs)
  have accepted := (layout_irrelevant shuffled_written .none ['\n']).1 shuffledProblem _ space .none
    shuffled_suits shuffled_once array (List.all_eq_true.mp rfl)
  have rejected := (layout_irrelevant shuffled_written .none ['\n', '1']).2
    (fun member isMember => Member.written_of_suits (shuffled_suits member isMember))
    (.inr ⟨'1', by decide, rfl⟩)
  exact ⟨⟨accepted.1, accepted.2⟩, rejected⟩

end LinearProgram.Document
