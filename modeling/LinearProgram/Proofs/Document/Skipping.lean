import LinearProgram.Proofs.Document.Scanning

/-!
# Passing over well-formed values

A value that is written by the grammar is passed over to its end, whatever frames
are open around it. The proof follows the derivation of the value; the frames are
general in it, since a nested value is met below the frames of the outer ones.
-/

namespace LinearProgram.Document

theorem MemberGaps.lay_append (gaps : MemberGaps) (key value rest more : List Char) :
    gaps.lay key value rest ++ more = gaps.lay key value (rest ++ more) := by
  simp [MemberGaps.lay]

/-! ## How a value starts -/

/-- The text starts with a character that neither separates nor closes. -/
def Starts (text : List Char) : Prop :=
  ∃ first rest, text = first :: rest ∧ isBlank first = false ∧ first ≠ ',' ∧
    ∀ frame : Frame, first ≠ frame.closing

theorem starts_of_cons {first : Char} {rest : List Char}
    (suits : (isBlank first || first == ',' || first == ']' || first == '\x7d') = false) :
    Starts (first :: rest) := by
  simp only [Bool.or_eq_false_iff, beq_eq_false_iff_ne] at suits
  obtain ⟨⟨⟨ink, noComma⟩, noBracket⟩, noBrace⟩ := suits
  refine ⟨first, rest, rfl, ink, noComma, fun frame => ?_⟩
  cases frame
  · exact noBracket
  · exact noBrace

theorem Starts.append {text : List Char} (starts : Starts text) (rest : List Char) :
    Starts (text ++ rest) := by
  obtain ⟨first, tail, rfl, suits⟩ := starts
  exact ⟨first, tail ++ rest, rfl, suits⟩

theorem number_starts {text : List Char} (form : NumberForm text) : Starts text := by
  obtain ⟨first, rest, rfl, isMinus | isDigit⟩ := number_head form
  · subst isMinus
    exact starts_of_cons (by decide)
  · refine starts_of_cons ?_
    cases suits : isBlank first || first == ',' || first == ']' || first == '\x7d' with
    | false => rfl
    | true =>
        simp only [isBlank, Bool.or_eq_true, beq_iff_eq] at suits
        rcases suits with (((((rfl | rfl) | rfl) | rfl) | rfl) | rfl) | rfl <;> cases isDigit

theorem opening_starts (frame : Frame) (rest : List Char) : Starts (frame.opening :: rest) := by
  cases frame <;> exact starts_of_cons (by decide)

theorem written_starts {text : List Char} (written : Written .value text) : Starts text := by
  cases written with
  | null => exact starts_of_cons (by decide)
  | true => exact starts_of_cons (by decide)
  | false => exact starts_of_cons (by decide)
  | number form => exact number_starts form
  | string => exact starts_of_cons (by decide)
  | empty frame => exact opening_starts frame _
  | filled => exact opening_starts _ _

theorem drop_blank_starts (gap : Gap) {text : List Char} (starts : Starts text)
    (rest : List Char) :
    ∃ first tail, dropBlank (gap.text ++ (text ++ rest)) = first :: tail ∧
      ∀ frame : Frame, first ≠ frame.closing := by
  obtain ⟨first, tail, rfl, ink, _, goesOn⟩ := starts
  exact ⟨first, tail ++ rest, drop_blank_gap_cons gap ink _, goesOn⟩

theorem drop_blank_lay (gaps : MemberGaps) (key value rest : List Char) :
    ∃ tail, dropBlank (gaps.lay key value rest) = '"' :: tail :=
  ⟨_, drop_blank_gap_cons gaps.beforeKey rfl _⟩

/-- What a frame holds does not start with the closing bracket. -/
theorem content_opens {frame : Frame} {text : List Char} (written : Written (.content frame) text)
    (rest : List Char) :
    ∃ first tail, dropBlank (text ++ rest) = first :: tail ∧ first ≠ frame.closing := by
  cases written with
  | lastItem before after value =>
      obtain ⟨first, tail, same, goesOn⟩ := drop_blank_starts before (written_starts value)
        (after.text ++ rest)
      exact ⟨first, tail, by simpa using same, goesOn .list⟩
  | item before after value =>
      obtain ⟨first, tail, same, goesOn⟩ := drop_blank_starts before (written_starts value) _
      exact ⟨first, tail, by simpa using same, goesOn .list⟩
  | lastMember gaps =>
      obtain ⟨tail, same⟩ := drop_blank_lay gaps _ _ _
      exact ⟨'"', tail, by rw [MemberGaps.lay_append, same], by decide⟩
  | member gaps =>
      obtain ⟨tail, same⟩ := drop_blank_lay gaps _ _ _
      exact ⟨'"', tail, by rw [MemberGaps.lay_append, same], by decide⟩

/-! ## One move -/

theorem skip_step {position next : Position} {frames inner : List Frame} {text rest : List Char}
    (unfinished : ¬(position = .afterValue ∧ frames = []))
    (step : skipStep position frames text = .ok (next, inner, rest)) :
    skip position frames text = skip next inner rest := by
  rw [skip, dif_neg unfinished]
  split
  · rename_i failed
    rw [step] at failed
    cases failed
  · rename_i found
    rw [step] at found
    cases found
    rfl

/-- Blanks before a value make no difference. -/
theorem skip_congr {text other : List Char} (same : dropBlank text = dropBlank other)
    (frames : List Frame) : skip .beforeValue frames text = skip .beforeValue frames other := by
  have step : skipStep .beforeValue frames text = skipStep .beforeValue frames other := by
    simp only [skipStep, same]
  rw [skip, skip, dif_neg (by simp), dif_neg (by simp)]
  split <;> rename_i first <;> split <;> rename_i second <;> rw [step, second] at first <;>
    cases first <;> rfl

theorem skip_scalar {first : Char} {rest after : List Char} (ink : isBlank first = false)
    (noFrame : Frame.ofOpening? first = none) (scalar : skipScalar first rest = .ok after)
    (frames : List Frame) :
    skip .beforeValue frames (first :: rest) = skip .afterValue frames after := by
  refine skip_step (by simp) ?_
  simp only [skipStep, drop_blank_cons ink, noFrame, scalar, Except.map]

theorem opening_ink (frame : Frame) : isBlank frame.opening = false := by
  cases frame <;> rfl

theorem closing_ink (frame : Frame) : isBlank frame.closing = false := by
  cases frame <;> rfl

theorem of_opening_opening (frame : Frame) : Frame.ofOpening? frame.opening = some frame := by
  cases frame <;> rfl

theorem skip_empty (frame : Frame) (gap : Gap) (frames : List Frame) (rest : List Char) :
    skip .beforeValue frames (frame.opening :: (gap.text ++ frame.closing :: rest)) =
      skip .afterValue frames rest := by
  refine skip_step (by simp) ?_
  simp only [skipStep, drop_blank_cons (opening_ink frame), of_opening_opening,
    drop_blank_gap_cons gap (closing_ink frame), if_true]

theorem skip_close (frame : Frame) (gap : Gap) (frames : List Frame) (rest : List Char) :
    skip .afterValue (frame :: frames) (gap.text ++ frame.closing :: rest) =
      skip .afterValue frames rest := by
  have noComma : frame.closing ≠ ',' := by cases frame <;> decide
  refine skip_step (by simp) ?_
  simp only [skipStep, drop_blank_gap_cons gap (closing_ink frame), if_neg noComma, if_true]

/-! ## Entering a frame -/

/-- Go on with the next item of a frame. -/
def enter (frame : Frame) (frames : List Frame) (text : List Char) : Except ReadError (List Char) :=
  match itemStart frame text with
  | .error cause => .error cause
  | .ok start => skip .beforeValue (frame :: frames) start

theorem skip_by_entering {position : Position} {frames inner : List Frame} {frame : Frame}
    {text rest : List Char} (unfinished : ¬(position = .afterValue ∧ frames = []))
    (step : skipStep position frames text =
      (itemStart frame rest).map (.beforeValue, frame :: inner, ·)) :
    skip position frames text = enter frame inner rest := by
  cases start : itemStart frame rest with
  | ok after =>
      rw [start] at step
      simp only [enter, start]
      exact skip_step unfinished step
  | error cause =>
      rw [start] at step
      simp only [enter, start]
      rw [skip, dif_neg unfinished]
      split <;> rename_i outcome <;> rw [step] at outcome <;> cases outcome
      rfl

theorem skip_comma (frame : Frame) (gap : Gap) (frames : List Frame) (rest : List Char) :
    skip .afterValue (frame :: frames) (gap.text ++ ',' :: rest) = enter frame frames rest := by
  refine skip_by_entering (by simp) ?_
  simp only [skipStep, drop_blank_gap_cons gap (show isBlank ',' = false from rfl), if_true]

theorem enter_congr {text other : List Char} (same : dropBlank text = dropBlank other)
    (frame : Frame) (frames : List Frame) :
    enter frame frames text = enter frame frames other := by
  cases frame with
  | list => exact skip_congr same _
  | object => simp only [enter, itemStart, skipKey, same]

theorem skip_open {frame : Frame} {text : List Char} (written : Written (.content frame) text)
    (frames : List Frame) (rest : List Char) :
    skip .beforeValue frames (frame.opening :: (text ++ rest)) =
      enter frame frames (text ++ rest) := by
  obtain ⟨first, tail, remaining, goesOn⟩ := content_opens written rest
  rw [← enter_congr (drop_blank_drop_blank (text ++ rest)), remaining]
  refine skip_by_entering (by simp) ?_
  simp only [skipStep, drop_blank_cons (opening_ink frame), of_opening_opening, remaining,
    if_neg goesOn]

theorem expect_colon_gap (gap : Gap) (rest : List Char) :
    expectColon (gap.text ++ ':' :: rest) = .ok rest := by
  simp [expectColon, drop_blank_gap_cons gap (show isBlank ':' = false from rfl)]

theorem enter_item (before : Gap) (frames : List Frame) (text : List Char) :
    enter .list frames (before.text ++ text) = skip .beforeValue (.list :: frames) text :=
  skip_congr (drop_blank_gap before text) _

theorem enter_member (gaps : MemberGaps) {key : List Char} (form : StringForm key)
    (frames : List Frame) (value rest : List Char) :
    enter .object frames (gaps.lay key value rest) =
      skip .beforeValue (.object :: frames) (value ++ (gaps.afterValue.text ++ rest)) := by
  obtain ⟨found, scanned⟩ := scan_string_form form [] (gaps.beforeColon.text ++ ':' ::
    (gaps.beforeValue.text ++ (value ++ (gaps.afterValue.text ++ rest))))
  have start : itemStart .object (gaps.lay key value rest) =
      .ok (gaps.beforeValue.text ++ (value ++ (gaps.afterValue.text ++ rest))) := by
    simp only [itemStart, skipKey, MemberGaps.lay,
      drop_blank_gap_cons gaps.beforeKey (show isBlank '"' = false from rfl), if_true, scanned,
      expect_colon_gap]
  simp only [enter, start]
  exact skip_congr (drop_blank_gap gaps.beforeValue _) _

/-! ## Whole values -/

theorem expect_word_append (word rest : List Char) : expectWord word (word ++ rest) = .ok rest := by
  induction word with
  | nil => rfl
  | cons letter word induction => simpa [expectWord] using induction

theorem skip_word {first : Char} (word : List Char) (ink : isBlank first = false)
    (noFrame : Frame.ofOpening? first = none)
    (isWord : ∀ rest, skipScalar first rest = expectWord word rest) (frames : List Frame)
    (rest : List Char) :
    skip .beforeValue frames (first :: (word ++ rest)) = skip .afterValue frames rest :=
  skip_scalar ink noFrame ((isWord _).trans (expect_word_append word rest)) frames

theorem skip_number {text rest : List Char} (form : NumberForm text) (ends : Ends rest)
    (frames : List Frame) :
    skip .beforeValue frames (text ++ rest) = skip .afterValue frames rest := by
  obtain ⟨first, tail, rfl, isNumber⟩ := number_head form
  obtain ⟨_, _, same, ink, _⟩ := number_starts form
  cases same
  have skipped := skip_number_append form ends
  refine skip_scalar ink ?_ ?_ frames
  · unfold Frame.ofOpening?
    split
    · simp at isNumber
    · simp at isNumber
    · rfl
  · have noWord : first ≠ 'n' ∧ first ≠ 't' ∧ first ≠ 'f' := by
      refine ⟨?_, ?_, ?_⟩ <;> rintro rfl <;> simp at isNumber
    rw [skipScalar, if_neg noWord.1, if_neg noWord.2.1, if_neg noWord.2.2, if_pos isNumber]
    exact skipped

/-- What passing over a text of the grammar comes to. -/
def Passes : Part → List Char → Prop
  | .value, text => ∀ frames rest, Ends rest →
      skip .beforeValue frames (text ++ rest) = skip .afterValue frames rest
  | .content frame, text => ∀ frames rest,
      enter frame frames (text ++ frame.closing :: rest) = skip .afterValue frames rest

theorem written_passes {part : Part} {text : List Char} (written : Written part text) :
    Passes part text := by
  induction written with
  | null => exact fun frames rest _ => skip_word ['u', 'l', 'l'] rfl rfl (fun _ => rfl) frames rest
  | true => exact fun frames rest _ => skip_word ['r', 'u', 'e'] rfl rfl (fun _ => rfl) frames rest
  | false =>
      exact fun frames rest _ => skip_word ['a', 'l', 's', 'e'] rfl rfl (fun _ => rfl) frames rest
  | number form => exact fun frames rest ends => skip_number form ends frames
  | @string text form =>
      intro frames rest _
      obtain ⟨found, scanned⟩ := scan_string_form form [] rest
      rw [List.cons_append, List.append_assoc]
      refine skip_scalar rfl rfl ?_ frames
      change (scanString looseEscape [] (text ++ '"' :: rest)).map _ = _
      rw [scanned]
      rfl
  | empty frame gap =>
      intro frames rest _
      simpa using skip_empty frame gap frames rest
  | filled content induction =>
      intro frames rest _
      rw [List.cons_append, List.append_assoc, skip_open content]
      exact induction frames rest
  | lastItem before after value induction =>
      intro frames rest
      rw [List.append_assoc, List.append_assoc, enter_item,
        induction _ _ (ends_gap after (ends_closing .list rest)), skip_close]
  | item before after value others first second =>
      intro frames rest
      simp only [List.append_assoc, List.cons_append]
      rw [enter_item, first _ _ (ends_gap after (ends_comma _)), skip_comma]
      exact second frames rest
  | lastMember gaps form value induction =>
      intro frames rest
      rw [MemberGaps.lay_append, enter_member gaps form, List.nil_append,
        induction _ _ (ends_gap _ (ends_closing .object rest)), skip_close]
  | member gaps form value others first second =>
      intro frames rest
      rw [MemberGaps.lay_append, enter_member gaps form, List.cons_append,
        first _ _ (ends_gap _ (ends_comma _)), skip_comma]
      exact second frames rest

theorem skip_value_written {text rest : List Char} (written : Written .value text)
    (ends : Ends rest) : skipValue (text ++ rest) = .ok rest := by
  have passed : skip .beforeValue [] (text ++ rest) = skip .afterValue [] rest :=
    written_passes written [] rest ends
  rw [skipValue, passed, skip, dif_pos ⟨rfl, rfl⟩]

end LinearProgram.Document
