/-!
# Cutting a text at its separators

A text that was put together with a separator is cut into the same pieces again, if the
character that the separator starts with is in none of them.
-/

namespace LinearProgram.Text

open String.Slice.Pattern String.Slice.Pattern.Model ForwardStringSearcher

variable {first : Char} {separator rest : String}

section Cuts

variable {text : String.Slice}

theorem not_matches_at {char : Char} {before tail : String} {position : text.Pos}
    (starts : separator = String.singleton first ++ rest) (other : first ≠ char)
    (splits : position.Splits before (String.singleton char ++ tail)) :
    ¬MatchesAt separator position := by
  rw [matchesAt_iff_splits]
  rintro ⟨_, further, found⟩
  have same := splits.eq_right found
  rw [starts, String.append_assoc, String.singleton_append_inj] at same
  exact other same.1.symm

variable [StrictPatternModel separator]

/-- Nothing is cut on the way over a piece. -/
theorem split_passes (starts : separator = String.singleton first ++ rest) (tail : String)
    (chars : List Char) (absent : first ∉ chars) (opening position : text.Pos)
    (le : opening ≤ position) (before : String)
    (splits : position.Splits before (String.ofList chars ++ tail)) :
    ∃ (stop : text.Pos) (reached : opening ≤ stop),
      stop.Splits (before ++ String.ofList chars) tail ∧
        Model.split separator opening position le = Model.split separator opening stop reached := by
  induction chars generalizing position before with
  | nil => exact ⟨position, le, by simpa using splits, rfl⟩
  | cons char chars ih =>
      rw [List.mem_cons, not_or] at absent
      rw [String.ofList_cons, String.append_assoc] at splits
      have inside := splits.ne_endPos_of_singleton
      have noMatch := not_matches_at starts absent.1 splits
      obtain ⟨stop, reached, stopSplits, same⟩ := ih absent.2 (position.next inside)
        (Std.le_trans le String.Slice.Pos.le_next) (before ++ String.singleton char) splits.next
      refine ⟨stop, reached, ?_, ?_⟩
      · rwa [String.ofList_cons, ← String.append_assoc]
      · rw [split_eq_next_of_not_matchesAt inside noMatch, same]

theorem subslice_copy {opening stop : text.Pos} {before piece tail : String}
    (reached : opening ≤ stop) (openingSplits : opening.Splits before (piece ++ tail))
    (stopSplits : stop.Splits (before ++ piece) tail) :
    (text.subslice opening stop reached).toSlice.copy = piece := by
  obtain ⟨_, isPiece⟩ :=
    String.Slice.copy_slice_eq_iff_splits.mpr ⟨before, tail, openingSplits, stopSplits⟩
  exact isPiece

/-- The pieces that are cut off from a position on. -/
noncomputable def cuts (separator : String) [StrictPatternModel separator]
    (opening : text.Pos) : List String :=
  (Model.split separator opening opening (Std.le_refl _)).map (·.toSlice.copy)

theorem cuts_last (starts : separator = String.singleton first ++ rest) {piece before : String}
    {opening : text.Pos} (absent : first ∉ piece.toList) (splits : opening.Splits before piece) :
    cuts separator opening = [piece] := by
  have splitsPiece : opening.Splits before (String.ofList piece.toList ++ "") := by
    simpa using splits
  obtain ⟨stop, reached, stopSplits, same⟩ := split_passes starts "" piece.toList absent opening
    opening (Std.le_refl _) before splitsPiece
  have copied := subslice_copy reached splitsPiece stopSplits
  obtain rfl := stopSplits.eq_endPos_iff.mpr rfl
  rw [cuts, same, split_endPos, List.map_singleton, copied, String.ofList_toList]

theorem cuts_first (starts : separator = String.singleton first ++ rest)
    {piece before tail : String} {opening : text.Pos} (absent : first ∉ piece.toList)
    (splits : opening.Splits before (piece ++ (separator ++ tail))) :
    ∃ after : text.Pos, after.Splits (before ++ piece ++ separator) tail ∧
      cuts separator opening = piece :: cuts separator after := by
  have splitsPiece : opening.Splits before (String.ofList piece.toList ++ (separator ++ tail)) := by
    simpa using splits
  obtain ⟨stop, reached, stopSplits, same⟩ := split_passes starts (separator ++ tail) piece.toList
    absent opening opening (Std.le_refl _) before splitsPiece
  have copied := subslice_copy reached splitsPiece stopSplits
  rw [String.ofList_toList] at stopSplits copied
  have found : IsLongestMatchAt separator stop stopSplits.rotateRight :=
    isLongestMatchAt_iff_splits.mpr ⟨_, _, stopSplits, stopSplits.splits_rotateRight⟩
  refine ⟨stopSplits.rotateRight, stopSplits.splits_rotateRight, ?_⟩
  rw [cuts, same, split_eq_of_isLongestMatchAt found, List.map_cons, copied, cuts]

/-- From the start of a piece on, the cuts fall between the pieces. -/
theorem cuts_intercalate (starts : separator = String.singleton first ++ rest)
    (pieces : List String) (piece : String)
    (absent : ∀ other ∈ piece :: pieces, first ∉ other.toList) (opening : text.Pos)
    (before : String) (splits : opening.Splits before (separator.intercalate (piece :: pieces))) :
    cuts separator opening = piece :: pieces := by
  have absentHere : first ∉ piece.toList := absent piece List.mem_cons_self
  induction pieces generalizing piece opening before with
  | nil =>
      rw [String.intercalate_singleton] at splits
      exact cuts_last starts absentHere splits
  | cons next pieces ih =>
      rw [String.intercalate_cons_cons, String.append_assoc] at splits
      obtain ⟨after, afterSplits, same⟩ := cuts_first starts absentHere splits
      have absentAfter : ∀ other ∈ next :: pieces, first ∉ other.toList :=
        fun other member => absent other (List.mem_cons_of_mem _ member)
      rw [same, ih next absentAfter after _ afterSplits (absentAfter next List.mem_cons_self)]

end Cuts

/-- Cutting a text of joined entries gives the entries back. The text of no entry at all is
empty, and an empty text is one empty piece. -/
theorem split_intercalate (starts : separator = String.singleton first ++ rest)
    (entries : List String) (absent : ∀ entry ∈ entries, first ∉ entry.toList) :
    ((separator.intercalate entries).split separator).toList.map (·.copy) =
      if entries = [] then [""] else entries := by
  have inhabited : separator ≠ "" := by
    rw [starts]
    simp
  have := strictPatternModel inhabited
  have := lawfulToForwardSearcherModel inhabited
  cases entries with
  | nil =>
      rw [String.intercalate_nil, if_pos rfl]
      exact String.toList_split_empty separator
  | cons entry entries =>
      have splits := (separator.intercalate (entry :: entries)).toSlice.splits_startPos
      rw [String.copy_toSlice] at splits
      rw [if_neg (List.cons_ne_nil _ _), String.split_eq_split_toSlice,
        String.Slice.toList_split_eq_splitToSubslice, toList_splitToSubslice_eq_modelSplit,
        List.map_map]
      exact cuts_intercalate starts entries entry absent _ _ splits

end LinearProgram.Text
