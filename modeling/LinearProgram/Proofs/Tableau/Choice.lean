import LinearProgram.Proofs.Tableau.Shape

/-!
# The choice of a pivot

The entering column has the least cost, and the leaving row has the least ratio
among the rows whose entry exceeds the tolerance. Both scans keep their candidate
on a tie, so the winner is the first of the least.
-/

namespace LinearProgram.Tableau

open Scalar

section Inside

variable {α : Type} [Scalar α] {n m : Nat} {tableau : Tableau α} {tolerance : α}

theorem fold_mem (best : α × Nat) (rest : List (α × Nat)) :
    rest.foldl (fun best next => if next.1 < best.1 then next else best) best ∈ best :: rest := by
  induction rest generalizing best with
  | nil => exact List.mem_singleton_self best
  | cons next rest ih =>
      rw [List.foldl_cons]
      split_ifs
      · exact List.mem_cons_of_mem _ (ih next)
      · exact List.mem_cons.mpr ((List.mem_cons.mp (ih best)).imp_right (List.mem_cons_of_mem _))

theorem first_least_mem {candidates : List (α × Nat)} {winner : α × Nat}
    (found : firstLeast candidates = some winner) : winner ∈ candidates := by
  cases candidates with
  | nil => cases found
  | cons best rest =>
      rw [← Option.some.inj found]
      exact fold_mem best rest

theorem fold_cases (best : α × Nat) (rest : List (α × Nat)) :
    rest.foldl (fun best next => if next.1 < best.1 then next else best) best = best ∨
      ∃ other : α × Nat,
        (rest.foldl (fun best next => if next.1 < best.1 then next else best) best).1 < other.1 := by
  induction rest generalizing best with
  | nil => exact .inl rfl
  | cons next rest ih =>
      rw [List.foldl_cons]
      split_ifs with smaller
      · rcases ih next with kept | replaced
        · right
          rw [kept]
          exact ⟨best, smaller⟩
        · exact .inr replaced
      · exact ih best

theorem mem_cost_candidates_iff (shaped : Shaped n m tableau) (candidate : α × Nat) :
    candidate ∈ (tableau.cost.take tableau.rhsColumn).zipIdx ↔
      candidate.2 < n + m ∧ candidate.1 = tableau.costAt candidate.2 := by
  rw [List.mem_zipIdx_iff_getElem?, shaped.rhs_column, List.getElem?_take]
  split_ifs with inside
  · have costInside : candidate.2 < tableau.cost.length := by
      rw [shaped.costWidth]
      omega
    rw [List.getElem?_eq_getElem costInside, costAt, entry, List.getD_eq_getElem _ _ costInside]
    simp [inside, eq_comm]
  · simp [inside]

/-- Whatever the order of the entries, a column that enters is no right-hand side,
and it is the first column or has won against another one. -/
theorem entering_column_cases (shaped : Shaped n m tableau) {column : Nat}
    (chosen : tableau.enteringColumn tolerance = some column) :
    column < n + m ∧ ¬-tolerance ≤ tableau.costAt column ∧
      (column = 0 ∨ ∃ other, tableau.costAt column < other) := by
  unfold enteringColumn at chosen
  split at chosen
  · cases chosen
  · next least index found =>
    split_ifs at chosen with optimal
    obtain rfl := Option.some.inj chosen
    obtain ⟨inside, isCost⟩ := (mem_cost_candidates_iff shaped _).mp (first_least_mem found)
    dsimp only at inside isCost
    rw [← isCost]
    refine ⟨inside, optimal, ?_⟩
    cases candidates : tableau.cost.take tableau.rhsColumn with
    | nil => simp [candidates, firstLeast] at found
    | cons first rest =>
        rw [candidates, List.zipIdx_cons] at found
        have winner := Option.some.inj found
        rcases fold_cases (first, 0) (rest.zipIdx 1) with kept | ⟨other, below⟩
        · rw [winner] at kept
          exact .inl (Prod.mk.inj kept).2
        · rw [winner] at below
          exact .inr ⟨other.1, below⟩

theorem entering_column_lt (shaped : Shaped n m tableau) {column : Nat}
    (chosen : tableau.enteringColumn tolerance = some column) : column < n + m :=
  (entering_column_cases shaped chosen).1

theorem leaving_row_cases (shaped : Shaped n m tableau) {column row : Nat}
    (chosen : tableau.leavingRow tolerance column = some row) :
    row < m ∧ ¬tableau.cell row column ≤ tolerance := by
  rw [leavingRow, Option.map_eq_some_iff] at chosen
  obtain ⟨winner, found, rfl⟩ := chosen
  obtain ⟨⟨cells, index⟩, member, kept⟩ := List.mem_filterMap.mp (first_least_mem found)
  dsimp only at kept
  split_ifs at kept with small
  obtain rfl := Option.some.inj kept
  obtain ⟨inside, isRow⟩ :=
    List.getElem?_eq_some_iff.mp (List.mem_zipIdx_iff_getElem?.mp member)
  rw [cell, List.getD_eq_getElem _ _ inside, isRow, ← shaped.rowCount]
  exact ⟨inside, small⟩

theorem leaving_row_lt (shaped : Shaped n m tableau) {column row : Nat}
    (chosen : tableau.leavingRow tolerance column = some row) : row < m :=
  (leaving_row_cases shaped chosen).1

end Inside

/-- All candidates ahead of the winner are strictly greater, none behind it is less. -/
def IsFirstLeast (candidates : List (ℚ × Nat)) (winner : ℚ × Nat) : Prop :=
  ∃ ahead behind, candidates = ahead ++ winner :: behind ∧
    (∀ candidate ∈ ahead, winner.1 < candidate.1) ∧
      ∀ candidate ∈ behind, winner.1 ≤ candidate.1

namespace IsFirstLeast

variable {candidates rest : List (ℚ × Nat)} {best next winner candidate : ℚ × Nat}

theorem mem (least : IsFirstLeast candidates winner) : winner ∈ candidates := by
  obtain ⟨ahead, behind, split, _⟩ := least
  rw [split]
  exact List.mem_append_right ahead List.mem_cons_self

theorem le (least : IsFirstLeast candidates winner) (member : candidate ∈ candidates) :
    winner.1 ≤ candidate.1 := by
  obtain ⟨ahead, behind, split, greater, atLeast⟩ := least
  rw [split, List.mem_append, List.mem_cons] at member
  rcases member with isAhead | same | isBehind
  · exact (greater candidate isAhead).le
  · rw [same]
  · exact atLeast candidate isBehind

/-- Among candidates in the order of their indices, those ahead of the winner are
the ones with a smaller index. -/
theorem lt_of_earlier (least : IsFirstLeast candidates winner)
    (sorted : candidates.Pairwise fun first second => first.2 < second.2)
    (member : candidate ∈ candidates) (earlier : candidate.2 < winner.2) :
    winner.1 < candidate.1 := by
  obtain ⟨ahead, behind, split, greater, _⟩ := least
  rw [split, List.mem_append, List.mem_cons] at member
  rw [split, List.pairwise_append] at sorted
  rcases member with isAhead | same | isBehind
  · exact greater candidate isAhead
  · rw [same] at earlier
    exact absurd earlier (lt_irrefl _)
  · have later := (List.pairwise_cons.mp sorted.2.1).1 candidate isBehind
    exact absurd later (not_lt.mpr earlier.le)

/-- A smaller candidate takes over from the one ahead of it. -/
theorem replaced (least : IsFirstLeast (next :: rest) winner) (smaller : next.1 < best.1) :
    IsFirstLeast (best :: next :: rest) winner := by
  have belowNext := least.le List.mem_cons_self
  obtain ⟨ahead, behind, split, greater, atLeast⟩ := least
  refine ⟨best :: ahead, behind, by rw [split]; rfl, ?_, atLeast⟩
  rw [List.forall_mem_cons]
  exact ⟨lt_of_le_of_lt belowNext smaller, greater⟩

/-- A candidate that is not smaller changes nothing: the winner is the one ahead
of it, or one behind it that is below both. -/
theorem kept (least : IsFirstLeast (best :: rest) winner) (notSmaller : best.1 ≤ next.1) :
    IsFirstLeast (best :: next :: rest) winner := by
  obtain ⟨ahead, behind, split, greater, atLeast⟩ := least
  cases ahead with
  | nil =>
      obtain ⟨rfl, rfl⟩ := List.cons.inj split
      refine ⟨[], next :: rest, rfl, by simp, ?_⟩
      rw [List.forall_mem_cons]
      exact ⟨notSmaller, atLeast⟩
  | cons head ahead =>
      obtain ⟨rfl, rfl⟩ := List.cons.inj split
      rw [List.forall_mem_cons] at greater
      refine ⟨best :: next :: ahead, behind, rfl, ?_, atLeast⟩
      rw [List.forall_mem_cons, List.forall_mem_cons]
      exact ⟨greater.1, lt_of_lt_of_le greater.1 notSmaller, greater.2⟩

end IsFirstLeast

theorem fold_is_first_least (best : ℚ × Nat) (rest : List (ℚ × Nat)) :
    IsFirstLeast (best :: rest)
      (rest.foldl (fun best next => if next.1 < best.1 then next else best) best) := by
  induction rest generalizing best with
  | nil => exact ⟨[], [], rfl, by simp, by simp⟩
  | cons next rest ih =>
      rw [List.foldl_cons]
      split_ifs with smaller
      · exact (ih next).replaced smaller
      · exact (ih best).kept (not_lt.mp smaller)

theorem first_least_eq_none_iff (candidates : List (ℚ × Nat)) :
    firstLeast candidates = none ↔ candidates = [] := by
  cases candidates <;> simp [firstLeast]

theorem first_least_spec {candidates : List (ℚ × Nat)} {winner : ℚ × Nat}
    (found : firstLeast candidates = some winner) : IsFirstLeast candidates winner := by
  cases candidates with
  | nil => cases found
  | cons best rest =>
      rw [← Option.some.inj found]
      exact fold_is_first_least best rest

variable {n m : Nat} {tableau : Tableau ℚ} {tolerance : ℚ}

theorem entering_column_some (shaped : Shaped n m tableau) {column : Nat}
    (chosen : tableau.enteringColumn tolerance = some column) :
    column < n + m ∧ tableau.costAt column < -tolerance := by
  unfold enteringColumn at chosen
  split at chosen
  · cases chosen
  · next least index found =>
    split_ifs at chosen with optimal
    obtain rfl := Option.some.inj chosen
    have member := (mem_cost_candidates_iff shaped _).mp (first_least_spec found).mem
    refine ⟨member.1, ?_⟩
    rw [← member.2]
    exact not_le.mp optimal

theorem zip_idx_sorted {β : Type} (items : List β) :
    items.zipIdx.Pairwise fun first second => first.2 < second.2 := by
  have indices : (items.zipIdx.map Prod.snd).Pairwise (· < ·) := by
    rw [List.zipIdx_map_snd]
    exact List.pairwise_lt_range'
  exact List.pairwise_map.mp indices

/-- No column costs less than the entering column, and none ahead of it as little. -/
theorem entering_column_least (shaped : Shaped n m tableau) {column : Nat}
    (chosen : tableau.enteringColumn tolerance = some column) :
    (∀ other < n + m, tableau.costAt column ≤ tableau.costAt other) ∧
      ∀ other < column, tableau.costAt column < tableau.costAt other := by
  have inside := (entering_column_some shaped chosen).1
  unfold enteringColumn at chosen
  split at chosen
  · cases chosen
  · next least index found =>
    split_ifs at chosen with optimal
    obtain rfl := Option.some.inj chosen
    have first := first_least_spec found
    have cost := ((mem_cost_candidates_iff shaped _).mp first.mem).2
    have member (other : Nat) (otherInside : other < n + m) :=
      (mem_cost_candidates_iff shaped (tableau.costAt other, other)).mpr ⟨otherInside, rfl⟩
    rw [← cost]
    constructor
    · intro other otherInside
      exact first.le (member other otherInside)
    · intro other earlier
      exact first.lt_of_earlier (zip_idx_sorted _) (member other (earlier.trans inside)) earlier

theorem entering_column_none (shaped : Shaped n m tableau)
    (chosen : tableau.enteringColumn tolerance = none) {column : Nat} (inside : column < n + m) :
    -tolerance ≤ tableau.costAt column := by
  have member := (mem_cost_candidates_iff shaped (tableau.costAt column, column)).mpr ⟨inside, rfl⟩
  unfold enteringColumn at chosen
  split at chosen
  · next found =>
    rw [(first_least_eq_none_iff _).mp found] at member
    cases member
  · next least index found =>
    split_ifs at chosen with optimal
    exact le_trans optimal ((first_least_spec found).le member)

theorem entering_column_eq_some_iff (shaped : Shaped n m tableau) (tolerance : ℚ)
    (column : Nat) :
    tableau.enteringColumn tolerance = some column ↔
      (column < n + m ∧ tableau.costAt column < -tolerance) ∧
        (∀ other < n + m, tableau.costAt column ≤ tableau.costAt other) ∧
        ∀ other < column, tableau.costAt column < tableau.costAt other := by
  constructor
  · intro chosen
    exact ⟨entering_column_some shaped chosen, entering_column_least shaped chosen⟩
  · rintro ⟨⟨inside, costly⟩, least, first⟩
    cases chosen : tableau.enteringColumn tolerance with
    | none => exact absurd costly (not_lt.mpr (entering_column_none shaped chosen inside))
    | some other =>
        have otherInside := (entering_column_some shaped chosen).1
        obtain ⟨otherLeast, otherFirst⟩ := entering_column_least shaped chosen
        rcases lt_trichotomy column other with before | same | after
        · exact absurd (otherFirst column before) (not_lt.mpr (least other otherInside))
        · rw [same]
        · exact absurd (first other after) (not_lt.mpr (otherLeast column inside))

theorem mem_ratios_iff (shaped : Shaped n m tableau) (tolerance : ℚ) (column : Nat)
    (candidate : ℚ × Nat) :
    candidate ∈ tableau.ratios tolerance column ↔
      candidate.2 < m ∧ tolerance < tableau.cell candidate.2 column ∧
        candidate.1 = tableau.rhs candidate.2 / tableau.cell candidate.2 column := by
  rw [ratios, List.mem_filterMap]
  constructor
  · rintro ⟨⟨row, index⟩, member, kept⟩
    dsimp only at kept
    split_ifs at kept with small
    obtain rfl := Option.some.inj kept
    obtain ⟨inside, found⟩ := List.getElem?_eq_some_iff.mp (List.mem_zipIdx_iff_getElem?.mp member)
    rw [rhs, cell, cell, List.getD_eq_getElem _ _ inside, found]
    exact ⟨by rw [← shaped.rowCount]; exact inside, not_le.mp small, rfl⟩
  · rintro ⟨inside, large, ratio⟩
    rw [← shaped.rowCount] at inside
    rw [cell, List.getD_eq_getElem _ _ inside] at large
    rw [rhs, cell, cell, List.getD_eq_getElem _ _ inside] at ratio
    refine ⟨(tableau.rows[candidate.2], candidate.2), ?_, ?_⟩
    · rw [List.mem_zipIdx_iff_getElem?]
      exact List.getElem?_eq_getElem inside
    · dsimp only
      rw [if_neg (not_le.mpr large), ← ratio]

theorem leaving_row_some (shaped : Shaped n m tableau) {column row : Nat}
    (chosen : tableau.leavingRow tolerance column = some row) :
    row < m ∧ tolerance < tableau.cell row column ∧
      ∀ other < m, tolerance < tableau.cell other column →
        tableau.rhs row / tableau.cell row column ≤
          tableau.rhs other / tableau.cell other column := by
  rw [leavingRow, Option.map_eq_some_iff] at chosen
  obtain ⟨winner, found, rfl⟩ := chosen
  have least := first_least_spec found
  obtain ⟨inside, large, ratio⟩ := (mem_ratios_iff shaped tolerance column winner).mp least.mem
  refine ⟨inside, large, ?_⟩
  intro other otherInside otherLarge
  rw [← ratio]
  exact least.le
    ((mem_ratios_iff shaped tolerance column (_, other)).mpr ⟨otherInside, otherLarge, rfl⟩)

theorem ratios_sorted (tolerance : ℚ) (tableau : Tableau ℚ) (column : Nat) :
    (tableau.ratios tolerance column).Pairwise fun first second => first.2 < second.2 := by
  rw [ratios, List.pairwise_filterMap]
  apply (zip_idx_sorted tableau.rows).imp
  rintro ⟨row, index⟩ ⟨otherRow, otherIndex⟩ before first isFirst second isSecond
  dsimp only at isFirst isSecond before
  split_ifs at isFirst isSecond
  obtain rfl := Option.some.inj isFirst
  obtain rfl := Option.some.inj isSecond
  exact before

/-- Of the rows with the least ratio, the leaving row is the first. -/
theorem leaving_row_first (shaped : Shaped n m tableau) {column row : Nat}
    (chosen : tableau.leavingRow tolerance column = some row) :
    ∀ other < row, tolerance < tableau.cell other column →
      tableau.rhs row / tableau.cell row column <
        tableau.rhs other / tableau.cell other column := by
  have inside := (leaving_row_some shaped chosen).1
  rw [leavingRow, Option.map_eq_some_iff] at chosen
  obtain ⟨winner, found, rfl⟩ := chosen
  have first := first_least_spec found
  have ratio := ((mem_ratios_iff shaped tolerance column winner).mp first.mem).2.2
  intro other earlier otherLarge
  have member := (mem_ratios_iff shaped tolerance column
    (tableau.rhs other / tableau.cell other column, other)).mpr
      ⟨earlier.trans inside, otherLarge, rfl⟩
  rw [← ratio]
  exact first.lt_of_earlier (ratios_sorted tolerance tableau column) member earlier

theorem leaving_row_none (shaped : Shaped n m tableau) {column : Nat}
    (chosen : tableau.leavingRow tolerance column = none) {row : Nat} (inside : row < m) :
    tableau.cell row column ≤ tolerance := by
  rw [leavingRow, Option.map_eq_none_iff, first_least_eq_none_iff] at chosen
  by_contra large
  have member := (mem_ratios_iff shaped tolerance column
    (tableau.rhs row / tableau.cell row column, row)).mpr ⟨inside, not_le.mp large, rfl⟩
  rw [chosen] at member
  cases member

theorem leaving_row_eq_some_iff (shaped : Shaped n m tableau) (tolerance : ℚ)
    (column row : Nat) :
    tableau.leavingRow tolerance column = some row ↔
      (row < m ∧ tolerance < tableau.cell row column ∧
        ∀ other < m, tolerance < tableau.cell other column →
          tableau.rhs row / tableau.cell row column ≤
            tableau.rhs other / tableau.cell other column) ∧
        ∀ other < row, tolerance < tableau.cell other column →
          tableau.rhs row / tableau.cell row column <
            tableau.rhs other / tableau.cell other column := by
  constructor
  · intro chosen
    exact ⟨leaving_row_some shaped chosen, leaving_row_first shaped chosen⟩
  · rintro ⟨⟨inside, large, least⟩, first⟩
    cases chosen : tableau.leavingRow tolerance column with
    | none => exact absurd large (not_lt.mpr (leaving_row_none shaped chosen inside))
    | some other =>
        obtain ⟨otherInside, otherLarge, otherLeast⟩ := leaving_row_some shaped chosen
        have otherFirst := leaving_row_first shaped chosen
        rcases lt_trichotomy row other with before | same | after
        · exact absurd (otherFirst row before large)
            (not_lt.mpr (least other otherInside otherLarge))
        · rw [same]
        · exact absurd (first other after otherLarge)
            (not_lt.mpr (otherLeast row inside large))

end LinearProgram.Tableau
