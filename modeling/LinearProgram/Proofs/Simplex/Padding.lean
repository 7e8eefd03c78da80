import LinearProgram.Proofs.Simplex.Visited
import LinearProgram.Proofs.Tableau.BasicPoint
import LinearProgram.Proofs.Tableau.Choice

/-!
# Padded tableaux

A tableau is padded when it is a smaller one with zero columns put in between and
with rows added that are zero in the columns of the smaller one. The order of the
columns is kept, so both choices of a pivot are the same, ties included, and the
padding stays as it is: a run on the padded tableau is the run on the smaller one
with the columns renamed.
-/

namespace LinearProgram

/-- The same event with the columns renamed. -/
def Event.renamed {α : Type} (columns : ℕ → ℕ) : Event α → Event α
  | .pivot iteration column row => .pivot iteration (columns column) row
  | .barrierStep iteration barrier measure target closed =>
      .barrierStep iteration barrier measure target closed
  | .converged iteration barrier => .converged iteration barrier

theorem Event.renamed_pivot_cells {α : Type} (columns : ℕ → ℕ) (events : List (Event α)) :
    (events.map (Event.renamed columns)).filterMap Event.pivotCell? =
      (events.filterMap Event.pivotCell?).map (Prod.map columns id) := by
  rw [List.filterMap_map, List.map_filterMap]
  apply List.filterMap_congr
  intro event _
  cases event <;> rfl

namespace Tableau

variable {n m n' m' : ℕ} {columns : ℕ → ℕ} {small big : Tableau ℚ} {tolerance : ℚ}

/-- How the columns of a tableau stand in a larger one: in order, the right-hand
side last. -/
structure Placement (n m n' m' : ℕ) (columns : ℕ → ℕ) : Prop where
  ordered : StrictMono columns
  rowCount : m ≤ m'
  rhsLast : columns (n + m) = n' + m'

def Idle (n m : ℕ) (columns : ℕ → ℕ) (position : ℕ) : Prop :=
  ∀ column ≤ n + m, columns column ≠ position

structure Padded (n m n' m' : ℕ) (columns : ℕ → ℕ) (small big : Tableau ℚ) : Prop where
  smallShaped : Shaped n m small
  bigShaped : Shaped n' m' big
  cell : ∀ row < m, ∀ column ≤ n + m, big.cell row (columns column) = small.cell row column
  cost : ∀ column ≤ n + m, big.costAt (columns column) = small.costAt column
  idleCell : ∀ row < m, ∀ position ≤ n' + m', Idle n m columns position →
    big.cell row position = 0
  idleCost : ∀ position ≤ n' + m', Idle n m columns position → big.costAt position = 0
  idleRow : ∀ row < m', m ≤ row → ∀ column ≤ n + m, big.cell row (columns column) = 0
  basic : ∀ row < m, big.basicColumn row = columns (small.basicColumn row)
  idleBasic : ∀ row < m', m ≤ row → Idle n m columns (big.basicColumn row)

namespace Placement

theorem lt (placement : Placement n m n' m' columns) {column : ℕ} (inside : column < n + m) :
    columns column < n' + m' := by
  rw [← placement.rhsLast]
  exact placement.ordered inside

theorem le (placement : Placement n m n' m' columns) {column : ℕ} (inside : column ≤ n + m) :
    columns column ≤ n' + m' := by
  rw [← placement.rhsLast]
  exact placement.ordered.monotone inside

theorem column_cases (placement : Placement n m n' m' columns) {position : ℕ}
    (inside : position < n' + m') :
    (∃ column < n + m, columns column = position) ∨ Idle n m columns position := by
  by_cases placed : ∃ column ≤ n + m, columns column = position
  · obtain ⟨column, _, rfl⟩ := placed
    rw [← placement.rhsLast] at inside
    exact .inl ⟨column, placement.ordered.lt_iff_lt.mp inside, rfl⟩
  · right
    intro column columnInside same
    exact placed ⟨column, columnInside, same⟩

end Placement

namespace Padded

theorem rhs_eq (placement : Placement n m n' m' columns)
    (padded : Padded n m n' m' columns small big) {row : ℕ} (inside : row < m) :
    big.rhs row = small.rhs row := by
  rw [rhs, rhs, padded.bigShaped.rhs_column, padded.smallShaped.rhs_column, ← placement.rhsLast]
  exact padded.cell row inside _ le_rfl

/-! ## The choice of a pivot -/

theorem entering (placement : Placement n m n' m' columns)
    (padded : Padded n m n' m' columns small big) (positive : 0 < tolerance) :
    big.enteringColumn tolerance = (small.enteringColumn tolerance).map columns := by
  have below : -tolerance < 0 := neg_lt_zero.mpr positive
  cases chosen : small.enteringColumn tolerance with
  | none =>
      rw [Option.map_none, Option.eq_none_iff_forall_ne_some]
      intro position enters
      obtain ⟨inside, costly⟩ := entering_column_some padded.bigShaped enters
      rcases placement.column_cases inside with ⟨column, columnInside, rfl⟩ | idle
      · rw [padded.cost column columnInside.le] at costly
        exact absurd costly
          (not_lt.mpr (entering_column_none padded.smallShaped chosen columnInside))
      · rw [padded.idleCost position inside.le idle] at costly
        exact absurd costly below.le.not_gt
  | some column =>
      obtain ⟨⟨inside, costly⟩, least, first⟩ :=
        (entering_column_eq_some_iff padded.smallShaped tolerance column).mp chosen
      rw [Option.map_some, entering_column_eq_some_iff padded.bigShaped,
        padded.cost column inside.le]
      refine ⟨⟨placement.lt inside, costly⟩, ?_, ?_⟩
      · intro position positionInside
        rcases placement.column_cases positionInside with ⟨other, otherInside, rfl⟩ | idle
        · rw [padded.cost other otherInside.le]
          exact least other otherInside
        · rw [padded.idleCost position positionInside.le idle]
          exact (costly.trans below).le
      · intro position earlier
        have positionInside := earlier.trans (placement.lt inside)
        rcases placement.column_cases positionInside with ⟨other, otherInside, rfl⟩ | idle
        · rw [padded.cost other otherInside.le]
          exact first other (placement.ordered.lt_iff_lt.mp earlier)
        · rw [padded.idleCost position positionInside.le idle]
          exact costly.trans below

/-- Only rows of the smaller tableau can limit one of its columns. -/
theorem row_of_large (padded : Padded n m n' m' columns small big) (positive : 0 < tolerance)
    {row column : ℕ} (inside : row < m') (columnInside : column ≤ n + m)
    (large : tolerance < big.cell row (columns column)) :
    row < m ∧ tolerance < small.cell row column := by
  rcases Nat.lt_or_ge row m with own | added
  · rw [padded.cell row own column columnInside] at large
    exact ⟨own, large⟩
  · rw [padded.idleRow row inside added column columnInside] at large
    exact absurd large positive.le.not_gt

theorem leaving (placement : Placement n m n' m' columns)
    (padded : Padded n m n' m' columns small big) (positive : 0 < tolerance) {column : ℕ}
    (inside : column ≤ n + m) :
    big.leavingRow tolerance (columns column) = small.leavingRow tolerance column := by
  cases chosen : small.leavingRow tolerance column with
  | none =>
      rw [Option.eq_none_iff_forall_ne_some]
      intro row leaves
      obtain ⟨rowInside, large, _⟩ := leaving_row_some padded.bigShaped leaves
      obtain ⟨own, smallLarge⟩ := padded.row_of_large positive rowInside inside large
      exact absurd smallLarge (not_lt.mpr (leaving_row_none padded.smallShaped chosen own))
  | some row =>
      obtain ⟨⟨rowInside, large, least⟩, first⟩ :=
        (leaving_row_eq_some_iff padded.smallShaped tolerance column row).mp chosen
      rw [leaving_row_eq_some_iff padded.bigShaped, padded.cell row rowInside column inside,
        padded.rhs_eq placement rowInside]
      refine ⟨⟨lt_of_lt_of_le rowInside placement.rowCount, large, ?_⟩, ?_⟩
      · intro other otherInside otherLarge
        obtain ⟨own, smallLarge⟩ := padded.row_of_large positive otherInside inside otherLarge
        rw [padded.cell other own column inside, padded.rhs_eq placement own]
        exact least other own smallLarge
      · intro other earlier otherLarge
        have own := earlier.trans rowInside
        rw [padded.cell other own column inside] at otherLarge ⊢
        rw [padded.rhs_eq placement own]
        exact first other earlier otherLarge

/-! ## Pivots keep the padding -/

theorem pivot (placement : Placement n m n' m' columns)
    (padded : Padded n m n' m' columns small big) {row column : ℕ} (rowInside : row < m)
    (columnInside : column < n + m) :
    Padded n m n' m' columns (small.pivot row column) (big.pivot row (columns column)) := by
  have smallShaped := padded.smallShaped
  have bigShaped := padded.bigShaped
  have rowInBig := lt_of_lt_of_le rowInside placement.rowCount
  have columnInBig := placement.lt columnInside
  have pivotCell := padded.cell row rowInside column columnInside.le
  refine
    { smallShaped := pivot_shaped smallShaped rowInside columnInside
      bigShaped := pivot_shaped bigShaped rowInBig columnInBig
      cell := ?_, cost := ?_, idleCell := ?_, idleCost := ?_, idleRow := ?_, basic := ?_
      idleBasic := ?_ }
  · intro index indexInside position positionInside
    have indexInBig := lt_of_lt_of_le indexInside placement.rowCount
    rw [pivot_cell bigShaped rowInBig indexInBig (placement.le positionInside),
      pivot_cell smallShaped rowInside indexInside positionInside, pivotCell,
      padded.cell row rowInside position positionInside,
      padded.cell index indexInside position positionInside,
      padded.cell index indexInside column columnInside.le]
  · intro position positionInside
    rw [pivot_cost bigShaped rowInBig (placement.le positionInside),
      pivot_cost smallShaped rowInside positionInside, pivotCell,
      padded.cell row rowInside position positionInside, padded.cost position positionInside,
      padded.cost column columnInside.le]
  · intro index indexInside position positionInside idle
    have indexInBig := lt_of_lt_of_le indexInside placement.rowCount
    rw [pivot_cell bigShaped rowInBig indexInBig positionInside,
      padded.idleCell row rowInside position positionInside idle,
      padded.idleCell index indexInside position positionInside idle]
    simp
  · intro position positionInside idle
    rw [pivot_cost bigShaped rowInBig positionInside,
      padded.idleCell row rowInside position positionInside idle,
      padded.idleCost position positionInside idle]
    simp
  · -- an added row has nothing to clear in the entering column
    intro index indexInside added position positionInside
    have notPivot : index ≠ row := (lt_of_lt_of_le rowInside added).ne'
    rw [pivot_cell bigShaped rowInBig indexInside (placement.le positionInside), if_neg notPivot,
      padded.idleRow index indexInside added position positionInside,
      padded.idleRow index indexInside added column columnInside.le, mul_zero, sub_zero]
  · intro index indexInside
    rw [pivot_basic_column bigShaped (lt_of_lt_of_le indexInside placement.rowCount),
      pivot_basic_column smallShaped indexInside, padded.basic index indexInside]
    split_ifs <;> rfl
  · intro index indexInside added
    have notPivot : index ≠ row := (lt_of_lt_of_le rowInside added).ne'
    rw [pivot_basic_column bigShaped indexInside, if_neg notPivot]
    exact padded.idleBasic index indexInside added

/-! ## The basic point -/

theorem basic_point (placement : Placement n m n' m' columns)
    (padded : Padded n m n' m' columns small big) (smallCanonical : Canonical n m small)
    (bigCanonical : Canonical n' m' big) {column : ℕ} (inside : column < n + m) :
    big.basicPoint (columns column) = small.basicPoint column := by
  by_cases basic : ∃ row < m, small.basicColumn row = column
  · obtain ⟨row, rowInside, rfl⟩ := basic
    rw [← padded.basic row rowInside, basic_point_basic smallCanonical rowInside,
      basic_point_basic bigCanonical (lt_of_lt_of_le rowInside placement.rowCount),
      padded.rhs_eq placement rowInside]
  · rw [basic_point_nonbasic smallCanonical.toShaped inside,
      basic_point_nonbasic bigCanonical.toShaped (placement.lt inside)]
    · intro row rowInside same
      rcases Nat.lt_or_ge row m with own | added
      · rw [padded.basic row own] at same
        exact basic ⟨row, own, placement.ordered.injective same⟩
      · exact padded.idleBasic row rowInside added column inside.le same.symm
    · intro row rowInside same
      exact basic ⟨row, rowInside, same⟩

/-- Added columns are at zero: a row that holds one of them is an added row, and
its right-hand side is zero. -/
theorem basic_point_idle (placement : Placement n m n' m' columns)
    (padded : Padded n m n' m' columns small big) (bigCanonical : Canonical n' m' big)
    {position : ℕ} (inside : position < n' + m') (idle : Idle n m columns position) :
    big.basicPoint position = 0 := by
  by_cases basic : ∃ row < m', big.basicColumn row = position
  · obtain ⟨row, rowInside, rfl⟩ := basic
    rcases Nat.lt_or_ge row m with own | added
    · have ownColumn := padded.smallShaped.basic_column_lt own
      exact absurd (padded.basic row own).symm (idle _ ownColumn.le)
    · rw [basic_point_basic bigCanonical rowInside, rhs, bigCanonical.rhs_column,
        ← placement.rhsLast]
      exact padded.idleRow row rowInside added _ le_rfl
  · apply basic_point_nonbasic bigCanonical.toShaped inside
    intro row rowInside same
    exact basic ⟨row, rowInside, same⟩

end Padded

end Tableau

namespace Simplex

open Tableau

variable {n m n' m' : ℕ} {columns : ℕ → ℕ} {small big : Tableau ℚ} {tolerance : ℚ}

/-- Both runs make the same pivots and end with the same verdict. -/
theorem descend_padded (placement : Placement n m n' m' columns) (positive : 0 < tolerance)
    (remaining done : ℕ) (padded : Padded n m n' m' columns small big)
    (log : List (Event ℚ)) :
    Padded n m n' m' columns (descend tolerance remaining done small log).tableau
        (descend tolerance remaining done big (log.map (Event.renamed columns))).tableau ∧
      (descend tolerance remaining done big (log.map (Event.renamed columns))).verdict =
        (descend tolerance remaining done small log).verdict ∧
      (descend tolerance remaining done big (log.map (Event.renamed columns))).pivots =
        (descend tolerance remaining done small log).pivots.map (Event.renamed columns) := by
  induction remaining generalizing done small big log with
  | zero =>
      have entering := padded.entering placement positive
      cases chosen : small.enteringColumn tolerance <;> rw [chosen] at entering <;>
        simp [descend, chosen, entering, padded]
  | succ remaining ih =>
      have entering := padded.entering placement positive
      cases chosen : small.enteringColumn tolerance with
      | none =>
          rw [chosen, Option.map_none] at entering
          simp [descend, chosen, entering, padded]
      | some column =>
          rw [chosen, Option.map_some] at entering
          have columnInside := (entering_column_some padded.smallShaped chosen).1
          have leaving := padded.leaving placement positive columnInside.le
          cases limiting : small.leavingRow tolerance column with
          | none =>
              rw [limiting] at leaving
              simp [descend, chosen, entering, limiting, leaving, padded]
          | some row =>
              rw [limiting] at leaving
              have rowInside := (leaving_row_some padded.smallShaped limiting).1
              simp only [descend, chosen, entering, limiting, leaving]
              exact ih (done + 1) (padded.pivot placement rowInside columnInside)
                (.pivot done column row :: log)

end Simplex

end LinearProgram
