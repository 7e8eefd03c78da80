import LinearProgram.Proofs.Tableau.Equations

/-!
# The basic point

With every nonbasic column at zero, each basic column takes the right-hand side
of its row. As a vector this is the opposite of the direction of the right-hand
side; its first entries are the values that are read off the tableau.
-/

namespace LinearProgram.Tableau

open Finset

variable {n m : ℕ} {tableau : Tableau ℚ}

def basicPoint (tableau : Tableau ℚ) (position : ℕ) : ℚ :=
  -tableau.direction tableau.rhsColumn position

/-- No right-hand side is negative: the basic point is feasible. -/
def Nonnegative (tableau : Tableau ℚ) : Prop :=
  ∀ row < tableau.rows.length, 0 ≤ tableau.rhs row

theorem basic_point_basic (canonical : Canonical n m tableau) {row : ℕ} (inside : row < m) :
    tableau.basicPoint (tableau.basicColumn row) = tableau.rhs row := by
  have notRhs : tableau.basicColumn row ≠ tableau.rhsColumn := by
    rw [canonical.rhs_column]
    exact (canonical.basic_column_lt inside).ne
  rw [basicPoint, direction_basic canonical inside, if_neg notRhs, zero_sub, neg_neg, rhs]

theorem basic_point_nonbasic (shaped : Shaped n m tableau) {position : ℕ}
    (inside : position < n + m) (nonbasic : ∀ row < m, tableau.basicColumn row ≠ position) :
    tableau.basicPoint position = 0 := by
  rw [basicPoint, direction_nonbasic shaped nonbasic, if_neg, neg_zero]
  rw [shaped.rhs_column]
  exact inside.ne

theorem basic_point_rhs_column (shaped : Shaped n m tableau) :
    tableau.basicPoint (n + m) = -1 := by
  rw [basicPoint, ← shaped.rhs_column, direction_rhs_column shaped, if_pos rfl]

theorem basic_point_nonneg_iff (canonical : Canonical n m tableau) :
    (∀ position < n + m, 0 ≤ tableau.basicPoint position) ↔ tableau.Nonnegative := by
  unfold Nonnegative
  rw [canonical.rowCount]
  constructor
  · intro nonneg row inside
    rw [← basic_point_basic canonical inside]
    exact nonneg _ (canonical.basic_column_lt inside)
  · intro nonneg position inside
    by_cases basic : ∃ row < m, tableau.basicColumn row = position
    · obtain ⟨row, rowInside, rfl⟩ := basic
      rw [basic_point_basic canonical rowInside]
      exact nonneg row rowInside
    · rw [basic_point_nonbasic canonical.toShaped inside]
      intro row rowInside same
      exact basic ⟨row, rowInside, same⟩

/-! ## Scaled vectors -/

theorem row_value_scaled (tableau : Tableau ℚ) (row : ℕ) (factor : ℚ) (vector : ℕ → ℚ) :
    tableau.rowValue row (fun position => factor * vector position) =
      factor * tableau.rowValue row vector := by
  unfold rowValue
  rw [mul_sum]
  apply sum_congr rfl
  intro column _
  ring

theorem balanced_scaled (factor : ℚ) {vector : ℕ → ℚ} (balanced : tableau.Balanced vector) :
    tableau.Balanced fun position => factor * vector position := by
  intro row inside
  rw [row_value_scaled, balanced row inside, mul_zero]

theorem cost_value_scaled (tableau : Tableau ℚ) (factor : ℚ) (vector : ℕ → ℚ) :
    tableau.costValue (fun position => factor * vector position) =
      factor * tableau.costValue vector := by
  unfold costValue
  rw [mul_sum]
  apply sum_congr rfl
  intro column _
  ring

theorem basic_point_eq_scaled (tableau : Tableau ℚ) :
    tableau.basicPoint = fun position => -1 * tableau.direction tableau.rhsColumn position := by
  funext position
  rw [basicPoint, neg_one_mul]

/-! ## The values that are read off -/

section Reading

variable {α : Type} (assigned : List α → α)

theorem fold_set_absent (pairs : List (ℕ × List α)) (start : List α) (position : ℕ)
    (absent : ∀ pair ∈ pairs, pair.1 ≠ position) :
    (pairs.foldl (fun values pair => values.set pair.1 (assigned pair.2)) start)[position]? =
      start[position]? := by
  induction pairs generalizing start with
  | nil => rfl
  | cons pair rest ih =>
      rw [List.forall_mem_cons] at absent
      rw [List.foldl_cons, ih _ absent.2, List.getElem?_set_ne absent.1]

theorem fold_set_present (pairs : List (ℕ × List α)) (start : List α) {pair : ℕ × List α}
    (distinct : (pairs.map Prod.fst).Nodup) (member : pair ∈ pairs)
    (inside : pair.1 < start.length) :
    (pairs.foldl (fun values pair => values.set pair.1 (assigned pair.2)) start)[pair.1]? =
      some (assigned pair.2) := by
  induction pairs generalizing start with
  | nil => cases member
  | cons head rest ih =>
      rw [List.map_cons, List.nodup_cons] at distinct
      rw [List.foldl_cons]
      rcases List.mem_cons.mp member with rfl | later
      · rw [fold_set_absent]
        · exact List.getElem?_set_self inside
        · intro other otherMember same
          exact distinct.1 (same ▸ List.mem_map_of_mem otherMember)
      · exact ih _ distinct.2 later (by rw [List.length_set]; exact inside)

variable [Scalar α] {tableau : Tableau α}

theorem values_nonbasic (shaped : Shaped n m tableau) {position : ℕ} (inside : position < n)
    (nonbasic : ∀ row < m, tableau.basicColumn row ≠ position) :
    tableau.values[position]? = some 0 := by
  rw [values_eq_fold, fold_set_absent fun row => entry row tableau.rhsColumn]
  · rw [List.getElem?_replicate, shaped.variableCount, if_pos inside]
  · intro pair member same
    obtain ⟨row, rowInside, found⟩ := List.getElem_of_mem (List.of_mem_zip member).1
    apply nonbasic row (shaped.basisCount ▸ rowInside)
    rw [basicColumn, List.getD_eq_getElem _ _ rowInside, found, same]

end Reading

theorem Canonical.basis_nodup (canonical : Canonical n m tableau) : tableau.basis.Nodup := by
  rw [List.nodup_iff_pairwise_ne, List.pairwise_iff_getElem]
  intro row other rowInside otherInside before same
  have rowBound : row < m := canonical.basisCount ▸ rowInside
  have otherBound : other < m := canonical.basisCount ▸ otherInside
  rw [← List.getD_eq_getElem _ 0, ← List.getD_eq_getElem _ 0] at same
  exact before.ne (canonical.basic_column_injective rowBound otherBound same)

theorem values_basic (canonical : Canonical n m tableau) {row : ℕ} (rowInside : row < m)
    (inside : tableau.basicColumn row < n) :
    tableau.values[tableau.basicColumn row]? = some (tableau.rhs row) := by
  have distinct : ((tableau.basis.zip tableau.rows).map Prod.fst).Nodup := by
    rw [List.map_fst_zip (by rw [canonical.basisCount, canonical.rowCount])]
    exact canonical.basis_nodup
  have basisInside : row < tableau.basis.length := by rw [canonical.basisCount]; exact rowInside
  have rowsInside : row < tableau.rows.length := by rw [canonical.rowCount]; exact rowInside
  have pairInside : row < (tableau.basis.zip tableau.rows).length := by
    rw [List.length_zip]
    exact lt_min basisInside rowsInside
  have member := List.getElem_mem pairInside
  rw [List.getElem_zip] at member
  rw [basicColumn, List.getD_eq_getElem _ _ basisInside] at inside ⊢
  rw [rhs, cell, List.getD_eq_getElem _ _ rowsInside, values_eq_fold]
  apply fold_set_present (fun row => entry row tableau.rhsColumn) _ _ distinct member
  rw [List.length_replicate, canonical.variableCount]
  exact inside

theorem values_eq (canonical : Canonical n m tableau) :
    tableau.values = (List.range n).map tableau.basicPoint := by
  apply List.ext_getElem?
  intro position
  rcases Nat.lt_or_ge position n with inside | outside
  · rw [List.getElem?_map, List.getElem?_range inside, Option.map_some]
    by_cases basic : ∃ row < m, tableau.basicColumn row = position
    · obtain ⟨row, rowInside, rfl⟩ := basic
      rw [basic_point_basic canonical rowInside]
      exact values_basic canonical rowInside inside
    · have nonbasic : ∀ row < m, tableau.basicColumn row ≠ position := by
        intro row rowInside same
        exact basic ⟨row, rowInside, same⟩
      rw [basic_point_nonbasic canonical.toShaped (by omega) nonbasic]
      exact values_nonbasic canonical.toShaped inside nonbasic
  · rw [List.getElem?_eq_none (by rw [values_length canonical.toShaped]; exact outside),
      List.getElem?_eq_none (by simpa using outside)]

end LinearProgram.Tableau
