import LinearProgram.Proofs.Simplex.Progress

/-!
# Runs that come back

The most negative cost and the first least ratio decide the next pivot by the
tableau alone, and a basis decides the tableau. A run therefore ends within the
number of bases, or it comes back to one of them and then goes round for ever. In
a run whose pivots all respect the tolerance band, the pivots it repeats have no
room to move. Both happen, and a problem with an optimum can be among the ones
that never end.
-/

namespace LinearProgram

open Finset Scalar

namespace Tableau

variable {n m : ℕ} {tableau : Tableau ℚ}

/-- The next pivot, if there is one, leaves the basic point where it is. -/
def Stalled (tolerance : ℚ) (tableau : Tableau ℚ) : Prop :=
  ∀ column ∈ tableau.enteringColumn tolerance,
    ∀ row ∈ tableau.leavingRow tolerance column, tableau.rhs row = 0

/-- The basic columns in the order of their rows. -/
def basisEmbedding (canonical : Canonical n m tableau) : Fin m ↪ Fin (n + m) where
  toFun row := ⟨tableau.basicColumn row, canonical.basic_column_lt row.isLt⟩
  inj' first second same :=
    Fin.ext (canonical.basic_column_injective first.isLt second.isLt (Fin.ext_iff.mp same))

theorem basis_eq_of_embedding {first second : Tableau ℚ} (firstCanonical : Canonical n m first)
    (secondCanonical : Canonical n m second)
    (same : basisEmbedding firstCanonical = basisEmbedding secondCanonical) :
    first.basis = second.basis := by
  apply List.ext_getElem (by rw [firstCanonical.basisCount, secondCanonical.basisCount])
  intro row rowInFirst rowInSecond
  have rowInside : row < m := firstCanonical.basisCount ▸ rowInFirst
  have columns := Fin.ext_iff.mp (DFunLike.congr_fun same ⟨row, rowInside⟩)
  rw [← List.getD_eq_getElem _ 0, ← List.getD_eq_getElem _ 0]
  exact columns

end Tableau

namespace Simplex

open Tableau

section Period

variable {α : Type} [Scalar α] {tolerance : α} {start tableau : Tableau α} {earlier period : ℕ}

theorem reached_add_period (first : reached tolerance start earlier = some tableau)
    (second : reached tolerance start (earlier + period) = some tableau) {count : ℕ}
    (late : earlier ≤ count) :
    reached tolerance start (count + period) = reached tolerance start count := by
  obtain ⟨rest, rfl⟩ := Nat.exists_eq_add_of_le late
  rw [Nat.add_right_comm, reached_add, second, reached_add, first]

theorem reached_of_period (first : reached tolerance start earlier = some tableau)
    (second : reached tolerance start (earlier + period) = some tableau) (positive : 0 < period)
    (count : ℕ) : ∃ last, reached tolerance start count = some last := by
  have rounds (round : ℕ) : reached tolerance start (earlier + round * period) = some tableau := by
    induction round with
    | zero => rw [Nat.zero_mul, Nat.add_zero, first]
    | succ round ih =>
        rw [Nat.succ_mul, ← Nat.add_assoc, reached_add_period first second (Nat.le_add_right _ _),
          ih]
  have enough : count ≤ earlier + count * period :=
    (Nat.le_mul_of_pos_right count positive).trans (Nat.le_add_left _ _)
  exact reached_of_le (rounds count) enough

end Period

/-- Two tableaux of the run, which may go on for ever, have the same basis. -/
def Cycles (tolerance : ℚ) (problem : Problem ℚ) : Prop :=
  ∃ earlier later, earlier < later ∧
    ∃ first, reached tolerance (ofProblem problem) earlier = some first ∧
      ∃ second, reached tolerance (ofProblem problem) later = some second ∧
        first.basis = second.basis

/-- How many bases there are, the order of the rows included. -/
def basisCount (problem : Problem ℚ) : ℕ :=
  (problem.numVariables + problem.numConstraints).descFactorial problem.numConstraints

variable {problem : Problem ℚ} {tolerance : ℚ}

theorem represents_of_reached (valid : problem.validate = .ok ()) (positive : 0 < tolerance)
    {count : ℕ} {tableau : Tableau ℚ}
    (found : reached tolerance (ofProblem problem) count = some tableau) :
    Represents problem tableau :=
  Represents.visited valid positive tableau
    ((mem_visited_iff tolerance count _ tableau).mpr ⟨count, le_rfl, found⟩)

/-- A run that makes as many pivots as there are bases meets one of them twice. -/
theorem exists_same_basis (valid : problem.validate = .ok ()) (positive : 0 < tolerance)
    {last : Tableau ℚ}
    (long : reached tolerance (ofProblem problem) (basisCount problem) = some last) :
    ∃ start period tableau, 0 < period ∧ start + period ≤ basisCount problem ∧
      reached tolerance (ofProblem problem) start = some tableau ∧
      reached tolerance (ofProblem problem) (start + period) = some tableau := by
  have exists_at (count : Fin (basisCount problem + 1)) :=
    reached_of_le long (Nat.lt_succ_iff.mp count.isLt)
  choose tableauAt isAt using exists_at
  have represents (count : Fin (basisCount problem + 1)) :=
    represents_of_reached valid positive (isAt count)
  have fewer : Fintype.card (Fin problem.numConstraints ↪
      Fin (problem.numVariables + problem.numConstraints)) <
        Fintype.card (Fin (basisCount problem + 1)) := by
    rw [Fintype.card_embedding_eq, Fintype.card_fin, Fintype.card_fin, Fintype.card_fin]
    exact Nat.lt_succ_self _
  obtain ⟨first, second, different, same⟩ := Fintype.exists_ne_map_eq_of_card_lt
    (fun count => basisEmbedding (represents count).toCanonical) fewer
  wlog ordered : first < second generalizing first second
  · exact this second first different.symm same.symm
      (lt_of_le_of_ne (not_lt.mp ordered) different.symm)
  have basis := basis_eq_of_embedding _ _ same
  have tableau_eq := (represents first).eq_of_basis (represents second) basis
  refine ⟨first, second - first, tableauAt first, ?_, ?_, isAt first, ?_⟩
  · exact Nat.sub_pos_of_lt ordered
  · rw [Nat.add_sub_cancel' (Fin.lt_def.mp ordered).le]
    exact Nat.lt_succ_iff.mp second.isLt
  · rw [Nat.add_sub_cancel' (Fin.lt_def.mp ordered).le, tableau_eq]
    exact isAt second

theorem Cycles.reached (valid : problem.validate = .ok ()) (positive : 0 < tolerance)
    (cycles : Cycles tolerance problem) (count : ℕ) :
    ∃ tableau, reached tolerance (ofProblem problem) count = some tableau := by
  obtain ⟨earlier, later, before, first, isFirst, second, isSecond, basis⟩ := cycles
  have same := (represents_of_reached valid positive isFirst).eq_of_basis
    (represents_of_reached valid positive isSecond) basis
  obtain ⟨period, rfl⟩ := Nat.exists_eq_add_of_lt before
  rw [← same, Nat.add_assoc] at isSecond
  exact reached_of_period isFirst isSecond (Nat.succ_pos period) count

/-! ## Pivots that are repeated -/

/-- Every row in the tolerance band allows the steps that the run takes, however
long it goes on. -/
def GuardedThroughout (tolerance : ℚ) (problem : Problem ℚ) : Prop :=
  ∀ count, ∀ tableau ∈ Simplex.reached tolerance (ofProblem problem) count,
    tableau.Guarded tolerance

theorem GuardedThroughout.nonnegative (guarded : GuardedThroughout tolerance problem)
    (valid : problem.validate = .ok ()) (positive : 0 < tolerance)
    (origin : ∀ bound ∈ problem.rhs, 0 ≤ bound) {count : ℕ} {tableau : Tableau ℚ}
    (found : Simplex.reached tolerance (ofProblem problem) count = some tableau) :
    tableau.Nonnegative := by
  have guardedRun : ∀ earlier ∈ visited tolerance count (ofProblem problem),
      earlier.Guarded tolerance := by
    intro earlier member
    obtain ⟨index, _, isEarlier⟩ := (mem_visited_iff tolerance count _ earlier).mp member
    exact guarded index earlier isEarlier
  apply visited_nonnegative valid positive origin guardedRun
  exact (mem_visited_iff tolerance count _ tableau).mpr ⟨count, le_rfl, found⟩

theorem corner_le_reached (valid : problem.validate = .ok ()) (positive : 0 < tolerance)
    (origin : ∀ bound ∈ problem.rhs, 0 ≤ bound) (guarded : GuardedThroughout tolerance problem)
    {count rest : ℕ} {tableau later : Tableau ℚ}
    (found : Simplex.reached tolerance (ofProblem problem) count = some tableau)
    (isLater : Simplex.reached tolerance (ofProblem problem) (count + rest) = some later) :
    tableau.corner ≤ later.corner := by
  induction rest generalizing later with
  | zero => rw [Option.some.inj (found.symm.trans isLater)]
  | succ rest ih =>
      rw [← Nat.add_assoc, Simplex.reached] at isLater
      obtain ⟨between, isBetween, step⟩ := Option.bind_eq_some_iff.mp isLater
      have represents := represents_of_reached valid positive isBetween
      have nonnegative := guarded.nonnegative valid positive origin isBetween
      obtain ⟨column, row, entering, leaving, rfl⟩ := next_eq_some step
      exact (ih isBetween).trans
        (pivot_corner_le represents.toShaped positive nonnegative entering leaving)

/-- Round a cycle the corner cannot rise, so no pivot of it has room to move. -/
theorem stalled_of_period (valid : problem.validate = .ok ()) (positive : 0 < tolerance)
    (origin : ∀ bound ∈ problem.rhs, 0 ≤ bound) (guarded : GuardedThroughout tolerance problem)
    {count period : ℕ} {tableau : Tableau ℚ} (periodPositive : 0 < period)
    (found : Simplex.reached tolerance (ofProblem problem) count = some tableau)
    (again : Simplex.reached tolerance (ofProblem problem) (count + period) = some tableau) :
    tableau.Stalled tolerance := by
  intro column entering row leaving
  have represents := represents_of_reached valid positive found
  have inside := (leaving_row_some represents.toShaped leaving).1
  rw [← represents.rowCount] at inside
  have rhsNonneg := guarded.nonnegative valid positive origin found row inside
  have following : Simplex.reached tolerance (ofProblem problem) (count + 1) =
      some (tableau.pivot row column) := by
    rw [Simplex.reached, found, Option.bind_some]
    exact next_of_pivot entering leaving
  rw [show count + period = count + 1 + (period - 1) by omega] at again
  have back := corner_le_reached valid positive origin guarded following again
  by_contra notZero
  have room : 0 < tableau.rhs row := lt_of_le_of_ne rhsNonneg (Ne.symm notZero)
  exact absurd (pivot_corner_lt represents.toShaped positive entering leaving room)
    (not_lt.mpr back)

/-! ## Caps -/

/-- A run that never ends is cut off by every cap. -/
theorem limit_of_endless (valid : problem.validate = .ok ()) (positive : 0 < tolerance)
    (endless : ∀ count, ∃ tableau,
      Simplex.reached tolerance (ofProblem problem) count = some tableau)
    (cap : ℕ) :
    (solve ⟨tolerance, cap⟩ problem).outcome = .error (.iterationLimit cap) := by
  rw [iteration_limit_iff valid positive]
  obtain ⟨following, isFollowing⟩ := endless (cap + 1)
  rw [Simplex.reached] at isFollowing
  obtain ⟨last, isLast, step⟩ := Option.bind_eq_some_iff.mp isFollowing
  obtain ⟨column, _, entering, _, _⟩ := next_eq_some step
  exact ⟨rfl, last, isLast, column, entering⟩

theorem not_limit_of_stopped (valid : problem.validate = .ok ()) (positive : 0 < tolerance)
    {enough : ℕ} (stopped : Simplex.reached tolerance (ofProblem problem) enough = none) {cap : ℕ}
    (large : enough ≤ cap) (count : ℕ) :
    (solve ⟨tolerance, cap⟩ problem).outcome ≠ .error (.iterationLimit count) := by
  intro limited
  obtain ⟨_, last, isLast, _⟩ := (iteration_limit_iff valid positive count).mp limited
  obtain ⟨tableau, found⟩ := reached_of_le isLast large
  rw [stopped] at found
  cases found

/-- Some cap is never reported exactly when the run does not come back to a basis,
and then the number of bases is such a cap. A run that does come back repeats the
same pivots for ever, whatever the cap; if it is guarded, these are pivots on a
right-hand side of zero. -/
theorem limit_avoidable_iff (valid : problem.validate = .ok ()) (positive : 0 < tolerance)
    (origin : ∀ bound ∈ problem.rhs, 0 ≤ bound) :
    ((∃ enough, ∀ cap ≥ enough, ∀ count,
        (solve ⟨tolerance, cap⟩ problem).outcome ≠ .error (.iterationLimit count)) ↔
        ¬Cycles tolerance problem) ∧
      (¬Cycles tolerance problem → ∀ cap ≥ basisCount problem, ∀ count,
        (solve ⟨tolerance, cap⟩ problem).outcome ≠ .error (.iterationLimit count)) ∧
      (Cycles tolerance problem →
        (∀ cap, (solve ⟨tolerance, cap⟩ problem).outcome = .error (.iterationLimit cap)) ∧
          ∃ start period, 0 < period ∧ start + period ≤ basisCount problem ∧
            ∀ count ≥ start, ∃ tableau,
              Simplex.reached tolerance (ofProblem problem) count = some tableau ∧
                Simplex.reached tolerance (ofProblem problem) (count + period) = some tableau ∧
                (GuardedThroughout tolerance problem → tableau.Stalled tolerance)) := by
  have limited (cycles : Cycles tolerance problem) :=
    limit_of_endless valid positive (cycles.reached valid positive)
  have stops (straight : ¬Cycles tolerance problem) :
      Simplex.reached tolerance (ofProblem problem) (basisCount problem) = none := by
    rw [Option.eq_none_iff_forall_ne_some]
    intro last long
    obtain ⟨start, period, tableau, periodPositive, _, first, second⟩ :=
      exists_same_basis valid positive long
    exact straight ⟨start, start + period, Nat.lt_add_of_pos_right periodPositive,
      tableau, first, tableau, second, rfl⟩
  have unlimited (straight : ¬Cycles tolerance problem) (cap : ℕ)
      (large : basisCount problem ≤ cap) (count : ℕ) :=
    not_limit_of_stopped valid positive (stops straight) large count
  refine ⟨⟨?_, ?_⟩, unlimited, ?_⟩
  · rintro ⟨enough, avoided⟩ cycles
    exact avoided enough le_rfl enough (limited cycles enough)
  · intro straight
    exact ⟨basisCount problem, unlimited straight⟩
  · intro cycles
    refine ⟨limited cycles, ?_⟩
    obtain ⟨last, long⟩ := cycles.reached valid positive (basisCount problem)
    obtain ⟨start, period, tableau, periodPositive, early, first, second⟩ :=
      exists_same_basis valid positive long
    refine ⟨start, period, periodPositive, early, ?_⟩
    intro count late
    obtain ⟨current, isCurrent⟩ := cycles.reached valid positive count
    have again := (reached_add_period first second late).trans isCurrent
    refine ⟨current, isCurrent, again, ?_⟩
    intro guarded
    exact stalled_of_period valid positive origin guarded periodPositive isCurrent again

/-- Two pivots, the first of them on a right-hand side of zero. -/
theorem limit_avoidable_of_degenerate_pivot :
    Simplex.reached (1 / 2) (ofProblem (⟨[1, 1], [[1, -1], [1, 0]], [0, 1]⟩ : Problem ℚ)) 3 =
        none ∧
      ∀ cap ≥ 12, ∀ count,
        (solve ⟨1 / 2, cap⟩ (⟨[1, 1], [[1, -1], [1, 0]], [0, 1]⟩ : Problem ℚ)).outcome ≠
          .error (.iterationLimit count) := by
  have valid : (⟨[1, 1], [[1, -1], [1, 0]], [0, 1]⟩ : Problem ℚ).validate = .ok () := by
    decide +kernel
  have stopped : Simplex.reached (1 / 2)
      (ofProblem (⟨[1, 1], [[1, -1], [1, 0]], [0, 1]⟩ : Problem ℚ)) 3 = none := by decide +kernel
  have straight : ¬Cycles (1 / 2) (⟨[1, 1], [[1, -1], [1, 0]], [0, 1]⟩ : Problem ℚ) := by
    intro cycles
    obtain ⟨tableau, found⟩ := cycles.reached valid (by decide +kernel) 3
    rw [stopped] at found
    cases found
  exact ⟨stopped, (limit_avoidable_iff valid (by decide +kernel) (by decide +kernel)).2.1 straight⟩

/-- Two rows without room at the origin, and six pivots that go round it. -/
def circling : Problem ℚ :=
  ⟨[10, -57, -9, -24],
    [[1 / 2, -11 / 2, -5 / 2, 9], [1 / 2, -3 / 2, -1 / 2, 1], [1, 0, 0, 0]], [0, 0, 1]⟩

/-- Every cap is reached although the objective has its maximum of one at a point
that the run never comes to. -/
theorem limit_at_every_cap :
    circling.validate = .ok () ∧ (∀ bound ∈ circling.rhs, 0 ≤ bound) ∧
      (∀ cap, (solve ⟨1 / 8, cap⟩ circling).outcome = .error (.iterationLimit cap)) ∧
      circling.Feasible [1, 0, 1, 0] ∧ circling.objectiveValue [1, 0, 1, 0] = 1 ∧
      ∀ point, circling.Feasible point → circling.objectiveValue point ≤ 1 := by
  have valid : circling.validate = .ok () := by decide +kernel
  have here : Simplex.reached (1 / 8) (ofProblem circling) 0 = some (ofProblem circling) := rfl
  have round : Simplex.reached (1 / 8) (ofProblem circling) (0 + 6) =
      some (ofProblem circling) := by decide +kernel
  refine ⟨valid, by decide +kernel, ?_, ?_, by decide +kernel, ?_⟩
  · apply limit_of_endless valid (by decide +kernel)
    exact reached_of_period here round (by decide)
  · exact ⟨rfl, by decide +kernel, by decide +kernel⟩
  · intro point feasible
    obtain ⟨first, second, third, fourth, rfl⟩ := List.length_eq_four.mp feasible.length
    have secondNonneg : 0 ≤ second := feasible.nonneg second (by simp)
    have fourthNonneg : 0 ≤ fourth := feasible.nonneg fourth (by simp)
    have secondRow : 1 / 2 * first - 3 / 2 * second - 1 / 2 * third + fourth ≤ 0 := by
      have within := feasible.within 1 (by decide)
      simp [dot_eq_range_sum, Problem.row, Problem.bound, circling, sum_range_succ] at within
      linarith
    have thirdRow : first ≤ 1 := by
      have within := feasible.within 2 (by decide)
      simpa [dot_eq_range_sum, Problem.row, Problem.bound, circling, sum_range_succ] using within
    have objective : circling.objectiveValue [first, second, third, fourth] =
        10 * first - 57 * second - 9 * third - 24 * fourth := by
      simp [Problem.objectiveValue, dot_eq_range_sum, circling, sum_range_succ]
      ring
    rw [objective]
    linarith

end Simplex

end LinearProgram
