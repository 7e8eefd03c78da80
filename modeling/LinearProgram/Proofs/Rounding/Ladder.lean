import Mathlib

/-!
# The ladder of doubles

The doubles from zero upwards, numbered by their bit patterns: the double of a rank is
a significand times a power of two, and the gap to the next rank never shrinks. A
number is rounded to the rank to which it is nearest, an exact half going to the even
one. Ranks go on beyond the doubles, so that rounding needs no case for overflow.
-/

namespace LinearProgram.Double

/-- How many doubles there are from a power of two to the next one. -/
def binade : ℕ :=
  2 ^ 52

theorem binade_even : Even binade :=
  ⟨2 ^ 51, by norm_num [binade]⟩

/-- The rank that stands for infinity. -/
def top : ℕ :=
  2047 * binade

/-- How often the gap has doubled above that of the least doubles. -/
def levelAt (rank : ℕ) : ℕ :=
  rank / binade - 1

/-- The bits of a significand, with the leading one unless the double is subnormal. -/
def significandAt (rank : ℕ) : ℕ :=
  rank - levelAt rank * binade

def gapAt (rank : ℕ) : ℚ :=
  2 ^ ((levelAt rank : ℤ) - 1074)

def valueAt (rank : ℕ) : ℚ :=
  significandAt rank * gapAt rank

section

variable {rank : ℕ}

theorem rank_eq (rank : ℕ) : rank = significandAt rank + levelAt rank * binade := by
  unfold significandAt levelAt binade
  omega

theorem significand_lt (rank : ℕ) : significandAt rank < 2 * binade := by
  unfold significandAt levelAt binade
  omega

theorem significand_normal (normal : binade ≤ rank) : binade ≤ significandAt rank := by
  unfold significandAt levelAt binade at *
  omega

theorem level_eq_zero (subnormal : rank < binade) : levelAt rank = 0 := by
  unfold levelAt binade at *
  omega

theorem significand_or_level (rank : ℕ) : binade ≤ significandAt rank ∨ levelAt rank = 0 := by
  rcases lt_or_ge rank binade with subnormal | normal
  · exact .inr (level_eq_zero subnormal)
  · exact .inl (significand_normal normal)

theorem gap_pos (rank : ℕ) : 0 < gapAt rank :=
  zpow_pos (by norm_num) _

/-- A significand at a level is a rank, also at the end of the binade. -/
theorem value_at_add {significand level : ℕ} (upper : significand ≤ 2 * binade)
    (lower : binade ≤ significand ∨ level = 0) :
    valueAt (significand + level * binade) = significand * 2 ^ ((level : ℤ) - 1074) := by
  rcases upper.lt_or_eq with inside | rfl
  · have isLevel : levelAt (significand + level * binade) = level := by
      unfold levelAt binade at *
      omega
    rw [valueAt, significandAt, gapAt, isLevel, Nat.add_sub_cancel]
  · have isLevel : levelAt (2 * binade + level * binade) = level + 1 := by
      unfold levelAt binade
      omega
    have isSignificand : 2 * binade + level * binade - (level + 1) * binade = binade := by
      unfold binade
      omega
    rw [valueAt, significandAt, gapAt, isLevel, isSignificand]
    have shift : ((level + 1 : ℕ) : ℤ) - 1074 = ((level : ℤ) - 1074) + 1 := by push_cast; ring
    rw [shift, zpow_add_one₀ (by norm_num)]
    push_cast
    ring

theorem value_at_zero : valueAt 0 = 0 := by
  simp [valueAt, significandAt]

theorem value_at_succ (rank : ℕ) : valueAt (rank + 1) = valueAt rank + gapAt rank := by
  have lower := significand_or_level rank
  have next : rank + 1 = (significandAt rank + 1) + levelAt rank * binade := by
    have := rank_eq rank
    omega
  rw [next, value_at_add (significand_lt rank) (lower.imp_left (by omega)), valueAt, gapAt]
  push_cast
  ring

theorem gap_mono {rank other : ℕ} (le : rank ≤ other) : gapAt rank ≤ gapAt other := by
  have level : levelAt rank ≤ levelAt other := by
    unfold levelAt
    exact Nat.sub_le_sub_right (Nat.div_le_div_right le) 1
  exact zpow_le_zpow_right₀ (by norm_num) (by omega)

theorem value_strict_mono : StrictMono valueAt :=
  strictMono_nat_of_lt_succ fun rank => by
    rw [value_at_succ]
    linarith [gap_pos rank]

/-- The rank before a significand at a level: one gap down, unless the binade starts there. -/
theorem value_before {significand level : ℕ} (upper : significand ≤ 2 * binade)
    (lower : binade ≤ significand ∨ level = 0) (next : significand + level * binade = rank + 1) :
    valueAt rank = (significand - 1) * 2 ^ ((level : ℤ) - 1074) ∨
      (significand = binade ∧ level ≠ 0) ∧
        valueAt rank < significand * 2 ^ ((level : ℤ) - 1074) := by
  by_cases inside : binade < significand ∨ level = 0
  · left
    obtain ⟨less, rfl⟩ : ∃ less, significand = less + 1 := by
      refine Nat.exists_eq_add_one.mpr ?_
      rcases inside with more | none
      · omega
      · rw [none] at next
        omega
    have isRank : rank = less + level * binade := by omega
    rw [isRank, value_at_add (by omega) (by omega)]
    push_cast
    ring
  · right
    refine ⟨by omega, ?_⟩
    rw [← value_at_add upper lower, next]
    exact value_strict_mono (Nat.lt_succ_self rank)

/-- The rank after a significand at a level: one gap up, unless the binade ends there. -/
theorem value_after {significand level : ℕ} (upper : significand ≤ 2 * binade)
    (lower : binade ≤ significand ∨ level = 0) :
    valueAt (significand + level * binade + 1) = (significand + 1) * 2 ^ ((level : ℤ) - 1074) ∨
      significand = 2 * binade ∧ significand * 2 ^ ((level : ℤ) - 1074) <
        valueAt (significand + level * binade + 1) := by
  rcases upper.lt_or_eq with less | isEnd
  · left
    rw [show significand + level * binade + 1 = (significand + 1) + level * binade by omega,
      value_at_add (by omega) (by omega)]
    push_cast
    ring
  · right
    refine ⟨isEnd, ?_⟩
    rw [← value_at_add upper lower]
    exact value_strict_mono (Nat.lt_succ_self _)

theorem value_nonneg (rank : ℕ) : 0 ≤ valueAt rank := by
  rw [← value_at_zero]
  exact value_strict_mono.monotone (Nat.zero_le rank)

theorem value_pos (positive : 0 < rank) : 0 < valueAt rank := by
  rw [← value_at_zero]
  exact value_strict_mono positive

/-- Some ranks further on, the value has grown by as many gaps or more. -/
theorem add_gaps_le (rank steps : ℕ) :
    valueAt rank + steps * gapAt rank ≤ valueAt (rank + steps) := by
  induction steps with
  | zero => simp
  | succ steps induction =>
      have grown := gap_mono (Nat.le_add_right rank steps)
      rw [← Nat.add_assoc, value_at_succ]
      push_cast
      linarith

theorem gaps_le_value {count : ℕ} (below : count ≤ rank) (short : count ≤ binade) :
    count * gapAt rank ≤ valueAt rank := by
  have lower : count ≤ significandAt rank := by
    rcases lt_or_ge rank binade with subnormal | normal
    · simpa [significandAt, level_eq_zero subnormal] using below
    · exact short.trans (significand_normal normal)
  exact mul_le_mul_of_nonneg_right (by exact_mod_cast lower) (gap_pos rank).le

end

/-! ## The nearest rank -/

/-- No rank is nearer to the number, and of two equally near ones this is the even one. -/
structure Nearest (number : ℚ) (rank : ℕ) : Prop where
  below {lower : ℕ} : rank = lower + 1 → valueAt lower + valueAt rank ≤ 2 * number
  above : 2 * number ≤ valueAt rank + valueAt (rank + 1)
  belowTie {lower : ℕ} : rank = lower + 1 → 2 * number = valueAt lower + valueAt rank → Even rank
  aboveTie : 2 * number = valueAt rank + valueAt (rank + 1) → Even rank

namespace Nearest

variable {number other : ℚ} {rank further : ℕ}

theorem not_lt (first : Nearest number rank) (second : Nearest number further) :
    ¬rank < further := by
  intro less
  obtain ⟨steps, rfl⟩ := Nat.exists_eq_add_of_lt less
  have upper := first.above
  have lower := second.below rfl
  have start := value_strict_mono.monotone (Nat.le_add_right rank steps)
  have stop := value_strict_mono.monotone (show rank + 1 ≤ rank + steps + 1 by omega)
  have isTie : 2 * number = valueAt rank + valueAt (rank + 1) := by linarith
  have noSteps : steps = 0 := by
    by_contra some
    have := value_strict_mono (show rank < rank + steps by omega)
    linarith
  subst noSteps
  have even := first.aboveTie isTie
  have oneMore := second.belowTie rfl isTie
  exact Nat.not_even_iff_odd.mpr even.add_one oneMore

theorem unique (first : Nearest number rank) (second : Nearest number further) :
    rank = further :=
  le_antisymm (Nat.le_of_not_lt (second.not_lt first)) (Nat.le_of_not_lt (first.not_lt second))

theorem le_of_lt_value {bound : ℕ} (nearest : Nearest number rank)
    (less : number < valueAt bound) : rank ≤ bound := by
  by_contra beyond
  obtain ⟨lower, rfl⟩ : ∃ lower, rank = lower + 1 := ⟨rank - 1, by omega⟩
  have start := value_strict_mono.monotone (show bound ≤ lower by omega)
  have stop := value_strict_mono.monotone (show bound ≤ lower + 1 by omega)
  linarith [nearest.below rfl]

theorem le_of_value_lt {bound : ℕ} (nearest : Nearest number rank)
    (less : valueAt bound < number) : bound ≤ rank := by
  by_contra beyond
  have start := value_strict_mono.monotone (show rank ≤ bound by omega)
  have stop := value_strict_mono.monotone (show rank + 1 ≤ bound by omega)
  linarith [nearest.above]

/-- Rounding leaves a double as it is. -/
theorem of_value (rank : ℕ) : Nearest (valueAt rank) rank where
  below := by
    rintro lower rfl
    have := value_strict_mono (Nat.lt_succ_self lower)
    linarith
  above := by
    have := value_strict_mono (Nat.lt_succ_self rank)
    linarith
  belowTie := by
    rintro lower rfl isTie
    have := value_strict_mono (Nat.lt_succ_self lower)
    linarith
  aboveTie := by
    intro isTie
    have := value_strict_mono (Nat.lt_succ_self rank)
    linarith

end Nearest

/-! ## Errors as factors -/

/-- The factor of one rounding, far enough up the ladder. -/
def roundoff : ℚ :=
  1 + 1 / (2 * binade)

theorem one_le_roundoff : 1 ≤ roundoff := by
  norm_num [roundoff, binade]

/-- Two numbers that differ by no more than a factor. -/
structure Close (factor left right : ℚ) : Prop where
  le : left ≤ factor * right
  ge : right ≤ factor * left

namespace Close

variable {factor further left right left' right' : ℚ}

theorem refl (number : ℚ) : Close 1 number number :=
  ⟨by rw [one_mul], by rw [one_mul]⟩

theorem trans (first : Close factor left right) (second : Close further right right')
    (positive : 0 ≤ factor) (positive' : 0 ≤ further) :
    Close (factor * further) left right' where
  le := by
    have := mul_le_mul_of_nonneg_left second.le positive
    linarith [first.le]
  ge := by
    have := mul_le_mul_of_nonneg_left first.ge positive'
    linarith [second.ge]

theorem mono (close : Close factor left right) (le : factor ≤ further) (positive : 0 ≤ left)
    (positive' : 0 ≤ right) : Close further left right :=
  ⟨close.le.trans (mul_le_mul_of_nonneg_right le positive'),
    close.ge.trans (mul_le_mul_of_nonneg_right le positive)⟩

theorem mul (first : Close factor left right) (second : Close further left' right')
    (positive : 0 ≤ left) (positive' : 0 ≤ left') (right_positive : 0 ≤ right)
    (right_positive' : 0 ≤ right') :
    Close (factor * further) (left * left') (right * right') where
  le := by
    calc left * left' ≤ (factor * right) * (further * right') :=
          mul_le_mul first.le second.le positive' (positive.trans first.le)
      _ = factor * further * (right * right') := by ring
  ge := by
    calc right * right' ≤ (factor * left) * (further * left') :=
          mul_le_mul first.ge second.ge right_positive' (right_positive.trans first.ge)
      _ = factor * further * (left * left') := by ring

theorem inv (close : Close factor left right) (positive : 0 < left) (positive' : 0 < right) :
    Close factor left⁻¹ right⁻¹ where
  le := by
    rw [← div_eq_mul_inv, le_div_iff₀ positive', ← div_eq_inv_mul, div_le_iff₀ positive]
    exact close.ge
  ge := by
    rw [← div_eq_mul_inv, le_div_iff₀ positive, ← div_eq_inv_mul, div_le_iff₀ positive']
    exact close.le

theorem lt_of_mul_lt {limit bound : ℚ} (close : Close factor left right) (positive : 0 ≤ factor)
    (small : factor ≤ bound) (nonneg : 0 ≤ limit) (less : bound * limit < left) :
    limit < right := by
  by_contra beyond
  have scaled := mul_le_mul_of_nonneg_left (not_lt.mp beyond) positive
  have widened := mul_le_mul_of_nonneg_right small nonneg
  linarith [close.le]

theorem lt_of_lt_mul {limit bound : ℚ} (close : Close factor left right) (small : factor ≤ bound)
    (nonneg : 0 ≤ left) (less : bound * left < limit) : right < limit :=
  (close.ge.trans (mul_le_mul_of_nonneg_right small nonneg)).trans_lt less

end Close

namespace Nearest

variable {number other factor : ℚ} {rank further count : ℕ}

/-- The farther up the rank, the smaller the error. -/
theorem close (nearest : Nearest number rank) (positive : 0 < count) (low : count < rank)
    (short : count ≤ binade) : Close (1 + 1 / (2 * count)) number (valueAt rank) := by
  obtain ⟨lower, rfl⟩ := Nat.exists_eq_add_of_lt (Nat.zero_lt_of_lt low)
  rw [Nat.zero_add] at *
  have size : (0 : ℚ) < count := by exact_mod_cast positive
  have upper := nearest.above
  have step := nearest.below rfl
  constructor
  · have wide := gaps_le_value low.le short
    have half : gapAt (lower + 1) / 2 ≤ 1 / (2 * count) * valueAt (lower + 1) := by
      rw [div_mul_eq_mul_div, one_mul, div_le_div_iff₀ two_pos (by positivity)]
      linarith
    rw [value_at_succ (lower + 1)] at upper
    linarith
  · have wide := gaps_le_value (Nat.le_of_lt_succ low) short
    have half : gapAt lower / 2 ≤ 1 / (2 * count) * number := by
      rw [div_mul_eq_mul_div, one_mul, div_le_div_iff₀ two_pos (by positivity)]
      rw [value_at_succ lower] at step
      have := gap_pos lower
      nlinarith
    rw [value_at_succ lower] at step ⊢
    linarith

theorem close_normal (nearest : Nearest number rank) (normal : binade < rank) :
    Close roundoff number (valueAt rank) :=
  nearest.close (by decide) normal le_rfl

/-- A significand bounds the error likewise. -/
theorem close_significand (nearest : Nearest number rank) (positive : 0 < count)
    (low : count < significandAt rank) : Close (1 + 1 / (2 * count)) number (valueAt rank) := by
  obtain ⟨lower, rfl⟩ : ∃ lower, rank = lower + 1 :=
    Nat.exists_eq_add_one.mpr (Nat.zero_lt_of_lt (low.trans_le (Nat.sub_le _ _)))
  have size : (0 : ℚ) < count := by exact_mod_cast positive
  have upper := nearest.above
  have step := nearest.below rfl
  have wide : (count + 1) * gapAt (lower + 1) ≤ valueAt (lower + 1) :=
    mul_le_mul_of_nonneg_right (by exact_mod_cast low) (gap_pos _).le
  have narrow := gap_mono (Nat.le_succ lower)
  have gap := gap_pos (lower + 1)
  rw [value_at_succ (lower + 1)] at upper
  constructor
  · have half : gapAt (lower + 1) / 2 ≤ 1 / (2 * count) * valueAt (lower + 1) := by
      rw [div_mul_eq_mul_div, one_mul, div_le_div_iff₀ two_pos (by positivity)]
      linarith
    linarith
  · have isLower : valueAt lower = valueAt (lower + 1) - gapAt lower := by rw [value_at_succ]; ring
    have half : gapAt (lower + 1) / 2 ≤ 1 / (2 * count) * number := by
      rw [div_mul_eq_mul_div, one_mul, div_le_div_iff₀ two_pos (by positivity)]
      rw [isLower] at step
      linarith
    linarith

/-- A number within a small factor of another is rounded to a rank at most two further up. -/
theorem le_add_two (first : Nearest number rank) (second : Nearest other further)
    (le : other ≤ factor * number) (positive : 0 ≤ factor)
    (tight : (factor - 1) * (2 * significandAt rank + 1) < 4) : further ≤ rank + 2 := by
  by_contra beyond
  obtain ⟨lower, rfl⟩ : ∃ lower, further = lower + 1 := ⟨further - 1, by omega⟩
  have start := value_strict_mono.monotone (show rank + 2 ≤ lower by omega)
  have stop := value_strict_mono.monotone (show rank + 3 ≤ lower + 1 by omega)
  have two := add_gaps_le rank 2
  have three := add_gaps_le rank 3
  have step := second.below rfl
  have upper := mul_le_mul_of_nonneg_left first.above positive
  -- The midpoint before the third rank up is out of reach.
  have room : factor * (valueAt rank + (valueAt rank + gapAt rank)) <
      2 * valueAt rank + 5 * gapAt rank := by
    have scaled := mul_lt_mul_of_pos_right tight (gap_pos rank)
    simp only [valueAt]
    linarith
  rw [value_at_succ] at upper
  push_cast at two three
  linarith

end Nearest

end LinearProgram.Double
