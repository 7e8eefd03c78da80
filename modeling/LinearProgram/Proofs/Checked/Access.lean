import Mathlib

/-!
# Checked accesses

A read past the end of a list, a write past it, and a subtraction below zero have no
result, and neither has a computation that comes to one of them. A loop over indices
has a result when each of its turns has one.
-/

namespace LinearProgram.Checked

variable {β γ σ τ : Type}

/-- Put `item` at an index of the list. -/
def write (items : List β) (index : ℕ) (item : β) : Option (List β) :=
  if index < items.length then some (items.set index item) else none

def subtract (whole part : ℕ) : Option ℕ :=
  if part ≤ whole then some (whole - part) else none

/-- The list with its first items replaced by `source`, which has to be `count` long. -/
def copyFront (items : List β) (count : ℕ) (source : List β) : Option (List β) :=
  if count ≤ items.length ∧ source.length = count then some (source ++ items.drop count) else none

/-- Change the items at the first `count` indices in place, one after the other. -/
def update (change : ℕ → β → Option β) (count : ℕ) (items : List β) : Option (List β) :=
  (List.range count).foldlM (fun items index => do
    let item ← items[index]?
    let changed ← change index item
    write items index changed) items

theorem write_inside {items : List β} {index : ℕ} (inside : index < items.length) (item : β) :
    write items index item = some (items.set index item) :=
  if_pos inside

theorem write_behind (front : List β) {block : List β} {index : ℕ} (inside : index < block.length)
    (item : β) :
    write (front ++ block) (front.length + index) item = some (front ++ block.set index item) := by
  have room : front.length + index < (front ++ block).length := by
    rw [List.length_append]
    exact Nat.add_lt_add_left inside _
  rw [write_inside room, List.set_append_right _ _ (Nat.le_add_right _ _), Nat.add_sub_cancel_left]

theorem subtract_of_le {whole part : ℕ} (le : part ≤ whole) :
    subtract whole part = some (whole - part) :=
  if_pos le

theorem copy_front_of_length {items source : List β} {count : ℕ} (room : count ≤ items.length)
    (length : source.length = count) :
    copyFront items count source = some (source ++ items.drop count) :=
  if_pos ⟨room, length⟩

/-! ## Loops -/

/-- After the turns below `count` the items below it are changed, and the others are
as they were. -/
theorem update_eq (change : ℕ → β → Option β) (changed : ℕ → β → β) (items : List β) {count : ℕ}
    (room : count ≤ items.length)
    (changes : ∀ index (inside : index < items.length), index < count →
      change index items[index] = some (changed index items[index])) :
    update change count items =
      some (items.mapIdx fun index item => if index < count then changed index item else item) := by
  induction count with
  | zero =>
      apply congrArg some
      apply List.ext_getElem (by simp)
      intro index _ _
      simp
  | succ count ih =>
      have inside : count < items.length := room
      have before := ih (Nat.le_of_succ_le room)
        fun index indexInside earlier => changes index indexInside (Nat.lt_succ_of_lt earlier)
      rw [update] at before
      rw [update, List.range_succ, List.foldlM_append, before]
      simp only [Option.bind_eq_bind, Option.bind_some, List.foldlM_cons, List.foldlM_nil,
        List.getElem?_mapIdx, List.getElem?_eq_getElem inside, Option.map_some, lt_irrefl,
        if_false, changes count inside (Nat.lt_succ_self count)]
      rw [write_inside (by rw [List.length_mapIdx]; exact inside)]
      apply congrArg some
      apply List.ext_getElem (by simp)
      intro index _ indexInside
      rw [List.length_mapIdx] at indexInside
      simp only [List.getElem_set, List.getElem_mapIdx]
      rcases lt_trichotomy index count with earlier | rfl | later
      · rw [if_neg earlier.ne', if_pos earlier, if_pos (Nat.lt_succ_of_lt earlier)]
      · rw [if_pos rfl, if_pos (Nat.lt_succ_self _)]
      · rw [if_neg later.ne, if_neg later.not_gt, if_neg (by omega)]

theorem update_all (change : ℕ → β → Option β) (changed : ℕ → β → β) {items : List β} {count : ℕ}
    (length : items.length = count)
    (changes : ∀ index (inside : index < items.length),
      change index items[index] = some (changed index items[index])) :
    update change count items = some (items.mapIdx changed) := by
  rw [update_eq change changed items length.ge fun index inside _ => changes index inside]
  apply congrArg some
  apply List.ext_getElem (by simp)
  intro index inside _
  rw [List.length_mapIdx] at inside
  rw [List.getElem_mapIdx, List.getElem_mapIdx, if_pos (length ▸ inside)]

theorem map_inside {access : β → Option γ} (plain : β → γ) {items : List β}
    (inside : ∀ item ∈ items, access item = some (plain item)) :
    items.mapM access = some (items.map plain) := by
  induction items with
  | nil => rfl
  | cons item items ih =>
      rw [List.forall_mem_cons] at inside
      rw [List.mapM_cons, inside.1, ih inside.2]
      rfl

/-- A checked loop over indices follows a loop over the items at these indices, if each
of its turns follows. -/
theorem fold_follows (relation : σ → τ → Prop) (items : List β) (offset : ℕ)
    (checked : σ → ℕ → Option σ) (plain : τ → β × ℕ → τ)
    (follows : ∀ item ∈ items.zipIdx offset, ∀ state target, relation state target →
      ∃ reached, checked state item.2 = some reached ∧ relation reached (plain target item))
    (state : σ) (target : τ) (start : relation state target) :
    ∃ reached, (List.range' offset items.length).foldlM checked state = some reached ∧
      relation reached ((items.zipIdx offset).foldl plain target) := by
  induction items generalizing offset state target with
  | nil => exact ⟨state, rfl, start⟩
  | cons item items ih =>
      rw [List.zipIdx_cons, List.forall_mem_cons] at follows
      obtain ⟨next, turn, related⟩ := follows.1 state target start
      obtain ⟨reached, rest, final⟩ := ih (offset + 1) follows.2 next _ related
      refine ⟨reached, ?_, final⟩
      rw [List.length_cons, List.range'_succ, List.foldlM_cons, turn]
      exact rest

end LinearProgram.Checked
