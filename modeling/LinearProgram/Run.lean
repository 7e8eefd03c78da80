import LinearProgram.SolveError

/-!
# Observed runs

A solver answers with an outcome and with the list of the events that happened
on the way, in their order. Runs are composed in sequence: the events add up and
the first failure ends the run.
-/

namespace LinearProgram

inductive Event (α : Type) where
  /-- A simplex pivot; `iteration` counts from zero within one simplex solve. -/
  | pivot (iteration column row : Nat)
  /-- A correction of the barrier state; `iteration` counts from one within one
  barrier solve and `barrier` is the parameter before it shrinks. -/
  | barrierStep (iteration : Nat) (barrier measure target : α) (converged : Bool)
  /-- The end of a successful barrier solve; `barrier` is the final parameter. -/
  | converged (iteration : Nat) (barrier : α)
deriving DecidableEq, Repr

structure Run (α β : Type) where
  events : List (Event α)
  outcome : Except (SolveError α) β

namespace Run

variable {α β γ : Type}

def andThen (first : Run α β) (next : β → Run α γ) : Run α γ :=
  match first.outcome with
  | .error cause => ⟨first.events, .error cause⟩
  | .ok value => ⟨first.events ++ (next value).events, (next value).outcome⟩

instance : Monad (Run α) where
  pure value := ⟨[], .ok value⟩
  bind := andThen

@[simp] theorem bind_eq_and_then (first : Run α β) (next : β → Run α γ) :
    first >>= next = first.andThen next :=
  rfl

@[simp] theorem pure_outcome (value : β) : (pure value : Run α β).outcome = .ok value :=
  rfl

theorem and_then_eq_ok_iff {first : Run α β} {next : β → Run α γ} {value : γ} :
    (first.andThen next).outcome = .ok value ↔
      ∃ between, first.outcome = .ok between ∧ (next between).outcome = .ok value := by
  unfold andThen
  cases first.outcome <;> simp

theorem and_then_eq_error_iff {first : Run α β} {next : β → Run α γ} {cause : SolveError α} :
    (first.andThen next).outcome = .error cause ↔
      first.outcome = .error cause ∨
        ∃ between, first.outcome = .ok between ∧ (next between).outcome = .error cause := by
  unfold andThen
  cases first.outcome <;> simp

end Run

namespace Event

variable {α : Type}

def pivotCell? : Event α → Option (Nat × Nat)
  | .pivot _ column row => some (column, row)
  | _ => none

end Event

namespace Run

variable {α β : Type}

def pivotCells (run : Run α β) : List (Nat × Nat) :=
  run.events.filterMap Event.pivotCell?

end Run

end LinearProgram
