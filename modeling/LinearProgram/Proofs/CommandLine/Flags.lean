import Mathlib
import LinearProgram.CommandLine.Arguments

/-!
# Verbose flags among the arguments

A verbose flag is an argument of its own, or stands in front of the letters of another one.
Taking all of them away leaves arguments that spell the same command, and how many there
were tells how verbose the invocation is. After a double dash nothing is a flag.
-/

namespace LinearProgram.CommandLine

/-- The letters of a short argument without the flags in front. -/
def dropFlags (letters : List Char) : List Char :=
  letters.dropWhile (· == 'v')

def flagLetters (letters : List Char) : ℕ :=
  (letters.takeWhile (· == 'v')).length

/-- Short letters as an argument, and no argument without letters. -/
def shortArgument : List Char → List String
  | [] => []
  | letters => [String.ofList ('-' :: letters)]

/-- The same arguments without verbose flags. -/
def withoutFlags : List String → List String
  | [] => []
  | argument :: rest =>
      match Shape.of argument with
      | .escape => argument :: rest
      | .long "verbose" none => withoutFlags rest
      | .short letters => shortArgument (dropFlags letters) ++ withoutFlags rest
      | _ => argument :: withoutFlags rest

def flagCount : List String → ℕ
  | [] => 0
  | argument :: rest =>
      match Shape.of argument with
      | .escape => 0
      | .long "verbose" none => 1 + flagCount rest
      | .short letters => flagLetters letters + flagCount rest
      | _ => flagCount rest

namespace Given

def silenced (given : Given) : Given :=
  { given with verbosity := 0 }

/-! ## What the verbosity has no part in -/

theorem set_silenced (given : Given) (key : Key) (value : String) :
    given.silenced.set key value = (given.set key value).map silenced := by
  cases key <;> simp only [set, silenced, Option.map_map] <;> rfl

theorem set_verbosity {given next : Given} {key : Key} {value : String}
    (taken : given.set key value = some next) : next.verbosity = given.verbosity := by
  cases key <;>
    · obtain ⟨_, _, rfl⟩ := Option.map_eq_some_iff.mp taken
      rfl

theorem place_silenced (subcommand : Subcommand) (given : Given) (argument : String) :
    given.silenced.place subcommand argument =
      (given.place subcommand argument).map silenced := by
  unfold place
  split_ifs
  · rw [Option.map_map]
    rfl
  · rfl

theorem place_verbosity {subcommand : Subcommand} {given next : Given} {argument : String}
    (taken : given.place subcommand argument = some next) :
    next.verbosity = given.verbosity := by
  unfold place at taken
  split_ifs at taken
  obtain ⟨_, _, rfl⟩ := Option.map_eq_some_iff.mp taken
  rfl

theorem place_all_silenced {subcommand : Subcommand} {given found : Given}
    {arguments : List String} (taken : given.placeAll subcommand arguments = some found) :
    given.silenced.placeAll subcommand arguments = some found.silenced ∧
      found.verbosity = given.verbosity := by
  induction arguments generalizing given with
  | nil =>
      obtain rfl := Option.some.inj taken
      exact ⟨rfl, rfl⟩
  | cons argument rest ih =>
      obtain ⟨next, placed, others⟩ := Option.bind_eq_some_iff.mp taken
      obtain ⟨same, verbosity⟩ := ih others
      refine ⟨?_, verbosity.trans (place_verbosity placed)⟩
      have first : given.silenced.place subcommand argument = some next.silenced := by
        rw [place_silenced, placed, Option.map_some]
      exact Option.bind_eq_some_iff.mpr ⟨next.silenced, first, same⟩

end Given

/-! ## Single arguments -/

variable {subcommand : Subcommand} {given next found : Given} {pending : Option Key}

theorem take_flag_letter (subcommand : Subcommand) (given : Given) (rest : List Char) :
    takeLetters subcommand given ('v' :: rest) =
      takeLetters subcommand given.countVerbose rest := by
  unfold takeLetters
  rw [if_pos rfl]
  split <;> rfl

/-- The value that follows the letter of an option in the same argument. -/
def attachedValue : List Char → List Char
  | '=' :: value => value
  | value => value

/-- A letter that is no flag belongs to an option; the rest of the argument is its value. -/
theorem take_option_letter (subcommand : Subcommand) (given : Given) {letter : Char}
    (noFlag : letter ≠ 'v') (rest : List Char) :
    takeLetters subcommand given (letter :: rest) =
      (subcommand.short? letter).bind fun key =>
        if rest = [] then some (given, some key)
        else (given.set key (String.ofList (attachedValue rest))).map (·, none) := by
  unfold takeLetters
  rw [if_neg noFlag]
  cases subcommand.short? letter with
  | none => rfl
  | some key =>
      cases rest with
      | nil => rfl
      | cons first value =>
          rw [Option.bind_some, if_neg (List.cons_ne_nil first value)]
          by_cases isEquals : first = '='
          · subst isEquals
            rfl
          · have whole : attachedValue (first :: value) = first :: value := by
              simp [attachedValue, isEquals]
            rw [whole]
            split
            · next noKey => cases noKey
            · next noValue => cases noValue
            · next split => exact absurd (List.cons.inj split).1 isEquals
            · next isKey _ _ => rw [Option.some.inj isKey]

/-- What an option takes does not depend on the flags that came before. -/
theorem take_option_letter_silenced {letter : Char} (noFlag : letter ≠ 'v') {rest : List Char}
    (taken : takeLetters subcommand given (letter :: rest) = some (next, pending)) :
    letter ≠ '-' ∧
      takeLetters subcommand given.silenced (letter :: rest) = some (next.silenced, pending) ∧
      next.verbosity = given.verbosity := by
  rw [take_option_letter subcommand given noFlag] at taken
  rw [take_option_letter subcommand given.silenced noFlag]
  obtain ⟨key, short, value⟩ := Option.bind_eq_some_iff.mp taken
  rw [short, Option.bind_some]
  have noDash : letter ≠ '-' := by
    rintro rfl
    simp [Subcommand.short?, Key.ofShort?] at short
  refine ⟨noDash, ?_⟩
  split_ifs at value ⊢ with alone
  · obtain ⟨rfl, rfl⟩ := Prod.mk.inj (Option.some.inj value)
    exact ⟨rfl, rfl⟩
  · obtain ⟨_, set, same⟩ := Option.map_eq_some_iff.mp value
    obtain ⟨rfl, rfl⟩ := Prod.mk.inj same
    exact ⟨by rw [Given.set_silenced, set]; rfl, Given.set_verbosity set⟩

/-- Flags are counted first; what is left of the letters is nothing or an option. -/
theorem take_letters_flags (subcommand : Subcommand) (given : Given) (letters : List Char) :
    takeLetters subcommand given letters =
      takeLetters subcommand { given with verbosity := given.verbosity + flagLetters letters }
        (dropFlags letters) := by
  induction letters generalizing given with
  | nil => rfl
  | cons letter rest ih =>
      by_cases flag : letter = 'v'
      · subst flag
        have count : flagLetters ('v' :: rest) = 1 + flagLetters rest := by
          simp [flagLetters, Nat.add_comm]
        have dropped : dropFlags ('v' :: rest) = dropFlags rest := by simp [dropFlags]
        rw [take_flag_letter, ih, dropped, count, ← Nat.add_assoc]
        rfl
      · have count : flagLetters (letter :: rest) = 0 := by simp [flagLetters, flag]
        have dropped : dropFlags (letter :: rest) = letter :: rest := by simp [dropFlags, flag]
        rw [dropped, count]
        rfl

theorem drop_flags_head {letters : List Char} {letter : Char} {rest : List Char}
    (left : dropFlags letters = letter :: rest) : letter ≠ 'v' := by
  have head := List.head?_dropWhile_not (· == 'v') letters
  rw [dropFlags] at left
  rw [left] at head
  simpa using head

/-- A short argument without its flags is no argument, or one that gives the same. -/
theorem short_argument_cases {letters : List Char}
    (taken : takeLetters subcommand given letters = some (next, pending)) :
    next.verbosity = given.verbosity + flagLetters letters ∧
      (shortArgument (dropFlags letters) = [] ∧ next.silenced = given.silenced ∧ pending = none ∨
        ∃ argument left, shortArgument (dropFlags letters) = [argument] ∧
          Shape.of argument = .short left ∧
          takeLetters subcommand given.silenced left = some (next.silenced, pending)) := by
  rw [take_letters_flags] at taken
  cases left : dropFlags letters with
  | nil =>
      rw [left] at taken
      obtain ⟨rfl, rfl⟩ := Prod.mk.inj (Option.some.inj taken)
      exact ⟨rfl, .inl ⟨rfl, rfl, rfl⟩⟩
  | cons letter rest =>
      rw [left] at taken
      obtain ⟨noDash, silenced, verbosity⟩ :=
        take_option_letter_silenced (drop_flags_head left) taken
      refine ⟨verbosity, .inr ⟨_, letter :: rest, rfl, ?_, silenced⟩⟩
      simp [Shape.of, noDash]

theorem take_option_silenced {name : String} {value : Option String} (noFlag : name ≠ "verbose")
    (taken : takeOption subcommand given name value = some (next, pending)) :
    takeOption subcommand given.silenced name value = some (next.silenced, pending) ∧
      next.verbosity = given.verbosity := by
  unfold takeOption at taken ⊢
  rw [if_neg noFlag] at taken ⊢
  split at taken
  · cases taken
  · obtain ⟨rfl, rfl⟩ := Prod.mk.inj (Option.some.inj taken)
    exact ⟨rfl, rfl⟩
  · obtain ⟨_, set, same⟩ := Option.map_eq_some_iff.mp taken
    obtain ⟨rfl, rfl⟩ := Prod.mk.inj same
    refine ⟨?_, Given.set_verbosity set⟩
    rw [Given.set_silenced, set]
    rfl

/-! ## All arguments -/

/-- By induction over the arguments. While an option waits for its value nothing that looks like
a flag is accepted, and after a double dash nothing is taken for one. -/
theorem take_arguments_without_flags {arguments : List String}
    (taken : takeArguments subcommand pending given arguments = some found) :
    takeArguments subcommand pending given.silenced (withoutFlags arguments) =
        some found.silenced ∧
      found.verbosity = given.verbosity + flagCount arguments := by
  induction arguments generalizing pending given with
  | nil =>
      unfold takeArguments at taken
      split_ifs at taken with waits
      obtain rfl := Option.some.inj taken
      exact ⟨by simp [withoutFlags, takeArguments, waits], rfl⟩
  | cons argument rest ih =>
      unfold takeArguments at taken
      split at taken
      · next key shape =>
        obtain ⟨next, set, others⟩ := Option.bind_eq_some_iff.mp taken
        obtain ⟨same, verbosity⟩ := ih others
        simp only [withoutFlags, flagCount, takeArguments, shape]
        rw [Given.set_silenced, set]
        exact ⟨same, by rw [verbosity, Given.set_verbosity set]⟩
      · cases taken
      · next shape =>
        obtain ⟨next, placed, others⟩ := Option.bind_eq_some_iff.mp taken
        obtain ⟨same, verbosity⟩ := ih others
        simp only [withoutFlags, flagCount, takeArguments, shape]
        rw [Given.place_silenced, placed]
        exact ⟨same, by rw [verbosity, Given.place_verbosity placed]⟩
      · next shape =>
        simp only [withoutFlags, flagCount, takeArguments, shape]
        exact Given.place_all_silenced taken
      · next name value shape =>
        obtain ⟨⟨next, after⟩, option, others⟩ := Option.bind_eq_some_iff.mp taken
        obtain ⟨same, verbosity⟩ := ih others
        by_cases flag : name = "verbose"
        · subst flag
          cases value with
          | some text => simp [takeOption] at option
          | none =>
              obtain ⟨rfl, rfl⟩ := Prod.mk.inj (Option.some.inj option)
              simp only [withoutFlags, flagCount, shape]
              exact ⟨same, by rw [verbosity, Given.countVerbose, Nat.add_assoc]⟩
        · obtain ⟨silenced, unchanged⟩ := take_option_silenced flag option
          have kept : withoutFlags (argument :: rest) = argument :: withoutFlags rest := by
            simp [withoutFlags, shape, flag]
          have count : flagCount (argument :: rest) = flagCount rest := by
            simp [flagCount, shape, flag]
          rw [kept, count]
          simp only [takeArguments, shape]
          rw [silenced]
          exact ⟨same, by rw [verbosity, unchanged]⟩
      · next letters shape =>
        obtain ⟨⟨next, after⟩, option, others⟩ := Option.bind_eq_some_iff.mp taken
        obtain ⟨same, verbosity⟩ := ih others
        obtain ⟨counted, alone | ⟨argument, left, isArgument, isShort, silenced⟩⟩ :=
          short_argument_cases option
        · obtain ⟨isNothing, silenced, rfl⟩ := alone
          simp only [withoutFlags, flagCount, shape, isNothing, List.nil_append]
          rw [← silenced]
          exact ⟨same, by rw [verbosity, counted, Nat.add_assoc]⟩
        · simp only [withoutFlags, flagCount, shape, isArgument, List.singleton_append,
            takeArguments, isShort]
          rw [silenced]
          exact ⟨same, by rw [verbosity, counted, Nat.add_assoc]⟩

theorem take_subcommand_without_flags {verbosity before : ℕ} {arguments rest : List String}
    (taken : takeSubcommand verbosity arguments = some (before, subcommand, rest)) :
    takeSubcommand 0 (withoutFlags arguments) = some (0, subcommand, withoutFlags rest) ∧
      before + flagCount rest = verbosity + flagCount arguments := by
  induction arguments generalizing verbosity with
  | nil => cases taken
  | cons argument others ih =>
      unfold takeSubcommand at taken
      split at taken
      · next shape =>
        obtain ⟨found, named, same⟩ := Option.map_eq_some_iff.mp taken
        obtain ⟨rfl, rfl, rfl⟩ := same
        simp only [withoutFlags, flagCount, takeSubcommand, shape]
        exact ⟨by rw [named]; rfl, trivial⟩
      · next shape =>
        obtain ⟨same, counted⟩ := ih taken
        simp only [withoutFlags, flagCount, shape]
        exact ⟨same, by rw [counted, Nat.add_assoc]⟩
      · next letters shape =>
        split_ifs at taken with flags
        obtain ⟨same, counted⟩ := ih taken
        have dropped : dropFlags letters = [] := by
          rw [dropFlags, List.dropWhile_eq_nil_iff]
          exact List.all_eq_true.mp flags
        have all : flagLetters letters = letters.length := by
          rw [flagLetters, List.takeWhile_eq_self_iff.mpr (List.all_eq_true.mp flags)]
        simp only [withoutFlags, flagCount, shape, dropped, shortArgument, List.nil_append, all]
        exact ⟨same, by rw [counted, Nat.add_assoc]⟩
      · cases taken

/-- Taking the verbose flags away silences an invocation and changes nothing else. Flags after
the subcommand count instead of those before it, so there may be more of them than count. -/
theorem invocation_without_flags {arguments : List String} {invocation : Invocation}
    (spelled : Invocation.ofArguments? arguments = some invocation) :
    Invocation.ofArguments? (withoutFlags arguments) = some ⟨0, invocation.command⟩ ∧
      invocation.verbosity ≤ flagCount arguments ∧
      (1 ≤ flagCount arguments → 1 ≤ invocation.verbosity) := by
  simp only [Invocation.ofArguments?, Option.bind_eq_bind, Option.bind_eq_some_iff,
    Option.pure_def, Option.some.injEq] at spelled ⊢
  obtain ⟨⟨before, subcommand, rest⟩, taken, given, isGiven, command, isCommand, rfl⟩ := spelled
  obtain ⟨sameSubcommand, counted⟩ := take_subcommand_without_flags taken
  obtain ⟨sameGiven, verbosity⟩ := take_arguments_without_flags isGiven
  refine ⟨⟨_, sameSubcommand, _, sameGiven, command, isCommand, rfl⟩, ?_⟩
  have none : ({} : Given).verbosity = 0 := rfl
  rw [none] at verbosity
  dsimp only at verbosity ⊢
  split_ifs with silent <;> omega

/-- Flags go one by one, from bundles too, and what follows a double dash stays. -/
example :
    withoutFlags ["-v", "solve", "-vmboth", "problem.json", "--verbose", "--", "-v"] =
      ["solve", "-mboth", "problem.json", "--", "-v"] := by
  decide

end LinearProgram.CommandLine
