import LinearProgram.CommandLine.Command
import LinearProgram.Decimal.Literal

/-!
# Reading arguments

Options may stand anywhere after the subcommand, in any order, each at most once
except for the shrink factor and the verbose flag. A long option takes its value
from the same argument after an equals sign, a short one from the rest of the
same argument, and either one from the next argument unless that looks like an
option. Arguments that do not fit give no invocation; what a usage error or a help
page says is left out.
-/

namespace LinearProgram.CommandLine

inductive Subcommand where
  | solve
  | demo
  | check
deriving DecidableEq, Repr

def Subcommand.ofName? : String → Option Subcommand
  | "solve" => some .solve
  | "demo" => some .demo
  | "check" => some .check
  | _ => none

inductive Key where
  | method
  | tolerance
  | shrinkFactor
  | maxIterations
  | format
deriving DecidableEq, Repr

namespace Key

def ofLong? : String → Option Key
  | "method" => some .method
  | "eps" => some .tolerance
  | "alpha" => some .shrinkFactor
  | "max-iterations" => some .maxIterations
  | "format" => some .format
  | _ => none

def ofShort? : Char → Option Key
  | 'm' => some .method
  | 'a' => some .shrinkFactor
  | 'f' => some .format
  | _ => none

end Key

namespace Subcommand

def permits : Subcommand → Key → Bool
  | .solve, _ => true
  | .demo, key => key == .tolerance || key == .shrinkFactor || key == .maxIterations
  | .check, _ => false

def takesFile : Subcommand → Bool
  | .solve | .check => true
  | .demo => false

def long? (subcommand : Subcommand) (name : String) : Option Key :=
  (Key.ofLong? name).filter subcommand.permits

def short? (subcommand : Subcommand) (letter : Char) : Option Key :=
  (Key.ofShort? letter).filter subcommand.permits

end Subcommand

structure Given where
  file : Option String := none
  method : Option Method := none
  tolerance : Option Float := none
  shrinkFactors : List Float := []
  maxIterations : Option Nat := none
  format : Option Format := none
  verbosity : Nat := 0

def method? : String → Option Method
  | "simplex" => some .simplex
  | "interior-point" => some .interiorPoint
  | "both" => some .both
  | _ => none

def format? : String → Option Format
  | "pretty" => some .pretty
  | "json" => some .json
  | _ => none

/-- Digits after an optional plus, for a number below `2 ^ 64`. -/
def count? (text : String) : Option Nat :=
  let digits :=
    match text.toList with
    | '+' :: rest => rest
    | all => all
  if digits.isEmpty || !digits.all Char.isDigit then none
  else
    let value := Decimal.digitsValue 0 digits
    if value < Decimal.wordCount then some value else none

/-- Store a value in a place that is still free. -/
def store {β : Type} (place : Option β) (value : Option β) : Option (Option β) :=
  match place, value with
  | none, some found => some (some found)
  | _, _ => none

namespace Given

/-- Take a value for an option, unless it is unsuitable or one value too many. -/
def set (given : Given) (key : Key) (value : String) : Option Given :=
  match key with
  | .method =>
      (store given.method (method? value)).map fun method => { given with method := method }
  | .tolerance =>
      (store given.tolerance (Decimal.Literal.read? value)).map fun tolerance =>
        { given with tolerance := tolerance }
  | .shrinkFactor =>
      (Decimal.Literal.read? value).map fun factor =>
        { given with shrinkFactors := given.shrinkFactors ++ [factor] }
  | .maxIterations =>
      (store given.maxIterations (count? value)).map fun maxIterations =>
        { given with maxIterations := maxIterations }
  | .format =>
      (store given.format (format? value)).map fun format => { given with format := format }

/-- Take an argument that is no option. -/
def place (subcommand : Subcommand) (given : Given) (argument : String) : Option Given :=
  if subcommand.takesFile && !argument.isEmpty then
    (store given.file (some argument)).map fun file => { given with file := file }
  else none

def placeAll (subcommand : Subcommand) (given : Given) (arguments : List String) : Option Given :=
  arguments.foldlM (place subcommand) given

def countVerbose (given : Given) : Given :=
  { given with verbosity := given.verbosity + 1 }

end Given

/-- How an argument is meant by its form alone. -/
inductive Shape where
  | escape
  | long (name : String) (value : Option String)
  | short (letters : List Char)
  | plain

def Shape.of (argument : String) : Shape :=
  match argument.toList with
  | ['-', '-'] => .escape
  | '-' :: '-' :: rest =>
      .long (String.ofList (rest.takeWhile (· != '=')))
        (match rest.dropWhile (· != '=') with
          | [] => none
          | _ :: value => some (String.ofList value))
  | '-' :: letter :: rest => .short (letter :: rest)
  | _ => .plain

/-- The flags of one argument, up to an option that takes a value. That option is
returned when the argument ends without its value. -/
def takeLetters (subcommand : Subcommand) (given : Given) :
    List Char → Option (Given × Option Key)
  | [] => some (given, none)
  | letter :: rest =>
      if letter = 'v' then takeLetters subcommand given.countVerbose rest
      else
        match subcommand.short? letter, rest with
        | none, _ => none
        | some key, [] => some (given, some key)
        | some key, '=' :: value => (given.set key (String.ofList value)).map (·, none)
        | some key, value => (given.set key (String.ofList value)).map (·, none)

/-- One argument; an option that still lacks its value is returned. -/
def takeOption (subcommand : Subcommand) (given : Given) (name : String) (value : Option String) :
    Option (Given × Option Key) :=
  if name = "verbose" then
    if value.isNone then some (given.countVerbose, none) else none
  else
    match subcommand.long? name, value with
    | none, _ => none
    | some key, none => some (given, some key)
    | some key, some text => (given.set key text).map (·, none)

/-- The arguments after a subcommand. `pending` is an option whose value must
come next. -/
def takeArguments (subcommand : Subcommand) (pending : Option Key) (given : Given) :
    List String → Option Given
  | [] => if pending.isSome then none else some given
  | argument :: rest =>
      match pending, Shape.of argument with
      | some key, .plain => do takeArguments subcommand none (← given.set key argument) rest
      | some _, _ => none
      | none, .plain => do takeArguments subcommand none (← given.place subcommand argument) rest
      | none, .escape => given.placeAll subcommand rest
      | none, .long name value => do
          let (next, pending) ← takeOption subcommand given name value
          takeArguments subcommand pending next rest
      | none, .short letters => do
          let (next, pending) ← takeLetters subcommand given letters
          takeArguments subcommand pending next rest

/-- The verbose flags before the subcommand, the subcommand, and what follows. -/
def takeSubcommand (verbosity : Nat) : List String → Option (Nat × Subcommand × List String)
  | [] => none
  | argument :: rest =>
      match Shape.of argument with
      | .plain => (Subcommand.ofName? argument).map fun found => (verbosity, found, rest)
      | .long "verbose" none => takeSubcommand (verbosity + 1) rest
      | .short letters =>
          if letters.all (· == 'v') then takeSubcommand (verbosity + letters.length) rest
          else none
      | _ => none

/-- What a request holds where nothing is given. -/
def Given.request (given : Given) (shrinkFactors : List Float) : Report.Request Float where
  method := given.method.getD .both
  tolerance := given.tolerance.getD Simplex.standardTolerance
  shrinkFactors := if given.shrinkFactors.isEmpty then shrinkFactors else given.shrinkFactors
  maxIterations := given.maxIterations.getD Barrier.standardIterations

def Given.command (given : Given) : Subcommand → Option Command
  | .solve => given.file.map fun file =>
      .solve file (given.request [0.5]) (given.format.getD .pretty)
  | .demo => some (.demo (given.request [0.5, 0.9]))
  | .check => given.file.map .check

/-- The invocation that the arguments spell. Verbose flags after the subcommand
take precedence over those before it. -/
def Invocation.ofArguments? (arguments : List String) : Option Invocation := do
  let (before, subcommand, rest) ← takeSubcommand 0 arguments
  let given ← takeArguments subcommand none {} rest
  let command ← given.command subcommand
  pure ⟨if given.verbosity = 0 then before else given.verbosity, command⟩

end LinearProgram.CommandLine
