import TopicWire.Number.Literal

/-!
# Grammar of command lines

A command has options, arguments in fixed places, and perhaps further commands, of which one has to
be chosen.
-/

namespace TopicWire

/-- Which values an option or an argument can have. -/
inductive ValueKind where
  | text
  | path
  | number
  | count
  /-- A natural number of 16 bits. -/
  | port
deriving DecidableEq, Repr

structure OptionSpec where
  name : String
  letter : Option Char := none
  /-- Which values it has; `none` if it stands without one. -/
  kind : Option ValueKind := none
  required : Bool := false
  /-- The environment variable that stands in for the option. -/
  fallback? : Option String := none
  default : Option String := none
  /-- Help lists options by rank, and those of one rank by letter or name. -/
  rank : Nat := 0
  about : String := ""

structure ArgumentSpec where
  name : String
  kind : ValueKind := .text
  required : Bool := true
  default : Option String := none
  about : String := ""

structure CommandSpec where
  name : String
  about : String
  options : List OptionSpec := []
  arguments : List ArgumentSpec := []
  commands : List CommandSpec := []
  /-- What asking for the version shows, if one can ask. -/
  version : Option String := none

/-- Why a command line is not carried out. -/
inductive UsageError where
  | help (path : List String)
  | version
  | nothingGiven
  | missingCommand
  | unknownCommand
  | unknownArgument
  | missingArgument
  | invalidValue
  | emptyValue
  | repeated
  /-- A value is given to an option that has none. -/
  | unexpectedValue
deriving DecidableEq, Repr

namespace ValueKind

def check (kind : ValueKind) (value : String) : Except UsageError Unit :=
  let fits : Bool := match kind with
    | .text => true
    | .path => !value.isEmpty
    | .number => (Number.floatBits? .double value.toList).isSome
    | .count => ((Number.unsigned? value.toList).map fun n => decide (n < 0x10000000000000000)).getD false
    | .port =>
      ((Number.integer? value.toList).map fun n => decide (0 ≤ n ∧ n < 0x10000)).getD false
  if fits then .ok ()
  else .error (if kind = .path then .emptyValue else .invalidValue)

end ValueKind

namespace CommandSpec

def command? (spec : CommandSpec) (name : String) : Option CommandSpec :=
  spec.commands.find? (·.name == name)

def option? (spec : CommandSpec) (name : String) : Option OptionSpec :=
  spec.options.find? (·.name == name)

def letter? (spec : CommandSpec) (letter : Char) : Option OptionSpec :=
  spec.options.find? (·.letter == some letter)

end CommandSpec

end TopicWire
