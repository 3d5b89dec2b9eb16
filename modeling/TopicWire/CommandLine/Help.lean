import TopicWire.CommandLine.Invocation

/-!
# Help

The text that describes a command: what it does, how it is used, and its commands, arguments and
options in columns.
-/

namespace TopicWire

/-- The name of a value: upper case, with underscores. -/
def placeholder (name : String) : String :=
  name.map fun c => if c = '-' then '_' else c.toUpper

def helpRows (title : String) (rows : List (String × String)) : String :=
  if rows.isEmpty then ""
  else
    let width := (rows.map (·.1.length)).foldl max 0
    let lines := rows.map fun (left, right) =>
      let gap := String.ofList (List.replicate (width - left.length + 2) ' ')
      s!"  {left}{gap}{right}\n"
    s!"\n{title}:\n{String.join lines}"

/-- A description with what stands in for a value that is not given. -/
def describe (about : String) (notes : List String) : String :=
  " ".intercalate ([about].filter (!·.isEmpty) ++ notes)

namespace OptionSpec

def usage (o : OptionSpec) : String :=
  let letter := match o.letter with
    | some c => s!"-{c}, "
    | none => "    "
  let value := if o.kind.isSome then s!" <{placeholder o.name}>" else ""
  s!"{letter}--{o.name}{value}"

/-- What options of one rank are ordered by. -/
def orderKey (o : OptionSpec) : String :=
  match o.letter with
  | some c => s!"{c}0"
  | none => o.name

def before (a b : OptionSpec) : Bool :=
  a.rank < b.rank || (a.rank == b.rank && decide (a.orderKey < b.orderKey))

def row (env : Environment) (o : OptionSpec) : String × String :=
  let sources := o.fallback?.toList.map fun name =>
    let value := (env.lookup name).getD ""
    s!"[env: {name}={value}]"
  let defaults := o.default.toList.map fun value => s!"[default: {value}]"
  (o.usage, describe o.about (sources ++ defaults))

end OptionSpec

namespace ArgumentSpec

def usage (a : ArgumentSpec) : String :=
  if a.required then s!"<{placeholder a.name}>" else s!"[{placeholder a.name}]"

def row (a : ArgumentSpec) : String × String :=
  (a.usage, describe a.about (a.default.toList.map fun value => s!"[default: {value}]"))

end ArgumentSpec

namespace CommandSpec

/-- The command that describes the others. -/
def helpCommand : CommandSpec :=
  { name := "help", about := "Print this message or the help of the given subcommand(s)" }

def find? (spec : CommandSpec) : List String → Option CommandSpec
  | [] => some spec
  | name :: path =>
    match spec.command? name with
    | some inner => inner.find? path
    | none => if name = "help" then some helpCommand else none

def usage (spec : CommandSpec) (path : List String) : String :=
  let required := (spec.options.filter (·.required)).map fun o =>
    s!"--{o.name} <{placeholder o.name}>"
  let commands := if spec.commands.isEmpty then [] else ["<COMMAND>"]
  " ".intercalate (path ++ ["[OPTIONS]"] ++ required ++ spec.arguments.map ArgumentSpec.usage ++
    commands)

def help (spec : CommandSpec) (path : List String) (env : Environment) : String :=
  let commands := if spec.commands.isEmpty then [] else spec.commands ++ [helpCommand]
  let standard : List (String × String) :=
    ("-h, --help", "Print help") ::
      (if spec.version.isSome then [("-V, --version", "Print version")] else [])
  s!"{spec.about}\n\nUsage: {spec.usage path}\n" ++
    helpRows "Commands" (commands.map fun c => (c.name, c.about)) ++
    helpRows "Arguments" (spec.arguments.map ArgumentSpec.row) ++
    helpRows "Options"
      ((spec.options.mergeSort OptionSpec.before).map (OptionSpec.row env) ++ standard)

end CommandSpec

end TopicWire
