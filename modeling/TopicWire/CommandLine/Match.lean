import TopicWire.CommandLine.Grammar
import TopicWire.Session.Settings
import TopicWire.Text.Cut

/-!
# Matching command lines

Each command of a command line is a level of its own, with the options and arguments that were given
to it. A value is looked at only when the next option or argument comes or the command line ends, so
an unknown option after it is reported first. A level ends after the levels below it: then the
environment stands in for options that were not given, and what is required is looked for.
-/

namespace TopicWire

structure Given where
  name : String
  value : String
  /-- It comes from the environment. -/
  assumed : Bool := false
deriving DecidableEq, Repr

/-- An option or an argument whose value was not looked at yet. -/
structure Pending where
  name : String
  kind : ValueKind
  value : Option String
deriving DecidableEq, Repr

structure CommandLevel where
  spec : CommandSpec
  path : List String
  given : List Given := []
  pending : Option Pending := none
  /-- The next argument is the value of an option. -/
  awaiting : Bool := false
  /-- Two dashes have ended the options. -/
  literal : Bool := false
  place : Nat := 0

namespace CommandLevel

/-- Looks at the value that is pending. -/
def settle (l : CommandLevel) : Except UsageError CommandLevel :=
  match l.pending with
  | none => .ok l
  | some ⟨_, _, none⟩ => .error .emptyValue
  | some ⟨name, kind, some value⟩ => do
    if l.given.any (·.name == name) then throw .repeated
    kind.check value
    return { l with pending := none, given := l.given ++ [⟨name, value, false⟩] }

def flag (l : CommandLevel) (name : String) : Except UsageError CommandLevel := do
  let l ← l.settle
  if l.given.any (·.name == name) then throw .repeated
  return { l with given := l.given ++ [⟨name, "true", false⟩], awaiting := false }

/-- An option with a value, which follows if it is not there. -/
def option (l : CommandLevel) (name : String) (kind : ValueKind) (value : Option String) :
    Except UsageError CommandLevel := do
  let l ← l.settle
  let l := { l with pending := some ⟨name, kind, value⟩, awaiting := value.isNone }
  if value.isSome then l.settle else return l

def argument (l : CommandLevel) (value : String) : Except UsageError CommandLevel :=
  match l.spec.arguments[l.place]? with
  | some spec => do
    let l ← l.settle
    return { l with pending := some ⟨spec.name, spec.kind, some value⟩, place := l.place + 1 }
  | none =>
    if l.spec.commands.isEmpty then .error .unknownArgument
    else if l.literal ∧ (value = "help" ∨ (l.spec.command? value).isSome) then
      .error .unknownArgument
    else .error .unknownCommand

/-- Two dashes and what follows them. -/
def long (l : CommandLevel) (cs : List Char) : Except UsageError CommandLevel :=
  let (name, value) := match Text.cut (· == '=') cs with
    | some (name, value) => (String.ofList name, some (String.ofList value))
    | none => (String.ofList cs, none)
  let asks : Option UsageError :=
    if name = "help" then some (.help l.path)
    else if name = "version" ∧ l.spec.version.isSome then some .version
    else none
  match asks, l.spec.option? name with
  | some e, _ => if value.isSome then .error .unexpectedValue else l.settle >>= fun _ => .error e
  | none, some { kind := some kind, .. } => l.option name kind value
  | none, some { kind := none, .. } =>
    if value.isSome then .error .unexpectedValue else l.flag name
  | none, none => .error .unknownArgument

/-- Letters after one dash. A letter whose option has a value takes the rest for it, without an
equals sign in front. -/
def letters (l : CommandLevel) : List Char → Except UsageError CommandLevel
  | [] => .ok l
  | c :: cs =>
    let asks : Option UsageError :=
      if c = 'h' then some (.help l.path)
      else if c = 'V' ∧ l.spec.version.isSome then some .version
      else none
    match asks, l.spec.letter? c with
    | some e, _ => l.settle >>= fun _ => .error e
    | none, some { name, kind := some kind, .. } =>
      let value := match cs with
        | [] => none
        | '=' :: cs => some (String.ofList cs)
        | cs => some (String.ofList cs)
      l.option name kind value
    | none, some { name, kind := none, .. } => do
      let l ← l.flag name
      l.letters cs
    | none, none => .error .unknownArgument

def assume (env : Environment) (given : List Given) (o : OptionSpec) :
    Except UsageError (List Given) :=
  if given.any (·.name == o.name) then .ok given
  else match o.fallback?.bind fun name => env.lookup name with
    | none => .ok given
    | some value => do
      if let some kind := o.kind then kind.check value
      return given ++ [⟨o.name, value, true⟩]

def finish (env : Environment) (l : CommandLevel) (chosen : Bool) :
    Except UsageError (String × List Given) := do
  let l ← l.settle
  let given ← l.spec.options.foldlM (assume env) l.given
  if !chosen && !l.spec.commands.isEmpty then
    throw (if given.isEmpty then .nothingGiven else .missingCommand)
  let required := (l.spec.options.filter (·.required)).map (·.name) ++
    (l.spec.arguments.filter (·.required)).map (·.name)
  if required.all fun name => given.any (·.name == name) then return (l.spec.name, given)
  else throw .missingArgument

def take (l : CommandLevel) (arg : String) : Except UsageError CommandLevel :=
  if l.literal then l.argument arg
  else match arg.toList with
    | ['-', '-'] => .ok { l with literal := true }
    | '-' :: '-' :: cs => l.long cs
    | '-' :: c :: cs => l.letters (c :: cs)
    | _ =>
      match l.awaiting, l.pending with
      | true, some pending =>
        .ok { l with pending := some { pending with value := some arg }, awaiting := false }
      | _, _ => l.argument arg

end CommandLevel

def helpRequest (spec : CommandSpec) (path : List String) : List String → UsageError
  | [] => .help path
  | arg :: args =>
    if arg = "help" ∧ !spec.commands.isEmpty then
      if args.isEmpty then .help (path ++ [arg]) else .unknownCommand
    else match spec.command? arg with
      | some inner => helpRequest inner (path ++ [arg]) args
      | none => .unknownCommand

/-- The levels of a command line, each with its name and what is given to it. -/
def matchLevels (env : Environment) : List String → CommandLevel →
    Except UsageError (List (String × List Given))
  | [], l => do return [← l.finish env false]
  | arg :: args, l =>
    let chosen := if l.literal || l.awaiting then none else l.spec.command? arg
    match chosen with
    | some inner => do
      let below ← matchLevels env args { spec := inner, path := l.path ++ [inner.name] }
      let own ← l.finish env true
      return own :: below
    | none =>
      if arg = "help" ∧ !l.literal ∧ !l.awaiting ∧ !l.spec.commands.isEmpty then
        .error (helpRequest l.spec l.path args)
      else do matchLevels env args (← l.take arg)

end TopicWire
