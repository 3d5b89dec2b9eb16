import TopicWire.CommandLine.Match

/-!
# Invocations of the program

What a user can ask the program to do.
-/

namespace TopicWire

structure PublishRequest where
  topic : String
  typeId : String
  /-- The message as JSON text. -/
  message : String := "{}"
  /-- Messages in a second, as the bits of a number. -/
  rate : UInt64 := 0x3ff0000000000000
  count : Option Nat := none
  latch : Bool := false
deriving DecidableEq

structure EchoRequest where
  topic : String
  typeId : String
  host : String := "127.0.0.1"
  port : Nat
  count : Option Nat := none
deriving DecidableEq

inductive Command where
  | «show» (typeId : String)
  | publish (request : PublishRequest)
  | echo (request : EchoRequest)
  | decode (typeId file : String)
  | dumpSettings
  | settingsPath
deriving DecidableEq

structure Invocation where
  settings : Option String
  debug : Bool
  jsonLogs : Bool
  command : Command
deriving DecidableEq

namespace Invocation

/-- Options of the program that can stand before or after a command. -/
def sharedOptions : List OptionSpec :=
  [{ name := "config", letter := some 'c', kind := some .path, fallback? := some "TCPROS_CONFIG",
     about := "Path to configuration file" },
   { name := "debug", letter := some 'v', rank := 1, about := "Enable debug output" },
   { name := "json-logs", rank := 2, about := "Write logs as JSON lines" }]

def typeArgument : ArgumentSpec := { name := "type_id" }

def countOption (rank : Nat) : OptionSpec :=
  { name := "count", letter := some 'n', kind := some .count, rank := rank,
    about := "Stop after this many messages" }

def commands : List CommandSpec :=
  [{ name := "show", about := "Show a message type: digest, fields and accessors",
     options := sharedOptions,
     arguments := [{ typeArgument with about := "Message type, e.g. std_msgs/String" }] },
   { name := "pub", about := "Advertise a topic and publish a JSON message on it",
     options :=
       [{ name := "rate", letter := some 'r', kind := some .number, default := some "1",
          about := "Publish rate in Hz" },
        countOption 1,
        { name := "latch", rank := 2, about := "Latch the last message for late subscribers" }] ++
       sharedOptions,
     arguments :=
       [{ name := "topic" }, typeArgument,
        { name := "message", required := false, default := some "\x7b\x7d",
          about := "Message as a JSON object; omitted fields keep their defaults" }] },
   { name := "echo", about := "Subscribe to a publisher and print messages as JSON",
     options :=
       [{ name := "host", kind := some .text, default := some "127.0.0.1",
          about := "Publisher host" },
        { name := "port", letter := some 'p', kind := some .port, required := true, rank := 1,
          about := "Publisher port" },
        countOption 2] ++ sharedOptions,
     arguments := [{ name := "topic" }, typeArgument] },
   { name := "decode", about := "Decode a captured chunk of a TCPROS stream",
     options := sharedOptions,
     arguments :=
       [typeArgument, { name := "file", kind := .path, about := "File holding the raw bytes" }] },
   { name := "config", about := "Configuration commands", options := sharedOptions,
     commands :=
       [{ name := "dump", about := "Dump current configuration", options := sharedOptions },
        { name := "path", about := "Show configuration file path", options := sharedOptions }] }]

def program : CommandSpec :=
  { name := "tcpros", about := "tcpros - publish, echo and inspect TCPROS topics",
    options := sharedOptions, commands := commands, version := some "tcpros 0.1.0" }

def valueOf (given : List Given) (name : String) : Option String :=
  (given.find? (·.name == name)).map (·.value)

/-- The number that a count or a port stands for. -/
def numberOf (given : List Given) (name : String) : Option Nat :=
  (valueOf given name).bind fun value => (Number.integer? value.toList).map Int.toNat

def command? : List (String × List Given) → Option Command
  | [(_, _), ("show", given)] => do return .show (← valueOf given "type_id")
  | [(_, _), ("pub", given)] => do
    let bits := (valueOf given "rate").bind fun rate => Number.floatBits? .double rate.toList
    return .publish {
      topic := ← valueOf given "topic"
      typeId := ← valueOf given "type_id"
      message := (valueOf given "message").getD "\x7b\x7d"
      rate := (bits.map UInt64.ofNat).getD 0x3ff0000000000000
      count := numberOf given "count"
      latch := (valueOf given "latch").isSome }
  | [(_, _), ("echo", given)] => do
    return .echo {
      topic := ← valueOf given "topic"
      typeId := ← valueOf given "type_id"
      host := (valueOf given "host").getD "127.0.0.1"
      port := ← numberOf given "port"
      count := numberOf given "count" }
  | [(_, _), ("decode", given)] => do
    return .decode (← valueOf given "type_id") (← valueOf given "file")
  | [(_, _), ("config", _), ("dump", _)] => some .dumpSettings
  | [(_, _), ("config", _), ("path", _)] => some .settingsPath
  | _ => none

/-- The value of an option that can be given on every level: the innermost one counts, and one from
the environment only if there is no other. -/
def shared (levels : List (String × List Given)) (name : String) : Option Given :=
  levels.foldl (fun best (_, given) =>
    match best, given.find? (·.name == name) with
    | some best, some inner => some (if inner.assumed && !best.assumed then best else inner)
    | best, none => best
    | none, inner => inner) none

def parse (env : Environment) (args : List String) : Except UsageError Invocation := do
  let levels ← matchLevels env args { spec := program, path := [program.name] }
  match command? levels with
  | none => throw .missingCommand
  | some command =>
    return {
      settings := (shared levels "config").map (·.value)
      debug := (shared levels "debug").isSome
      jsonLogs := (shared levels "json-logs").isSome
      command := command }

end Invocation

end TopicWire
