import TopicWire.Command.Decode
import TopicWire.Command.Echo
import TopicWire.Command.Publish
import TopicWire.Command.Settings
import TopicWire.Command.Show
import TopicWire.CommandLine.Help
import TopicWire.Logging

/-!
# The program

What a command line comes to in given surroundings: the text that is written, the errors that are
reported, and how the program exits.
-/

namespace TopicWire

/-- What a program can see of its surroundings. -/
structure Surroundings where
  env : Environment
  files : Files
  network : Network

structure Outcome where
  /-- 0 for success, 1 for a command that failed, 2 for a command line that is not understood, 101 for a
  program that could not go on. -/
  exitCode : Nat
  output : String := ""
  /-- Why a command failed. -/
  error : Option CommandError := none

namespace Invocation

def logSettings (i : Invocation) : LogSettings :=
  let settings := if i.debug then LogSettings.debugging else LogSettings.standard
  if i.jsonLogs then { settings with format := .json } else settings

def node (settings : Settings) (loader : Loader) (env : Environment) (latch : Bool) : Node :=
  let publisher := settings.publisherSettings env
  { Node.new settings.nodeName loader with
    publisherSettings := { publisher with latching := publisher.latching || latch }
    subscriberSettings := settings.subscriberSettings }

def typeOf (loader : Loader) (id : String) : Except CommandError MessageType :=
  match loader.load id {} with
  | .ok type _ => .ok type
  | .error e _ => .error (.schema e)

def output (i : Invocation) (around : Surroundings) : Except CommandError String := do
  let settings ← Settings.find around.env around.files i.settings
  let path := i.settings.getD (Settings.defaultPath around.env)
  let loader : Loader := ⟨around.files, settings.packages around.env⟩
  match i.command with
  | .show typeId => return (← typeOf loader typeId).summary
  | .decode typeId file =>
    let type ← typeOf loader typeId
    match around.files.read file with
    | .error e => throw (.failed e.message)
    | .ok chunk => return s!"{← type.renderChunk chunk}\n"
  | .publish request =>
    let node := node settings loader around.env request.latch
    let _ ← (node.publishAll around.network request request.turns).1
    return ""
  | .echo request =>
    let node := node settings loader around.env false
    return (← (node.echo around.network request .nobody {}).1).output
  | .dumpSettings => return s!"# config.toml ({path})\n{settings.toToml}\n"
  | .settingsPath => return s!"config: {path}\n"

end Invocation

/-- What a command line that is not carried out comes to. -/
def UsageError.outcome (e : UsageError) (env : Environment) : Outcome :=
  match e with
  | .help path =>
    let spec := (Invocation.program.find? path.tail).getD Invocation.program
    { exitCode := 0, output := spec.help path env }
  | .version => { exitCode := 0, output := Invocation.program.version.getD "" ++ "\n" }
  | _ => { exitCode := 2 }

def Surroundings.run (around : Surroundings) (args : List String) : Outcome :=
  match Invocation.parse around.env args with
  | .error e => e.outcome around.env
  | .ok invocation =>
    match invocation.output around with
    | .ok output => { exitCode := 0, output := output }
    | .error e => { exitCode := e.exitCode, error := e.reported? }

end TopicWire
