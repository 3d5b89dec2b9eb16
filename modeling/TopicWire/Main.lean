import TopicWire.Disk
import TopicWire.Socket

/-!
# The command line

Reads the surroundings, runs the program, writes what it comes to, and exits.
-/

namespace TopicWire

/-- Publishes or echoes over sockets, if that is what the command line asks for. -/
def Surroundings.runLive (around : Surroundings) (args : List String) :
    IO (Option (Except CommandError Unit)) := do
  match Invocation.parse around.env args with
  | .error _ => return none
  | .ok i =>
    match Settings.find around.env around.files i.settings with
    | .error _ => return none
    | .ok settings =>
      let loader : Loader := ⟨around.files, settings.packages around.env⟩
      let inbox ← Std.CloseableChannel.new
      match i.command with
      | .publish request =>
        stopOnSignal inbox
        let node := Invocation.node settings loader around.env request.latch
        return some (← node.publishOverSockets inbox request)
      | .echo request =>
        stopOnSignal inbox
        let node := Invocation.node settings loader around.env false
        return some (← node.echoOverSockets inbox request)
      | _ => return none

/-- What a run comes to for those who started it. -/
def Outcome.report (o : Outcome) : IO UInt32 := do
  (← IO.getStdout).putStr o.output
  if let some e := o.error then IO.eprintln s!"error: {e.message}"
  if o.exitCode = 2 then IO.eprintln "error: the command line is not understood, try --help"
  return UInt32.ofNat o.exitCode

end TopicWire

open TopicWire in
def main (args : List String) : IO UInt32 := do
  let around ← lookAround args
  match ← around.runLive args with
  | some (.ok ()) => return 0
  | some (.error e) => Outcome.report { exitCode := e.exitCode, error := e.reported? }
  | none => (around.run args).report
