import TopicWire.Command.Error
import TopicWire.CommandLine.Invocation
import TopicWire.Json.Message
import TopicWire.Json.Write
import TopicWire.Session.Node
import TopicWire.Session.Signal

/-!
# Echoing a topic

The messages of a publisher as JSON, one on each line, up to a count or to the end of the
connection. The count is compared before each event.
-/

namespace TopicWire

structure Echo where
  count : Option Nat
  received : Nat := 0
  lines : List String := []
  /-- The publisher has gone away. -/
  ended : Bool := false

namespace Echo

def isDone (e : Echo) : Bool :=
  e.ended || (e.count.map fun n => decide (n ≤ e.received)).getD false

def hear (e : Echo) : SubscriberEvent → Echo
  | .message m => { e with received := e.received + 1, lines := e.lines ++ [m.toJson.compact] }
  | .connected _ => e
  | .failed _ => e
  | .disconnected => { e with ended := true }

/-- Receives one event after the other until it is done, and gives the events that were not
received. -/
def run (e : Echo) : List SubscriberEvent → Echo × List SubscriberEvent
  | [] => (e, [])
  | event :: events => if e.isDone then (e, event :: events) else (e.hear event).run events

def output (e : Echo) : String :=
  String.join (e.lines.map (· ++ "\n"))

end Echo

/-- Subscribes, writes what comes, and leaves. Nothing is written if the program is to stop
already. -/
def Node.echo (n : Node) (network : Network) (request : EchoRequest) (remote : Remote)
    (stop : ShutdownSignal) : Except CommandError Echo × Node :=
  match n.subscribe network request.topic request.typeId remote with
  | (.error e, n) => (.error (.session e), n)
  | (.ok number, n) =>
    let events := (n.told.filter (·.1 == number)).map (·.2)
    let start : Echo := { count := request.count }
    let done := if stop.raised then start else (start.run events).1
    (.ok done, (n.close number).dropSubscriber number)

end TopicWire
