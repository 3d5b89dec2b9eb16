import TopicWire.Command.Error
import TopicWire.CommandLine.Invocation
import TopicWire.Json.Message
import TopicWire.Json.Read
import TopicWire.Session.Node

/-!
# Publishing from the command line

One message is published again and again, at a rate, up to a count or until the program is to stop.
The count is compared after each message.
-/

namespace TopicWire

/-- What comes next while a message is published. -/
inductive PublishTurn where
  | tick
  /-- The publisher tells something. -/
  | event
  | stop
deriving DecidableEq, Repr

structure Publishing where
  publisher : Publisher
  message : Message
  count : Option Nat
  published : Nat := 0
  finished : Bool := false
  failure : Option SessionError := none

namespace Publishing

def turn (p : Publishing) (t : PublishTurn) : Publishing :=
  if p.finished then p
  else match t with
    | .stop => { p with finished := true }
    | .event => { p with publisher := p.publisher.step .receive }
    | .tick =>
      match p.publisher.publish p.message with
      | (.error e, publisher) =>
        { p with publisher := publisher, finished := true, failure := some e }
      | (.ok _, publisher) =>
        { p with
          publisher := publisher
          published := p.published + 1
          finished := (p.count.map fun n => decide (n ≤ p.published + 1)).getD false }

def run (p : Publishing) (turns : List PublishTurn) : Publishing :=
  turns.foldl turn p

end Publishing

namespace PublishRequest

/-- The time between two messages in nanoseconds, a half going to the even neighbour. The rate must be a
positive number, and a clock counts fewer than 2 ^ 64 seconds. -/
def period (r : PublishRequest) : Except CommandError Nat :=
  let double := Number.Format.double
  let rate := r.rate.toNat
  if double.isFinite rate && !double.isNegative rate && double.magnitude rate != 0 then
    let seconds := double.quotient (double.ofInt 1) rate
    let second := Nat.pow 2 double.unitExponent
    if double.isFinite seconds && double.units seconds < Nat.pow 2 64 * second then
      .ok (Number.Format.roundDiv (double.units seconds * Nat.pow 10 9) second)
    else .error (.aborted "cannot convert float seconds to Duration: value is either too big or NaN")
  else .error (.argument
    s!"rate must be a positive number of Hz, got {Number.messageText r.rate}")

def turns (r : PublishRequest) : List PublishTurn :=
  List.replicate (max (r.count.getD 1) 1) .tick

end PublishRequest

namespace Node

/-- Advertises the topic of a request and makes its message ready. A message that does not fit the
type ends the publisher again, and so does a period that is none. -/
def beginPublishing (n : Node) (network : Network) (request : PublishRequest) :
    Except CommandError (Nat × Publishing) × Node :=
  match request.period, Json.parse? request.message with
  | .error e, _ => (.error e, n)
  | .ok _, none => (.error .json, n)
  | .ok period, some json =>
    match n.advertise network request.topic request.typeId with
    | (.error e, n) => (.error (.session e), n)
    | (.ok number, n) =>
      match n.publishers[number]? with
      | none => (.error (.session .closed), n)
      | some publisher =>
        match publisher.type.ofJson json with
        | .error e => (.error (.violation e), n.shutdown number)
        | .ok message =>
          if period = 0 then (.error (.aborted "`period` must be non-zero."), n.shutdown number)
          else (.ok (number, { publisher := publisher, message := message, count := request.count }), n)

/-- Shuts the publisher down after its turns, and gives the number of messages published. -/
def endPublishing (n : Node) (number : Nat) (done : Publishing) : Except CommandError Nat × Node :=
  let n := (n.changePublisher number fun _ => done.publisher).shutdown number
  match done.failure with
  | some e => (.error (.session e), n)
  | none => (.ok done.published, n)

def publishAll (n : Node) (network : Network) (request : PublishRequest)
    (turns : List PublishTurn) : Except CommandError Nat × Node :=
  match n.beginPublishing network request with
  | (.error e, n) => (.error e, n)
  | (.ok (number, start), n) => n.endPublishing number (start.run turns)

end Node

end TopicWire
