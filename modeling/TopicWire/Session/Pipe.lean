import TopicWire.Session.Publisher
import TopicWire.Session.Subscriber

/-!
# Pipes

The connection between a link of a publisher and a connection of a subscriber. Bytes written on one
side arrive on the other side in order, any number at a time, and the end of a side arrives after
its last byte.
-/

namespace TopicWire

structure Pipe where
  link : Nat
  connection : Nat
  up : Nat := 0
  /-- How many bytes of the publisher have arrived. -/
  down : Nat := 0
deriving DecidableEq, Repr

/-- A publisher, a subscriber and the pipe between them. -/
structure Joined where
  publisher : Publisher
  subscriber : Subscriber
  pipe : Pipe

namespace Joined

def carryUp (j : Joined) (count : Nat) : Joined :=
  match j.subscriber.connection? j.pipe.connection with
  | none => j
  | some c =>
    let bytes := (c.sent.drop j.pipe.up).take count
    { j with
      publisher := j.publisher.step (.arrive j.pipe.link bytes)
      pipe := { j.pipe with up := j.pipe.up + bytes.length } }

def carryDown (j : Joined) (count : Nat) : Joined :=
  match j.publisher.link? j.pipe.link with
  | none => j
  | some l =>
    let bytes := (l.sent.drop j.pipe.down).take count
    { j with
      subscriber := j.subscriber.step (.arrive j.pipe.connection bytes)
      pipe := { j.pipe with down := j.pipe.down + bytes.length } }

/-- The end of the subscriber's side arrives, if the subscriber has closed it. -/
def endUp (j : Joined) : Joined :=
  match j.subscriber.connection? j.pipe.connection with
  | none => j
  | some c =>
    if !c.isOpen && c.sent.length ≤ j.pipe.up then
      { j with publisher := j.publisher.step (.hangUp j.pipe.link) }
    else j

def endDown (j : Joined) : Joined :=
  match j.publisher.link? j.pipe.link with
  | none => j
  | some l =>
    if !l.stage.isOpen && l.sent.length ≤ j.pipe.down then
      { j with subscriber := j.subscriber.step (.hangUp j.pipe.connection) }
    else j

def carryAll (j : Joined) : Joined :=
  let up := (j.subscriber.connection? j.pipe.connection).elim 0 fun c => c.sent.length
  let down := (j.publisher.link? j.pipe.link).elim 0 fun l => l.sent.length
  (((j.carryUp up).carryDown down).endUp).endDown

end Joined

end TopicWire
