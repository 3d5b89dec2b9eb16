import TopicWire.Session.Network
import TopicWire.Session.Subscriber

/-!
# Remote sides

Whom a subscriber dials, and how a connection goes with a publisher that says given bytes.
-/

namespace TopicWire

/-- Whom a subscriber is told to dial. -/
inductive Remote where
  | nobody
  | publisher (number : Nat)
  /-- A publisher that sends these bytes, and then perhaps closes its side. -/
  | script (bytes : Bytes) (hangsUp : Bool)
deriving DecidableEq

namespace Subscriber

/-- A connection has dialled, and these bytes come from the other side. -/
def meet (s : Subscriber) (connection : Nat) (outcome : Dialling) (bytes : Bytes)
    (hangsUp : Bool) : Subscriber :=
  let s := s.step (.connection connection (.dialled outcome))
  let s := s.step (.arrive connection bytes)
  if hangsUp then s.step (.hangUp connection) else s

/-- Comes to rest; a publisher's header that has not come until then is too late. -/
def conclude (s : Subscriber) (connection : Nat) : List SubscriberEvent × Subscriber :=
  let (events, s) := s.settle
  let (later, s) := (s.step (.connection connection .timeout)).settle
  (events ++ later, s)

def result? (s : Subscriber) (connection : Nat) : Option (Except SessionError Header) :=
  (s.connection? connection).bind (·.result)

end Subscriber

end TopicWire
