import TopicWire.Text.Blank

/-!
# Session settings

What a publisher and a subscriber can be told: where to listen, how many ports to try, how much to
keep for a slow subscriber, and how long to wait. Times are in milliseconds.
-/

namespace TopicWire

/-- What happens when the queue of a slow subscriber is full. -/
inductive OverflowPolicy where
  | dropOldest
  | disconnect
deriving DecidableEq, Repr

structure PublisherSettings where
  host : String := "127.0.0.1"
  /-- The first port to try; 0 leaves the choice to the system. -/
  basePort : Nat := 9000
  portSearchLimit : Nat := 1000
  queueCapacity : Nat := 64
  overflow : OverflowPolicy := .dropOldest
  handshakeTimeout : Nat := 5000
  latching : Bool := false
  eventCapacity : Nat := 64
deriving DecidableEq

namespace PublisherSettings

/-- Sets how many ports are tried, at least one. -/
def withPortSearchLimit (s : PublisherSettings) (limit : Nat) : PublisherSettings :=
  { s with portSearchLimit := max limit 1 }

/-- Sets how many frames are kept for a subscriber, at least one. -/
def withQueueCapacity (s : PublisherSettings) (capacity : Nat) : PublisherSettings :=
  { s with queueCapacity := max capacity 1 }

end PublisherSettings

structure SubscriberSettings where
  connectTimeout : Nat := 5000
  handshakeTimeout : Nat := 5000
  eventCapacity : Nat := 256
deriving DecidableEq

namespace SubscriberSettings

/-- Sets how many events are kept before reading pauses, at least one. -/
def withEventCapacity (s : SubscriberSettings) (capacity : Nat) : SubscriberSettings :=
  { s with eventCapacity := max capacity 1 }

end SubscriberSettings

abbrev Environment := List (String × String)

/-- The host to listen on: the first of two variables that says anything, else the loopback
address. -/
def defaultHost (env : Environment) : String :=
  let values := ["ROS_HOSTNAME", "ROS_IP"].filterMap fun name => env.lookup name
  match (values.map fun v => Text.trim v.toList).find? (!·.isEmpty) with
  | some host => String.ofList host
  | none => "127.0.0.1"

end TopicWire
