/-!
# Event channels

Events on their way to whoever listens to a session, first in, first out. A channel holds only so
many: who does not wait for room loses an event that finds none.
-/

namespace TopicWire

/-- Events that were not received yet, the oldest first. -/
structure Channel (α : Type) where
  capacity : Nat
  items : List α := []

namespace Channel

/-- An empty channel with room for at least one event. -/
def new (capacity : Nat) : Channel α :=
  { capacity := max capacity 1 }

def hasRoom (c : Channel α) : Bool :=
  c.items.length < c.capacity

def offer (c : Channel α) (a : α) : Channel α :=
  if c.hasRoom then { c with items := c.items ++ [a] } else c

def receive (c : Channel α) : Option α × Channel α :=
  match c.items with
  | [] => (none, c)
  | a :: rest => (some a, { c with items := rest })

def drain (c : Channel α) : List α × Channel α :=
  (c.items, { c with items := [] })

end Channel

/-- What is to be done once when a session ends. -/
inductive CloseHook where
  | user (n : Nat)
  /-- The session with an id leaves the open sessions of its node. -/
  | endSession (id : Nat)
deriving DecidableEq, Repr

end TopicWire
