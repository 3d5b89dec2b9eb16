import TopicWire.MessageType

/-!
# Connection headers

The two sides of a connection open it by telling each other who they are, which topic they mean and
which message type they use. They agree on the type if its digests are equal; the digest `*` agrees
with every other.
-/

namespace TopicWire

/-- What one side says when a connection opens. Each part may be left out. -/
structure Header where
  callerId : Option String := none
  topic : Option String := none
  typeId : Option String := none
  digest : Option String := none
  definition : Option String := none
  latching : Option Int64 := none
deriving DecidableEq

namespace Header

/-- The digest that agrees with every other. -/
def wildcard : String := "*"

def withType (h : Header) (type : MessageType) : Header :=
  { h with typeId := some type.id, digest := some type.digest }

def withLatching (h : Header) (latching : Bool) : Header :=
  { h with latching := some (if latching then 1 else 0) }

def isLatching (h : Header) : Bool :=
  match h.latching with
  | some n => n != 0
  | none => false

/-- The header's digest agrees with another one. A header without a digest agrees with none. -/
def agrees (h : Header) (digest : String) : Bool :=
  match h.digest with
  | none => false
  | some own => own == wildcard || digest == wildcard || own == digest

end Header

end TopicWire
