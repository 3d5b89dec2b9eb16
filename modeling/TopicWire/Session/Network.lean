import TopicWire.Number.Literal
import TopicWire.Session.Port
import TopicWire.Text.Cut

/-!
# Networks

What comes of binding a port and of dialling a publisher, as far as it does not depend on the
session that does it.
-/

namespace TopicWire

structure Network where
  occupied : List Nat := []
  /-- The addresses of hosts with a name. -/
  names : List (String × String) := [("localhost", "127.0.0.1")]
  /-- Why nothing can be listened on, if so. -/
  denial : Option String := none
  /-- Why nobody can be dialled, if so. -/
  barrier : Option String := none

namespace Network

/-- A port that the system chooses. -/
def chosenPort : Nat := 49152

def isAddress (host : String) : Bool :=
  let parts := (Text.pieces (· == '.') host.toList).map Number.natural?
  parts.length == 4 && parts.all fun n => (n.map fun n => decide (n < 256)).getD false

def address? (n : Network) (host : String) : Option String :=
  if isAddress host || host.toList.contains ':' then some host else n.names.lookup host

def unknownHost : String :=
  "failed to lookup address information: Temporary failure in name resolution"

def bind (n : Network) (host : String) (port : Nat) : Binding :=
  match n.denial, n.address? host with
  | some cause, _ => .failed cause
  | none, none => .failed unknownHost
  | none, some ip =>
    if n.occupied.contains port then .taken "Address already in use (os error 98)"
    else .bound ⟨ip, if port = 0 then chosenPort else port⟩

/-- What comes of dialling a publisher that listens, or a port that nobody listens on. -/
def dial (n : Network) (listening : Bool) : Dialling :=
  match n.barrier with
  | some cause => .failed cause
  | none => if listening then .connected else .failed "Connection refused (os error 111)"

end Network

end TopicWire
