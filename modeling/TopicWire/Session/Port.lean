import TopicWire.Session.Error

/-!
# Finding a free port

Ports are tried one after the other from a base on, as long as each is taken. `searchPorts` also
gives the ports that were tried, so that one can say that no other port was.
-/

namespace TopicWire

structure Endpoint where
  ip : String
  port : Nat
deriving DecidableEq, Repr

inductive Binding where
  | bound (endpoint : Endpoint)
  /-- Another listener has the port, or it may not be used. -/
  | taken (cause : String)
  | failed (cause : String)
deriving DecidableEq

inductive Dialling where
  | connected
  | failed (cause : String)
deriving DecidableEq

inductive PortSearch where
  | bound (endpoint : Endpoint)
  | exhausted
  | failed (cause : String)
deriving DecidableEq

/-- Tries `count` ports from `port` on, and gives the ports that were tried in order. -/
def searchPorts (bind : Nat → Binding) : (count port : Nat) → PortSearch × List Nat
  | 0, _ => (.exhausted, [])
  | count + 1, port =>
    match bind port with
    | .bound endpoint => (.bound endpoint, [port])
    | .failed cause => (.failed cause, [port])
    | .taken _ =>
      let (found, tried) := searchPorts bind count (port + 1)
      (found, port :: tried)

/-- The last port of a search: at least one is tried, and none beyond the greatest port. -/
def lastPort (base attempts : Nat) : Nat :=
  min (base + (max attempts 1 - 1)) 65535

/-- Binds the first free port of a search. The base 0 stands for a port that the system chooses. -/
def bindFirstFree (bind : Nat → Binding) (host : String) (base attempts : Nat) :
    Except SessionError Endpoint :=
  if base = 0 then
    match bind 0 with
    | .bound endpoint => .ok endpoint
    | .taken cause => .error (.failed cause)
    | .failed cause => .error (.failed cause)
  else
    match (searchPorts bind (lastPort base attempts + 1 - base) base).1 with
    | .bound endpoint => .ok endpoint
    | .failed cause => .error (.failed cause)
    | .exhausted => .error (.noFreePort host base attempts)

end TopicWire
