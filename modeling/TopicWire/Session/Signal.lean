/-!
# Shutdown signals

A signal that is raised once and stays raised. Whoever waits for it goes on from then on, also one
who begins to wait later.
-/

namespace TopicWire

/-- A signal and how many wait for it. -/
structure ShutdownSignal where
  raised : Bool := false
  waiting : Nat := 0
deriving DecidableEq, Repr

namespace ShutdownSignal

def raise (s : ShutdownSignal) : ShutdownSignal :=
  { s with raised := true }

def wait (s : ShutdownSignal) : ShutdownSignal :=
  { s with waiting := s.waiting + 1 }

/-- Whether each of those who wait can go on; those who can are no longer waiting. -/
def poll (s : ShutdownSignal) : List Bool × ShutdownSignal :=
  (List.replicate s.waiting s.raised, if s.raised then { s with waiting := 0 } else s)

end ShutdownSignal

end TopicWire
