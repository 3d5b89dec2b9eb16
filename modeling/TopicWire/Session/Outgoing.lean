import TopicWire.Session.Publisher

/-!
# Outgoing bytes

A publisher whose links write to sockets that take their time: only the links that are not busy with
writing make their moves, and what they have sent is taken to be written.
-/

namespace TopicWire

structure Outgoing where
  link : Nat
  bytes : Bytes
  /-- The connection goes on after these bytes. -/
  goesOn : Bool
deriving DecidableEq, Repr

namespace Publisher

/-- Lets every link that is not busy make its own moves. -/
def settleIdle (p : Publisher) (busy : Nat → Bool) : Publisher :=
  p.links.foldl (fun p l =>
    if busy l.id then p else settleLink l.id (2 * l.queue.frames.length + 10) p) p

/-- What the links have sent since it was last taken, and what has become of those that are over. -/
def outgoing (p : Publisher) : List Outgoing :=
  (p.links.map fun l => ⟨l.id, l.sent, l.stage.isOpen⟩).filter fun o => !o.bytes.isEmpty || !o.goesOn

def forgetSent (p : Publisher) : Publisher :=
  { p with
    links := (p.links.filter fun l => decide (l.stage ≠ .done)).map fun l => { l with sent := [] } }

end Publisher

end TopicWire
