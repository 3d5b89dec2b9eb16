/-!
# Open sessions

The sessions of a node in the order in which they were opened. Ids count up and are not used again.
-/

namespace TopicWire

inductive SessionKind where
  | publisher
  | subscriber
deriving DecidableEq, Repr

structure Session where
  id : Nat
  kind : SessionKind
  topic : String
  typeId : String
deriving DecidableEq, Repr

/-- The open sessions and the next id. -/
structure SessionSet where
  sessions : List Session := []
  nextId : Nat := 0
deriving DecidableEq, Repr

namespace SessionSet

def insert (s : SessionSet) (kind : SessionKind) (topic typeId : String) : Nat × SessionSet :=
  (s.nextId, ⟨s.sessions ++ [⟨s.nextId, kind, topic, typeId⟩], s.nextId + 1⟩)

def get? (s : SessionSet) (id : Nat) : Option Session :=
  s.sessions.find? (·.id == id)

def remove (s : SessionSet) (id : Nat) : SessionSet :=
  { s with sessions := s.sessions.filter (·.id != id) }

def contains (s : SessionSet) (id : Nat) : Bool :=
  (s.get? id).isSome

/-- The topics of one side, each at its first session. -/
def topics (s : SessionSet) (kind : SessionKind) : List String :=
  ((s.sessions.filter (·.kind == kind)).map (·.topic)).foldl
    (fun topics topic => if topics.contains topic then topics else topics ++ [topic]) []

end SessionSet

end TopicWire
