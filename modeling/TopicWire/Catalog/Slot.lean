import TopicWire.Schema.Error
import TopicWire.MessageType

/-!
# Racing for one entry

The place for one message type, which several callers want to fill at the same time. Only one of
them makes the type, and the others wait in line; if it fails, the next in line tries. Whoever gets
the type gets the one that was stored, with one exception: a type that is put in while a caller
makes one is not stored, and its caller gets it back.
-/

namespace TopicWire

/-- What a caller gets. -/
structure SlotAnswer where
  caller : Nat
  outcome : Except SchemaError MessageType

structure Slot where
  stored : Option MessageType := none
  /-- The caller that makes the type. -/
  maker : Option Nat := none
  /-- The callers that wait, the longest waiting first. -/
  line : List Nat := []
  /-- The callers that have begun to make the type, the first one first. -/
  began : List Nat := []
  answers : List SlotAnswer := []

namespace Slot

inductive Move where
  | ask (caller : Nat)
  | finish (outcome : Except SchemaError MessageType)
  | put (caller : Nat) (type : MessageType)
  | look (caller : Nat)

def answer (s : Slot) (caller : Nat) (outcome : Except SchemaError MessageType) : Slot :=
  { s with answers := s.answers ++ [⟨caller, outcome⟩] }

def begin (s : Slot) (caller : Nat) : Slot :=
  { s with maker := some caller, began := s.began ++ [caller] }

def ask (s : Slot) (caller : Nat) : Slot :=
  match s.stored, s.maker with
  | some type, _ => s.answer caller (.ok type)
  | none, some _ => { s with line := s.line ++ [caller] }
  | none, none => s.begin caller

/-- The caller that makes the type is done: the type is for all who wait, a failure for that caller
alone. -/
def finish (s : Slot) (outcome : Except SchemaError MessageType) : Slot :=
  match s.maker with
  | none => s
  | some caller =>
    let free := { s.answer caller outcome with maker := none }
    match outcome, s.line with
    | .ok type, line =>
      line.foldl (fun s caller => s.answer caller (.ok type))
        { free with stored := some type, line := [] }
    | .error _, [] => free
    | .error _, next :: line => { free with line := line }.begin next

def put (s : Slot) (caller : Nat) (type : MessageType) : Slot :=
  match s.stored, s.maker with
  | some old, _ => s.answer caller (.ok old)
  | none, some _ => s.answer caller (.ok type)
  | none, none => { s with stored := some type }.answer caller (.ok type)

def look (s : Slot) (caller : Nat) : Slot :=
  match s.stored with
  | some type => s.answer caller (.ok type)
  | none => s

def step (s : Slot) : Move → Slot
  | .ask caller => s.ask caller
  | .finish outcome => s.finish outcome
  | .put caller type => s.put caller type
  | .look caller => s.look caller

def run (s : Slot) (moves : List Move) : Slot :=
  moves.foldl step s

/-- Lets the callers that make the type finish one after the other, each with its own outcome. -/
def settle (outcomes : List (Except SchemaError MessageType)) : (fuel : Nat) → Slot → Slot
  | 0, s => s
  | fuel + 1, s =>
    match s.maker.bind fun caller => outcomes[caller]? with
    | some outcome => settle outcomes fuel (s.step (.finish outcome))
    | none => s

/-- As many callers as there are outcomes ask one after the other, before any of them has made the
type, and then each that has to make it comes to its outcome. -/
def race (s : Slot) (outcomes : List (Except SchemaError MessageType)) : Slot :=
  let asked := (List.range outcomes.length).foldl (fun s caller => s.step (.ask caller)) s
  asked.settle outcomes outcomes.length

def answer? (s : Slot) (caller : Nat) : Option (Except SchemaError MessageType) :=
  (s.answers.find? (·.caller == caller)).map (·.outcome)

end Slot

end TopicWire
