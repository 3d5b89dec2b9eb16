import TopicWire.Loader

/-!
# Loading at the same time

Several loads that share one catalog. A load that makes a type holds its id until the type is in the
catalog or has failed, and another load that wants the same type waits meanwhile. `Loads.step` lets
one load go on to its next pause, if it can.
-/

namespace TopicWire

structure Making where
  id : String
  text : String
  /-- The types that it names and that are still to be loaded. -/
  todo : List String
  /-- The types that were loaded for it. -/
  nested : List (String × MessageType) := []

inductive LoadState where
  | wants (id : String)
  /-- It holds an id and is going to read the schema. -/
  | reads (id : String)
  | making
  | finished (outcome : Except SchemaError MessageType)

structure LoadTask where
  state : LoadState
  /-- The types that it makes, the innermost one first. -/
  stack : List Making := []

structure Loads where
  loader : Loader
  catalog : Catalog := {}
  tasks : List LoadTask
  held : List String := []

namespace Loads

/-- Nothing has been loaded yet, and each of these types is wanted. -/
def start (loader : Loader) (ids : List String) : Loads :=
  { loader := loader, tasks := ids.map fun id => { state := .wants id } }

def put (l : Loads) (k : Nat) (task : LoadTask) : Loads :=
  { l with tasks := l.tasks.set k task }

/-- A load fails, and gives up what it holds. -/
def fail (l : Loads) (k : Nat) (ids : List String) (e : SchemaError) : Loads :=
  { l.put k { state := .finished (.error e) } with held := l.held.filter (!ids.contains ·) }

def deliver (l : Loads) (k : Nat) (stack : List Making) (id : String) (type : MessageType) :
    Loads :=
  match stack with
  | [] => l.put k { state := .finished (.ok type) }
  | making :: outer =>
    let making := { making with
      todo := making.todo.tail
      nested := making.nested ++ [(id, type)] }
    l.put k { state := .making, stack := making :: outer }

/-- A load looks for a type. It takes hold of the id if there is neither a type nor another load
that holds it. -/
def want (l : Loads) (k : Nat) (stack : List Making) (id : String) : Option Loads :=
  match l.catalog.get? id with
  | some type => some (l.deliver k stack id type)
  | none =>
    if (stack.map (·.id)).contains id then some (l.fail k (stack.map (·.id)) (.recursive id))
    else match l.loader.schemaPath id with
      | .error e => some (l.fail k (stack.map (·.id)) e)
      | .ok _ =>
        if l.held.contains id then none
        else some { l.put k { state := .reads id, stack := stack } with held := id :: l.held }

def readText (l : Loads) (k : Nat) (stack : List Making) (id : String) : Loads :=
  let parsed : Except SchemaError Making := do
    let text ← l.loader.schemaText id
    let lines ← FieldLine.parse text
    let (package, _) ← splitId id
    return { id := id, text := text, todo := nestedIds lines package }
  match parsed with
  | .error e => l.fail k (id :: stack.map (·.id)) e
  | .ok making => l.put k { state := .making, stack := making :: stack }

def make (l : Loads) (k : Nat) (stack : List Making) : Option Loads :=
  match stack with
  | [] => none
  | making :: outer =>
    match making.todo with
    | id :: _ => some (l.put k { state := .wants id, stack := stack })
    | [] =>
      match MessageType.ofText making.id making.text fun id => making.nested.lookup id with
      | .error e => some (l.fail k (stack.map (·.id)) e)
      | .ok type =>
        let l := { l with
          catalog := l.catalog.insert making.id type
          held := l.held.filter (· != making.id) }
        some (l.deliver k outer making.id type)

/-- Lets a load go on to its next pause; `none` if it is over or has to wait. -/
def step (l : Loads) (k : Nat) : Option Loads := do
  let task ← l.tasks[k]?
  match task.state with
  | .wants id => l.want k task.stack id
  | .reads id => some (l.readText k task.stack id)
  | .making => l.make k task.stack
  | .finished _ => none

/-- Lets loads go on in an order. A load that cannot go on is passed over. -/
def run (l : Loads) (order : List Nat) : Loads :=
  order.foldl (fun l k => (l.step k).getD l) l

def finished (l : Loads) : Bool :=
  l.tasks.all fun task => match task.state with
    | .finished _ => true
    | _ => false

end Loads

end TopicWire
