import TopicWire.Catalog
import TopicWire.MessageType.Compile
import TopicWire.Package

/-!
# Loading message types

The schema of `package/Name` is the file `msg/Name.msg` in the directory of the package. A type is
loaded after the types that it names, and stays in the catalog from then on, also if a type that
names it fails to load. A type that is met again while it is being loaded is recursive.
-/

namespace TopicWire

/-- Loading reads the catalog and adds to it; what was added stays if loading fails. -/
abbrev Loading := EStateM SchemaError Catalog

def Loading.of (result : Except SchemaError α) : Loading α :=
  match result with
  | .ok a => pure a
  | .error e => throw e

structure Loader where
  files : Files
  packages : PackageIndex

namespace Loader

def schemaPath (l : Loader) (id : String) : Except SchemaError String :=
  match splitId id with
  | .error e => .error e
  | .ok (none, _) => .error (.packageNotFound id)
  | .ok (some package, name) =>
    match l.packages.resolve l.files package with
    | .error e => .error e
    | .ok directory => .ok (joinPath (joinPath directory "msg") s!"{name}.msg")

def readSchema (l : Loader) (path : String) : Except SchemaError String :=
  match l.files.readText path with
  | .ok text => .ok text
  | .error e => .error (.unreadable path e.message)

def schemaText (l : Loader) (id : String) : Except SchemaError String :=
  match l.schemaPath id with
  | .error e => .error e
  | .ok path => l.readSchema path

def loadAll (load : String → Loading MessageType) :
    List String → Loading (List (String × MessageType))
  | [] => pure []
  | id :: ids => do
    let type ← load id
    let rest ← loadAll load ids
    return (id, type) :: rest

/-- Compiles a schema text after loading the types that it names, and keeps the type. -/
def compileWith (load : String → Loading MessageType) (id text : String) : Loading MessageType := do
  let lines ← Loading.of (FieldLine.parse text)
  let (package, _) ← Loading.of (splitId id)
  let nested ← loadAll load (nestedIds lines package)
  let type ← Loading.of (MessageType.ofText id text fun id => nested.lookup id)
  modify fun catalog => catalog.insert id type
  return type

/-- Loads a type inside the types that are being loaded already. The fuel bounds how deep types
nest. -/
def loadInside (l : Loader) : (fuel : Nat) → (inside : List String) → String → Loading MessageType
  | 0, _, id => throw (.recursive id)
  | fuel + 1, inside, id => do
    match (← get).get? id with
    | some type => return type
    | none =>
      if inside.contains id then throw (.recursive id)
      else
        let text ← Loading.of (l.schemaText id)
        compileWith (l.loadInside fuel (id :: inside)) id text

/-- More than types can nest. The types being loaded are distinct, and their names and packages are
written in schema files, each in a place of its own. -/
def depth (l : Loader) : Nat :=
  (l.files.size + 3) * (l.files.size + 3)

def load (l : Loader) (id : String) : Loading MessageType :=
  l.loadInside l.depth [] id

/-- Compiles a schema text under an id, unless there is a type under the id already. -/
def loadText (l : Loader) (id text : String) : Loading MessageType := do
  let _ ← Loading.of (splitId id)
  match (← get).get? id with
  | some type => return type
  | none => compileWith (l.loadInside l.depth [id]) id text

/-- Compiles a schema file under an id, unless there is a type under the id already. -/
def loadFile (l : Loader) (id path : String) : Loading MessageType := do
  let _ ← Loading.of (splitId id)
  match (← get).get? id with
  | some type => return type
  | none =>
    let text ← Loading.of (l.readSchema path)
    compileWith (l.loadInside l.depth [id]) id text

end Loader

end TopicWire
