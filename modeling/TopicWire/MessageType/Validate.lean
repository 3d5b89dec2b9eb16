import TopicWire.MessageType
import TopicWire.Value.Coerce

/-!
# Validation

`MessageType.validate` checks the values of a message against the fields of its type. Values may be
missing; those that are there must have the declared kind, and a constant its own value. A strict
check also refuses keys that the type does not have.
-/

namespace TopicWire

/-- Checks the items of an array in order, the first of them having the given index. -/
def checkItems (check : Value → String → Except Violation Unit) (path : String) :
    (index : Nat) → List Value → Except Violation Unit
  | _, [] => .ok ()
  | index, v :: vs => do
    check v (itemPath path index)
    checkItems check path (index + 1) vs

def checkLength (arity : Arity) (path : String) (found : Nat) : Except Violation Unit :=
  match arity with
  | .exactly n => if found = n then .ok () else .error (.arrayLength path n found)
  | _ => .ok ()

/-- The first key in order that none of the fields has. -/
def unknownKey? (fields : List Field) (m : Message) : Option String :=
  m.keys.find? fun key => !fields.any (·.accessor == key)

mutual

def MessageType.check (strict : Bool) : MessageType → Message → String → Except Violation Unit
  | ⟨id, _, _, _, _, fields⟩, m, path =>
    if !m.typeId.isEmpty && m.typeId != id then .error (.otherType id m.typeId)
    else
      match if strict then unknownKey? fields m else none with
      | some key => .error (.unknownField id (fieldPath path key))
      | none => Field.checkAll strict fields m path

/-- Checks the values of fields in schema order. -/
def Field.checkAll (strict : Bool) : List Field → Message → String → Except Violation Unit
  | [], _, _ => .ok ()
  | f :: fs, m, path => do
    match m.get? f.accessor with
    | none => pure ()
    | some v => f.check strict v (fieldPath path f.accessor)
    Field.checkAll strict fs m path

def Field.check (strict : Bool) : Field → Value → String → Except Violation Unit
  | ⟨_, _, element, arity, constant⟩, v, path =>
    match constant with
    | some constant => if v.same constant then .ok () else .error (.constantModified path)
    | none =>
      match arity with
      | .one => element.check strict v path
      | arity =>
        match v with
        | .array items => do
          checkLength arity path items.length
          checkItems (element.check strict) path 0 items
        | v => .error (.ofKind path (element.text ++ arity.text) v)

def Element.check (strict : Bool) : Element → Value → String → Except Violation Unit
  | .primitive p, v, path =>
    if v.primitive? = some p then .ok () else .error (.ofKind path p.name v)
  | .message type, v, path =>
    match v with
    | .message m => type.check strict m path
    | v => .error (.ofKind path type.id v)

end

namespace MessageType

def validate (type : MessageType) (m : Message) (strict : Bool) : Except Violation Unit :=
  type.check strict m ""

end MessageType

end TopicWire
