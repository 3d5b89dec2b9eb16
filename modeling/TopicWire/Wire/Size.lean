import TopicWire.Bytes
import TopicWire.MessageType
import TopicWire.Wire.Error

/-!
# Sizes on the wire

`MessageType.size` counts the bytes of a message's body without writing it. It fails on a missing
value and on one of the wrong kind, but takes an array of any length.
-/

namespace TopicWire

namespace Primitive

/-- The number of bytes of a value of the type: a string has its length in front. -/
def size (p : Primitive) (v : Value) (path : String) : Except WireError Nat :=
  if v.primitive? = some p then
    match v, p.fixedSize? with
    | .string s, _ => .ok (4 + s.utf8ByteSize)
    | _, some width => .ok width
    | _, none => .ok 0
  else .error (.wrongType path p.name v.kindName)

end Primitive

/-- The sum of the sizes of array items, the first of them having the given index. -/
def sumItems (size : Value → String → Except WireError Nat) (path : String) :
    (index : Nat) → List Value → Except WireError Nat
  | _, [] => .ok 0
  | index, v :: vs => do
    let first ← size v (itemPath path index)
    let rest ← sumItems size path (index + 1) vs
    return first + rest

mutual

def MessageType.sizeAt : MessageType → Message → String → Except WireError Nat
  | ⟨_, _, _, _, _, fields⟩, m, path => Field.sizeAll fields m path

def Field.sizeAll : List Field → Message → String → Except WireError Nat
  | [], _, _ => .ok 0
  | f :: fs, m, path => do
    let first ← f.sizeIn m path
    let rest ← Field.sizeAll fs m path
    return first + rest

/-- The size of a field's value in the message at `path`; a constant has none. -/
def Field.sizeIn : Field → Message → String → Except WireError Nat
  | ⟨_, accessor, element, arity, constant⟩, m, path =>
    if constant.isSome then .ok 0
    else
      let path := fieldPath path accessor
      match m.get? accessor, arity with
      | none, _ => .error (.missingField path)
      | some v, .one => element.size v path
      | some (.array items), _ => do
        let items ← sumItems element.size path 0 items
        return 4 + items
      | some v, arity => .error (.wrongType path (element.text ++ arity.text) v.kindName)

def Element.size : Element → Value → String → Except WireError Nat
  | .primitive p, v, path => p.size v path
  | .message type, v, path =>
    match v with
    | .message m => type.sizeAt m path
    | v => .error (.wrongType path type.id v.kindName)

end

namespace MessageType

def size (type : MessageType) (m : Message) : Except WireError Nat :=
  type.sizeAt m ""

end MessageType

end TopicWire
