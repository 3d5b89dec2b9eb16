import TopicWire.MessageType
import TopicWire.Value.Coerce

/-!
# Messages from overrides

A message is built from a type's defaults by storing values one after the other. A value for a
primitive field is converted to the declared type, and a constant can only be given its own value.
-/

namespace TopicWire.MessageType

/-- The value to store for a field, converted if the field holds one primitive value. -/
def overrideValue (f : Field) (key : String) (value : Value) : Except Violation Value := do
  let value ← match f.element, f.arity with
    | .primitive p, .one => value.coerce key p
    | _, _ => pure value
  match f.constant with
  | some constant => if constant.same value then return value else throw (.constantModified key)
  | none => return value

/-- Stores one value under a key. A key that the type does not have is kept as it is. -/
def override (type : MessageType) (m : Message) (key : String) (value : Value) :
    Except Violation Message :=
  match type.field? key with
  | none => .ok (m.set key value)
  | some f => (overrideValue f key value).map (m.set key)

def messageWith (type : MessageType) (overrides : List (String × Value)) :
    Except Violation Message :=
  overrides.foldlM (fun m (key, value) => type.override m key value) type.default

end TopicWire.MessageType
