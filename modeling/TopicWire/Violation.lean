/-!
# Violations

The ways in which a value fails to fit a message type, each with the path of the field at fault.
-/

namespace TopicWire

inductive Violation where
  | unknownField (typeId field : String)
  /-- A value of another kind than the declared one. -/
  | wrongType (field expected found : String)
  | outOfRange (field value typeName : String)
  | arrayLength (field : String) (expected found : Nat)
  /-- A constant with another value than its literal. -/
  | constantModified (field : String)
  /-- A message that says that it is of another type. -/
  | otherType (typeId found : String)
  /-- A JSON text in which a message is not an object. -/
  | notObject (typeId found : String)
deriving DecidableEq, Repr

namespace Violation

def message : Violation → String
  | .unknownField typeId field => s!"field {field} does not exist in message {typeId}"
  | .wrongType field expected found => s!"field {field} expected {expected}, found {found}"
  | .outOfRange field value typeName =>
    s!"field {field} with value {value} is out of range for {typeName}"
  | .arrayLength field expected found =>
    s!"field {field} expects {expected} elements, found {found}"
  | .constantModified field => s!"constant {field} cannot be modified"
  | .otherType typeId found => s!"message {typeId} is invalid: instance is a {found}"
  | .notObject typeId found =>
    s!"message {typeId} is invalid: expected a JSON object, found {found}"

end Violation

/-- The path of a field inside the message at `path`; the outermost message has the empty path. -/
def fieldPath (path name : String) : String :=
  if path.isEmpty then name else s!"{path}.{name}"

def itemPath (path : String) (index : Nat) : String :=
  s!"{path}[{index}]"

end TopicWire
