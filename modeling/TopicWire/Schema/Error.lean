import TopicWire.Text.Quoted

/-!
# Schema errors

What can be wrong while a message type is located, read, parsed or compiled.
-/

namespace TopicWire

/-- Why a message type is not available. -/
inductive SchemaError where
  | unreadable (path cause : String)
  | missingName (line : Nat) (content : String)
  | invalidConstant (field typeName literal : String)
  /-- A type name is malformed or names no known message type. -/
  | unknownType (field typeName : String)
  /-- A message type contains itself, directly or through its fields. -/
  | recursive (id : String)
  | duplicateAccessor (id accessor : String)
  | invalidId (id : String)
  | packageNotFound (package : String)
deriving DecidableEq, Repr

namespace SchemaError

def message : SchemaError → String
  | .unreadable path cause => s!"failed to read schema {path}: {cause}"
  | .missingName line content => s!"line {line}: missing field name: {Text.quoted content}"
  | .invalidConstant field typeName literal =>
    s!"constant {field} = {Text.quoted literal} is not a valid {typeName}"
  | .unknownType field typeName => s!"field {field} refers to unknown type {typeName}"
  | .recursive id => s!"message type {id} is recursive"
  | .duplicateAccessor id accessor => s!"duplicate field {accessor} in {id}"
  | .invalidId id => s!"invalid message id: {Text.quoted id}"
  | .packageNotFound package => s!"package not found: {package}"

end SchemaError

end TopicWire
