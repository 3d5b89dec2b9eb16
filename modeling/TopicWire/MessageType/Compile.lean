import TopicWire.MessageType
import TopicWire.MessageType.Name
import TopicWire.Value.Literal

/-!
# Compiling a schema

`MessageType.ofLines` turns field lines into a message type, asking `lookup` for the message types
that they name. Lines are compiled in order, and for each the type is found first, then the
accessor compared with the earlier ones, then the literal read.
-/

namespace TopicWire

namespace FieldLine

/-- The key of the field in a message: the name itself for a constant, else the name in camel
case. -/
def accessor (line : FieldLine) : String :=
  if line.isConstant then line.name else lowerCamelCase line.name

/-- The element type and arity that the type name means inside a package. -/
def kind? (line : FieldLine) (package : Option String) (lookup : String → Option MessageType) :
    Option (Element × Arity) := do
  let (base, brackets) ← splitBrackets line.typeName
  if base.isEmpty then failure
  let element ← match Primitive.ofName? base with
    | some p => pure (.primitive p)
    | none => (lookup (qualifiedId base package)).map .message
  let arity := match brackets with
    | .none => .one
    | .empty => .many
    | .length n => .exactly n
  return (element, arity)

/-- The value of a literal for a field of this kind. Only a single primitive value has a literal. -/
def constant? (element : Element) (arity : Arity) (literal : String) : Option Value :=
  match element, arity with
  | .primitive p, .one => p.literal? literal
  | _, _ => none

/-- Compiles one line, given the accessors of the lines before it. -/
def compile (line : FieldLine) (id : String) (package : Option String)
    (lookup : String → Option MessageType) (taken : List String) : Except SchemaError Field :=
  match line.kind? package lookup with
  | none => .error (.unknownType line.name line.typeName)
  | some (element, arity) =>
    if taken.contains line.accessor then .error (.duplicateAccessor id line.accessor)
    else match line.literal with
      | none => .ok ⟨line, line.accessor, element, arity, none⟩
      | some literal =>
        match constant? element arity literal with
        | some value => .ok ⟨line, line.accessor, element, arity, some value⟩
        | none => .error (.invalidConstant line.name line.typeName literal)

def compileAll (id : String) (package : Option String) (lookup : String → Option MessageType)
    (taken : List String) : List FieldLine → Except SchemaError (List Field)
  | [] => .ok []
  | line :: lines => do
    let field ← line.compile id package lookup taken
    let rest ← compileAll id package lookup (line.accessor :: taken) lines
    return field :: rest

end FieldLine

namespace MessageType

def ofLines (id : String) (lines : List FieldLine) (digest : String)
    (lookup : String → Option MessageType) : Except SchemaError MessageType := do
  let (package, name) ← splitId id
  let fields ← FieldLine.compileAll id package lookup [] lines
  return ⟨id, package, name, digest, "", fields⟩

def ofText (id text : String) (lookup : String → Option MessageType) :
    Except SchemaError MessageType := do
  let lines ← FieldLine.parse text
  let type ← ofLines id lines (schemaDigest text) lookup
  return { type with definition := text }

/-- The name under which the type's checks are reported. -/
def validatorName (type : MessageType) : String :=
  "validate" ++ upperCamelCase type.name

end MessageType

end TopicWire
