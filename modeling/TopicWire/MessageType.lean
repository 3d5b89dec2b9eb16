import TopicWire.Schema.FieldLine
import TopicWire.Value

/-!
# Message types

A message type is an ordered list of fields. A field is one value, any number of values or a fixed
number of values of an element type, and an element type is a primitive type or a message type, so
that a message type holds the types of the messages inside its messages.
-/

namespace TopicWire

inductive Arity where
  | one
  | many
  | exactly (n : Nat)
deriving DecidableEq, Repr

mutual

structure MessageType where
  id : String
  package : Option String
  /-- The part of the id after the slash. -/
  name : String
  digest : String
  /-- The schema text, empty if the type was made from fields alone. -/
  definition : String
  fields : List Field

structure Field where
  line : FieldLine
  /-- The key under which messages hold the value. -/
  accessor : String
  element : Element
  arity : Arity
  /-- The value of a constant, which belongs to the type and is not sent. -/
  constant : Option Value

inductive Element where
  | primitive (p : Primitive)
  | message (type : MessageType)

end

namespace Element

/-- The name of an element type in messages to the user. -/
def text : Element → String
  | .primitive p => p.name
  | .message type => type.id

end Element

namespace Arity

/-- What follows the element type in the text of a field's kind. -/
def text : Arity → String
  | .one => ""
  | .many => "[]"
  | .exactly n => s!"[{n}]"

/-- The only length that an array may have. -/
def length? : Arity → Option Nat
  | .exactly n => some n
  | _ => none

end Arity

namespace Field

/-- The kind of a field: its element type and, for an array, the brackets. -/
def kindText (f : Field) : String :=
  f.element.text ++ f.arity.text

/-- Belongs to the type and is not sent. -/
def isConstant (f : Field) : Bool :=
  f.constant.isSome

end Field

namespace MessageType

def field? (type : MessageType) (accessor : String) : Option Field :=
  type.fields.find? (·.accessor == accessor)

def accessors (type : MessageType) : List String :=
  type.fields.map (·.accessor)

/-- Two types are taken to be the same if their ids and their digests are. -/
def same (a b : MessageType) : Bool :=
  a.id == b.id && a.digest == b.digest

end MessageType

mutual

def MessageType.default : MessageType → Message
  | ⟨id, _, _, _, _, fields⟩ => ⟨id, Keyed.ofList (Field.defaults fields)⟩

/-- The defaults of fields, each under its accessor. -/
def Field.defaults : List Field → List (String × Value)
  | [] => []
  | f :: fs => (f.accessor, f.default) :: Field.defaults fs

/-- The literal of a constant; else the zero of the type, or an array of the least length. -/
def Field.default : Field → Value
  | ⟨_, _, element, arity, constant⟩ =>
    match constant with
    | some value => value
    | none =>
      match arity with
      | .one => element.default
      | .many => .array []
      | .exactly n => .array (List.replicate n element.default)

def Element.default : Element → Value
  | .primitive p => p.zero
  | .message type => .message type.default

end

end TopicWire
