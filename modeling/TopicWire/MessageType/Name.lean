import TopicWire.Number.Literal
import TopicWire.Primitive
import TopicWire.Schema.FieldLine
import TopicWire.Text.LetterCase

/-!
# Names of types and fields

A message id is a name, or a package and a name with a slash between them. A type name in a schema
is an id or a bare name, with brackets for an array. Field names of several words joined by
underscores become accessors in camel case.
-/

namespace TopicWire

def splitId (id : String) : Except SchemaError (Option String × String) :=
  match Text.cut (· == '/') id.toList with
  | none => if id.isEmpty then .error (.invalidId id) else .ok (none, id)
  | some (package, name) =>
    if package.isEmpty || name.isEmpty || name.contains '/' then .error (.invalidId id)
    else .ok (some (String.ofList package), String.ofList name)

/-- The id meant by a type name inside a package. An id with a slash is complete, the bare name
`Header` has a package of its own, and any other name belongs to the enclosing package. -/
def qualifiedId (name : String) (package : Option String) : String :=
  if name.toList.contains '/' then name
  else if name = "Header" then "std_msgs/Header"
  else match package with
    | some package => s!"{package}/{name}"
    | none => name

inductive Brackets where
  | none
  | empty
  | length (n : Nat)
deriving DecidableEq, Repr

/-- Divides a type name at its first bracket. The length is a natural number below `2 ^ 64`. -/
def splitBrackets (typeName : String) : Option (String × Brackets) :=
  match Text.cut (· == '[') typeName.toList with
  | none => some (typeName, .none)
  | some (base, rest) =>
    match rest.reverse with
    | ']' :: inner =>
      if inner.isEmpty then some (String.ofList base, .empty)
      else match Number.unsigned? inner.reverse with
        | some n => if n < 0x10000000000000000 then some (String.ofList base, .length n) else Option.none
        | none => Option.none
    | _ => Option.none

/-- The ids of the message types that fields refer to, each once and in order of first use. -/
def nestedIds (lines : List FieldLine) (package : Option String) : List String :=
  lines.foldl (fun ids line =>
    match splitBrackets line.typeName with
    | some (base, _) =>
      let id := qualifiedId base package
      if (Primitive.ofName? base).isSome || ids.contains id then ids else ids ++ [id]
    | none => ids) []

def capitalized : List Char → List Char
  | [] => []
  | c :: cs => Text.upper c ++ cs

/-- The words between underscores, each with a capital, in one word. -/
def upperCamelCase (word : String) : String :=
  String.ofList ((word.toList.splitOn '_').flatMap capitalized)

/-- The words between underscores in one word, each but the first with a capital. -/
def lowerCamelCase (word : String) : String :=
  match (upperCamelCase word).toList with
  | [] => ""
  | c :: cs => String.ofList (Text.lower c ++ cs)

end TopicWire
