import TopicWire.Md5
import TopicWire.Schema.Error
import TopicWire.Text.Blank
import TopicWire.Text.Cut

/-!
# Schema text

A schema has one field per line: a type, a name and, for a constant, an equals sign and a literal.
A number sign starts a comment, except after an equals sign, so that a constant can hold one.
`FieldLine.parse` reads the lines in order and stops at the first that has no field name.
-/

namespace TopicWire

structure FieldLine where
  name : String
  typeName : String
  literal : Option String
  /-- The position among the fields, from 1 on. A text has fewer than 2 ^ 32 fields. -/
  ordinal : Nat
deriving DecidableEq, Repr

namespace FieldLine

def isConstant (line : FieldLine) : Bool :=
  line.literal.isSome

inductive Reading where
  | blank
  | field (typeName name : List Char) (literal : Option (List Char))
  | missingName (content : List Char)
deriving DecidableEq, Repr

/-- Cuts a line at its first number sign, unless an equals sign stands before it. -/
def withoutComment (cs : List Char) : List Char :=
  let front := cs.takeWhile (· != '#')
  if front.contains '=' then cs else front

/-- Divides a trimmed line without comment at its first ASCII blank and first equals sign. -/
def Reading.ofContent (content : List Char) : Reading :=
  if content.isEmpty then .blank
  else match Text.cut Text.isAsciiBlank content with
    | none => .missingName content
    | some (typeName, rest) =>
      let (name, literal) := match Text.cut (· == '=') rest with
        | some (name, literal) => (Text.trim name, some (Text.trim literal))
        | none => (Text.trim rest, none)
      if name.isEmpty then .missingName content else .field typeName name literal

def Reading.ofLine (line : List Char) : Reading :=
  ofContent (Text.trim (withoutComment (Text.trim line)))

/-- Reads lines of which the first has the number `number`, after `count` fields. -/
def readLines : (number count : Nat) → List (List Char) → Except SchemaError (List FieldLine)
  | _, _, [] => .ok []
  | number, count, line :: lines =>
    match Reading.ofLine line with
    | .blank => readLines (number + 1) count lines
    | .missingName content => .error (.missingName number (String.ofList content))
    | .field typeName name literal => do
      let rest ← readLines (number + 1) (count + 1) lines
      return ⟨String.ofList name, String.ofList typeName, literal.map String.ofList, count + 1⟩ ::
        rest

def parse (text : String) : Except SchemaError (List FieldLine) :=
  readLines 1 0 (text.toList.splitOn '\n')

end FieldLine

/-- The digest of a schema text, by which the two sides of a connection compare their types. -/
def schemaDigest (text : String) : String :=
  Md5.hexDigest text

end TopicWire
