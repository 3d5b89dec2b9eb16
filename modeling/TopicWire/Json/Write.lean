import TopicWire.Json
import TopicWire.Number.Decimal
import TopicWire.Text.Hex

/-!
# JSON text

A JSON value is written without any blanks, or on several lines with two spaces for each level.
Only quotes, backslashes and control characters are escaped.
-/

namespace TopicWire.Json

def escaped (c : Char) : List Char :=
  match c with
  | '"' => ['\\', '"']
  | '\\' => ['\\', '\\']
  | '\x08' => ['\\', 'b']
  | '\t' => ['\\', 't']
  | '\n' => ['\\', 'n']
  | '\x0c' => ['\\', 'f']
  | '\r' => ['\\', 'r']
  | c =>
    if c.toNat < 0x20 then
      ['\\', 'u', '0', '0', Text.Hex.digit (c.toNat / 16), Text.Hex.digit (c.toNat % 16)]
    else [c]

def quoted (s : String) : String :=
  String.ofList ('"' :: s.toList.flatMap escaped ++ ['"'])

/-- The text of a number; infinities and NaN have none and become `null`. -/
def floatText (bits : UInt64) : String :=
  if Number.Format.double.isFinite bits.toNat then Number.jsonText bits else "null"

/-- What is put around and between the parts of an array or object: blanks at the start of a line
and after a colon. -/
structure Spacing where
  /-- What stands in front of an item or closing bracket at a level. -/
  line : (level : Nat) → String
  colon : String

def Spacing.compact : Spacing :=
  ⟨fun _ => "", ":"⟩

def Spacing.pretty : Spacing :=
  ⟨fun level => "\n" ++ String.ofList (List.replicate (2 * level) ' '), ": "⟩

mutual

/-- The text of a JSON value at a level of nesting. -/
def write (spacing : Spacing) (level : Nat) : Json → String
  | .null => "null"
  | .bool b => if b then "true" else "false"
  | .integer n => toString n
  | .float bits => floatText bits
  | .string s => quoted s
  | .array [] => "[]"
  | .array (item :: items) =>
    "[" ++ spacing.line (level + 1) ++ item.write spacing (level + 1) ++
      writeItems spacing (level + 1) items ++ spacing.line level ++ "]"
  | .object [] => "\x7b\x7d"
  | .object ((key, value) :: members) =>
    "\x7b" ++ spacing.line (level + 1) ++ quoted key ++ spacing.colon ++
      value.write spacing (level + 1) ++ writeMembers spacing (level + 1) members ++
      spacing.line level ++ "\x7d"

def writeItems (spacing : Spacing) (level : Nat) : List Json → String
  | [] => ""
  | item :: items =>
    "," ++ spacing.line level ++ item.write spacing level ++ writeItems spacing level items

def writeMembers (spacing : Spacing) (level : Nat) : List (String × Json) → String
  | [] => ""
  | (key, value) :: members =>
    "," ++ spacing.line level ++ quoted key ++ spacing.colon ++ value.write spacing level ++
      writeMembers spacing level members

end

def compact (j : Json) : String :=
  j.write .compact 0

def pretty (j : Json) : String :=
  j.write .pretty 0

end TopicWire.Json
