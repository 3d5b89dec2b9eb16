/-!
# Primitive types

The field types that are not messages: their names in a schema and their widths on the wire.
-/

namespace TopicWire

inductive Primitive where
  | bool | int8 | uint8 | int16 | uint16 | int32 | uint32 | int64 | uint64
  | float32 | float64 | string | time | duration
deriving DecidableEq, Repr

namespace Primitive

def name : Primitive → String
  | .bool => "bool"
  | .int8 => "int8"
  | .uint8 => "uint8"
  | .int16 => "int16"
  | .uint16 => "uint16"
  | .int32 => "int32"
  | .uint32 => "uint32"
  | .int64 => "int64"
  | .uint64 => "uint64"
  | .float32 => "float32"
  | .float64 => "float64"
  | .string => "string"
  | .time => "time"
  | .duration => "duration"

def all : List Primitive :=
  [.bool, .int8, .uint8, .int16, .uint16, .int32, .uint32, .int64, .uint64, .float32, .float64,
    .string, .time, .duration]

/-- The primitive type with a name; `byte` and `char` are older names of `int8` and `uint8`. -/
def ofName? (s : String) : Option Primitive :=
  if s = "byte" then some .int8
  else if s = "char" then some .uint8
  else all.find? (·.name == s)

/-- The number of bytes of every value, if it is always the same. -/
def fixedSize? : Primitive → Option Nat
  | .bool | .int8 | .uint8 => some 1
  | .int16 | .uint16 => some 2
  | .int32 | .uint32 | .float32 => some 4
  | .int64 | .uint64 | .float64 | .time | .duration => some 8
  | .string => none

/-- The least number of bytes of a value; an empty string still has its length. -/
def minSize (p : Primitive) : Nat :=
  p.fixedSize?.getD 4

def isInteger : Primitive → Bool
  | .int8 | .uint8 | .int16 | .uint16 | .int32 | .uint32 | .int64 | .uint64 => true
  | _ => false

theorem ofName?_name (p : Primitive) : ofName? p.name = some p := by
  cases p <;> decide

end Primitive

end TopicWire
