import TopicWire.Keyed

/-!
# JSON values

An object keeps its members in key order, one for each key. An integer is kept exactly, any other
number as the bits of an eight-byte floating-point number.
-/

namespace TopicWire

inductive Json where
  | null
  | bool (b : Bool)
  | integer (n : Int)
  | float (bits : UInt64)
  | string (s : String)
  | array (items : List Json)
  | object (members : List (String × Json))

namespace Json

def kindName : Json → String
  | .null => "null"
  | .bool _ => "bool"
  | .integer _ => "number"
  | .float _ => "number"
  | .string _ => "string"
  | .array _ => "array"
  | .object _ => "object"

end Json

end TopicWire
