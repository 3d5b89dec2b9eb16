import TopicWire.Json
import TopicWire.MessageType
import TopicWire.Number.Decimal
import TopicWire.Value.Coerce

/-!
# Messages as JSON

A message is an object with its accessors as keys. A time or a duration is an object with the keys
`secs` and `nsecs`. `MessageType.ofJson` starts from the defaults of the type and stores what the
object holds, each number being fitted into the declared type; `Message.toJson` gives back all
values of a message.
-/

namespace TopicWire

namespace Violation

def ofJsonKind (field expected : String) (found : Json) : Violation :=
  .wrongType field expected found.kindName

end Violation

/-- A floating-point number in a field whose type holds no such numbers: one with a fraction is out
of range, a whole one has the wrong type. -/
def Primitive.refuseFloat (p : Primitive) (path : String) (bits : UInt64) : Violation :=
  if Number.Format.double.isWhole bits.toNat then .wrongType path p.name "number"
  else .outOfRange path (Number.jsonText bits) p.name

/-- One part of a time or duration, 0 if it is missing. -/
def stampPart (members : List (String × Json)) (path name : String) : Except Violation Int :=
  match members.lookup name with
  | none => .ok 0
  | some (.integer n) => .ok n
  | some (.float bits) =>
    .error (.outOfRange s!"{path}.{name}" (Number.jsonText bits) "int64")
  | some other => .error (.ofJsonKind s!"{path}.{name}" "integer" other)

/-- A part of a time or duration, if it lies between two bounds. -/
def stampWithin (p : Primitive) (low high : Int) (path : String) (n : Int) :
    Except Violation Int :=
  if low ≤ n ∧ n ≤ high then .ok n else .error (.outOfRange path (toString n) p.name)

namespace Primitive

/-- A time from the members of an object. Both parts are read before either is fitted. -/
def timeOfJson (members : List (String × Json)) (path : String) : Except Violation Value := do
  let secs ← stampPart members path "secs"
  let nsecs ← stampPart members path "nsecs"
  let secs ← stampWithin .time 0 0xFFFFFFFF path secs
  let nsecs ← stampWithin .time 0 0xFFFFFFFF path nsecs
  return .time (UInt32.ofNat secs.toNat) (UInt32.ofNat nsecs.toNat)

def durationOfJson (members : List (String × Json)) (path : String) : Except Violation Value := do
  let secs ← stampPart members path "secs"
  let nsecs ← stampPart members path "nsecs"
  let secs ← stampWithin .duration (-0x80000000) 0x7FFFFFFF path secs
  let nsecs ← stampWithin .duration (-0x80000000) 0x7FFFFFFF path nsecs
  return .duration (Int32.ofInt secs) (Int32.ofInt nsecs)

/-- An eight-byte number as a four-byte one, unless it is larger than all of them. -/
def singleOfDouble (bits : UInt64) (path : String) : Except Violation Value :=
  if Number.exceedsSingle bits then
    .error (.outOfRange path (Number.messageText bits) Primitive.float32.name)
  else .ok (.float32 (Number.narrow bits))

def ofJson (p : Primitive) (j : Json) (path : String) : Except Violation Value :=
  match p, j with
  | .bool, .bool b => .ok (.bool b)
  | .string, .string s => .ok (.string s)
  | .time, .object members => timeOfJson members path
  | .duration, .object members => durationOfJson members path
  | .float32, .integer n => singleOfDouble (Number.doubleOfInt n) path
  | .float32, .float bits => singleOfDouble bits path
  | .float64, .integer n => .ok (.float64 (Number.doubleOfInt n))
  | .float64, .float bits => .ok (.float64 bits)
  | p, .integer n =>
    if p.isInteger then p.ofInteger path n else .error (.wrongType path p.name "number")
  | p, .float bits => .error (p.refuseFloat path bits)
  | p, j => .error (.ofJsonKind path p.name j)

end Primitive

/-- Converts the items of an array in order, the first of them having the given index. -/
def itemsOfJson (item : Json → String → Except Violation Value) (path : String) :
    (index : Nat) → List Json → Except Violation (List Value)
  | _, [] => .ok []
  | index, j :: js => do
    let first ← item j (itemPath path index)
    let rest ← itemsOfJson item path (index + 1) js
    return first :: rest

/-- Stores the members of an object in order; `member` gives nothing for an unknown key. -/
def storeMembers (member : String → Json → Option (Except Violation Value)) (typeId path : String) :
    Message → List (String × Json) → Except Violation Message
  | m, [] => .ok m
  | m, (key, j) :: rest =>
    match member key j with
    | none => .error (.unknownField typeId (fieldPath path key))
    | some (.error e) => .error e
    | some (.ok value) => storeMembers member typeId path (m.set key value) rest

mutual

def MessageType.ofJsonAt : MessageType → Json → String → Except Violation Message
  | ⟨id, _, _, _, _, fields⟩, j, path =>
    match j with
    | .object members =>
      storeMembers (Field.ofMember fields path) id path
        ⟨id, Keyed.ofList (Field.defaults fields)⟩ members
    | j => .error (.notObject id j.kindName)

def Field.ofMember : List Field → String → String → Json → Option (Except Violation Value)
  | [], _, _, _ => none
  | f :: fs, path, key, j =>
    if f.accessor == key then some (f.ofJson j (fieldPath path key))
    else Field.ofMember fs path key j

def Field.ofJson : Field → Json → String → Except Violation Value
  | ⟨_, _, element, arity, constant⟩, j, path =>
    match arity with
    | .one => do
      let value ← element.ofJson j path
      match constant with
      | some constant => if value.same constant then return value else throw (.constantModified path)
      | none => return value
    | arity =>
      match j with
      | .array items => do
        match arity.length? with
        | some n => if items.length ≠ n then throw (.arrayLength path n items.length)
        | none => pure ()
        let values ← itemsOfJson element.ofJson path 0 items
        return .array values
      | j => .error (.ofJsonKind path (element.text ++ arity.text) j)

def Element.ofJson : Element → Json → String → Except Violation Value
  | .primitive p, j, path => p.ofJson j path
  | .message type, j, path => (type.ofJsonAt j path).map .message

end

namespace MessageType

/-- The message that a JSON object stands for; missing fields keep their defaults. -/
def ofJson (type : MessageType) (j : Json) : Except Violation Message :=
  type.ofJsonAt j ""

end MessageType

/-- A floating-point number; JSON has no infinities and no NaN. -/
def Json.ofDouble (bits : UInt64) : Json :=
  if Number.Format.double.isFinite bits.toNat then .float bits else .null

mutual

def Value.toJson : Value → Json
  | .bool v => .bool v
  | .int8 v => .integer v.toInt
  | .uint8 v => .integer v.toNat
  | .int16 v => .integer v.toInt
  | .uint16 v => .integer v.toNat
  | .int32 v => .integer v.toInt
  | .uint32 v => .integer v.toNat
  | .int64 v => .integer v.toInt
  | .uint64 v => .integer v.toNat
  | .float32 bits => .ofDouble (Number.widen bits)
  | .float64 bits => .ofDouble bits
  | .string s => .string s
  | .time secs nsecs => .object [("nsecs", .integer nsecs.toNat), ("secs", .integer secs.toNat)]
  | .duration secs nsecs => .object [("nsecs", .integer nsecs.toInt), ("secs", .integer secs.toInt)]
  | .array items => .array (Value.itemsToJson items)
  | .message m => m.toJson

def Message.toJson : Message → Json
  | ⟨_, fields⟩ => .object (Value.fieldsToJson fields)

def Value.itemsToJson : List Value → List Json
  | [] => []
  | v :: vs => v.toJson :: Value.itemsToJson vs

def Value.fieldsToJson : List (String × Value) → List (String × Json)
  | [] => []
  | (key, v) :: rest => (key, v.toJson) :: Value.fieldsToJson rest

end

end TopicWire
