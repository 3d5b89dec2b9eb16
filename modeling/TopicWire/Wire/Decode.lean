import TopicWire.MessageType
import TopicWire.Wire.Cursor

/-!
# Reading messages

The inverse of writing. Constants are filled in from the type. The number of items of an array is
compared with the bytes that remain before any item is read, so a false number costs nothing.
-/

namespace TopicWire

namespace Primitive

def readBool (path : String) : Decoder Value := do
  match ← Decoder.word 1 with
  | 0 => return .bool false
  | 1 => return .bool true
  | n => throw (.invalidBool path (UInt8.ofNat n))

def readString (path : String) : Decoder Value := do
  let length ← Decoder.word 4
  let bytes ← Decoder.take length
  match Bytes.text? bytes with
  | some s => return .string s
  | none => throw (.invalidUtf8 path)

def read (p : Primitive) (path : String) : Decoder Value :=
  match p with
  | .bool => readBool path
  | .int8 => do return .int8 (UInt8.ofNat (← Decoder.word 1)).toInt8
  | .uint8 => do return .uint8 (UInt8.ofNat (← Decoder.word 1))
  | .int16 => do return .int16 (UInt16.ofNat (← Decoder.word 2)).toInt16
  | .uint16 => do return .uint16 (UInt16.ofNat (← Decoder.word 2))
  | .int32 => do return .int32 (UInt32.ofNat (← Decoder.word 4)).toInt32
  | .uint32 => do return .uint32 (UInt32.ofNat (← Decoder.word 4))
  | .int64 => do return .int64 (UInt64.ofNat (← Decoder.word 8)).toInt64
  | .uint64 => do return .uint64 (UInt64.ofNat (← Decoder.word 8))
  | .float32 => do return .float32 (UInt32.ofNat (← Decoder.word 4))
  | .float64 => do return .float64 (UInt64.ofNat (← Decoder.word 8))
  | .string => readString path
  | .time => do
    let secs ← Decoder.word 4
    let nsecs ← Decoder.word 4
    return .time (UInt32.ofNat secs) (UInt32.ofNat nsecs)
  | .duration => do
    let secs ← Decoder.word 4
    let nsecs ← Decoder.word 4
    return .duration (UInt32.ofNat secs).toInt32 (UInt32.ofNat nsecs).toInt32

end Primitive

mutual

def MessageType.minSize : MessageType → Nat
  | ⟨_, _, _, _, _, fields⟩ => Field.minSizes fields

def Field.minSizes : List Field → Nat
  | [] => 0
  | f :: fs => f.minSize + Field.minSizes fs

/-- The least number of bytes of a field: none for a constant, and the count for an array. -/
def Field.minSize : Field → Nat
  | ⟨_, _, element, arity, constant⟩ =>
    if constant.isSome then 0
    else match arity with
      | .one => element.minSize
      | _ => 4

def Element.minSize : Element → Nat
  | .primitive p => p.minSize
  | .message type => type.minSize

end

/-- Reads `count` array items in order, the first of them having the given index. -/
def readItems (read : String → Decoder Value) (path : String) :
    (index count : Nat) → Decoder (List Value)
  | _, 0 => return []
  | index, count + 1 => do
    let first ← read (itemPath path index)
    let rest ← readItems read path (index + 1) count
    return first :: rest

/-- Reads the number of items of an array, each of at least `minSize` bytes. It must be the declared
number if there is one, and the items must fit into the bytes that remain, a byte for each at the
least. -/
def readCount (arity : Arity) (minSize : Nat) (path : String) : Decoder Nat := do
  let count ← Decoder.word 4
  if let some n := arity.length? then
    if count ≠ n then throw (.violation (.arrayLength path n count))
  let remaining ← Decoder.remaining
  if remaining < count * max minSize 1 then throw (.countTooLarge path count remaining)
  return count

mutual

def MessageType.readAt : MessageType → String → Decoder Message
  | ⟨id, _, _, _, _, fields⟩, path => do
    let values ← Field.readAll fields path
    return ⟨id, Keyed.ofList values⟩

/-- Reads fields in schema order, each value under its accessor. -/
def Field.readAll : List Field → String → Decoder (List (String × Value))
  | [], _ => return []
  | f :: fs, path => do
    let first ← f.read (fieldPath path f.accessor)
    let rest ← Field.readAll fs path
    return (f.accessor, first) :: rest

/-- Reads the value of a field; that of a constant is known. -/
def Field.read : Field → String → Decoder Value
  | ⟨_, _, element, arity, constant⟩, path =>
    match constant with
    | some value => return value
    | none =>
      match arity with
      | .one => element.read path
      | arity => do
        let count ← readCount arity element.minSize path
        let items ← readItems element.read path 0 count
        return .array items

def Element.read : Element → String → Decoder Value
  | .primitive p, path => p.read path
  | .message type, path => do
    let m ← type.readAt path
    return .message m

end

def Decoder.expectEnd : Decoder Unit := do
  let left ← Decoder.remaining
  if left ≠ 0 then throw (.trailingBytes left)

namespace MessageType

/-- Reads one message body from a cursor and leaves the cursor behind it. -/
def decodeFrom (type : MessageType) : Decoder Message :=
  type.readAt ""

def decodeBody (type : MessageType) (body : Bytes) : Except WireError Message :=
  Decoder.run (do let m ← type.decodeFrom; Decoder.expectEnd; return m) body

def decode (type : MessageType) (frame : Bytes) : Except WireError Message := do
  let body ← Decoder.run (do
    let declared ← Decoder.word 4
    let actual ← Decoder.remaining
    if declared ≠ actual then throw (.lengthMismatch declared actual)
    Decoder.take declared) frame
  type.decodeBody body

end MessageType

end TopicWire
