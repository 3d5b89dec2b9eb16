import TopicWire.Wire.Size

/-!
# Writing messages

The body of a message is its fields in schema order, without the constants. Numbers are
little-endian; a string has its length in bytes and an array its number of items in front, in four
bytes; a message inside a message is its body alone. A frame is a body with its length in front.

Writing yields the bytes written up to the end or up to the first fault.
-/

namespace TopicWire

/-- Bytes that were written, and the fault that ended the writing, if one did. -/
structure Written where
  bytes : Bytes
  fault : Option WireError
deriving DecidableEq

namespace Written

def nothing : Written :=
  ⟨[], none⟩

def ofBytes (bytes : Bytes) : Written :=
  ⟨bytes, none⟩

def ofFault (e : WireError) : Written :=
  ⟨[], some e⟩

/-- Writing one part after the other, which is left out after a fault. -/
def andThen (first rest : Written) : Written :=
  match first.fault with
  | some _ => first
  | none => ⟨first.bytes ++ rest.bytes, rest.fault⟩

def result (w : Written) : Except WireError Bytes :=
  match w.fault with
  | some e => .error e
  | none => .ok w.bytes

end Written

/-- A length or count in four bytes. -/
def lengthBytes (length : Nat) (path : String) : Written :=
  if length < 0x100000000 then .ofBytes (Bytes.littleEndian 4 length)
  else .ofFault (.tooLarge path length)

namespace Value

/-- The bytes of a primitive value. Arrays and messages have none of their own. -/
def primitiveBytes (v : Value) (path : String) : Written :=
  match v with
  | .bool v => .ofBytes [if v then 1 else 0]
  | .int8 v => .ofBytes [v.toUInt8]
  | .uint8 v => .ofBytes [v]
  | .int16 v => .ofBytes (Bytes.littleEndian 2 v.toUInt16.toNat)
  | .uint16 v => .ofBytes (Bytes.littleEndian 2 v.toNat)
  | .int32 v => .ofBytes (Bytes.littleEndian 4 v.toUInt32.toNat)
  | .uint32 v => .ofBytes (Bytes.littleEndian 4 v.toNat)
  | .int64 v => .ofBytes (Bytes.littleEndian 8 v.toUInt64.toNat)
  | .uint64 v => .ofBytes (Bytes.littleEndian 8 v.toNat)
  | .float32 bits => .ofBytes (Bytes.littleEndian 4 bits.toNat)
  | .float64 bits => .ofBytes (Bytes.littleEndian 8 bits.toNat)
  | .string s => (lengthBytes s.utf8ByteSize path).andThen (.ofBytes (Bytes.ofText s))
  | .time secs nsecs =>
    .ofBytes (Bytes.littleEndian 4 secs.toNat ++ Bytes.littleEndian 4 nsecs.toNat)
  | .duration secs nsecs =>
    .ofBytes (Bytes.littleEndian 4 secs.toUInt32.toNat ++
      Bytes.littleEndian 4 nsecs.toUInt32.toNat)
  | .array _ => .nothing
  | .message _ => .nothing

end Value

/-- Writes the items of an array in order, the first of them having the given index. -/
def writeItems (write : Value → String → Written) (path : String) :
    (index : Nat) → List Value → Written
  | _, [] => .nothing
  | index, v :: vs => (write v (itemPath path index)).andThen (writeItems write path (index + 1) vs)

/-- The number of items of an array, which must be the declared one if there is one. -/
def writeCount (arity : Arity) (path : String) (count : Nat) : Written :=
  match arity with
  | .exactly n =>
    if count = n then lengthBytes count path
    else .ofFault (.violation (.arrayLength path n count))
  | _ => lengthBytes count path

mutual

def MessageType.writeAt : MessageType → Message → String → Written
  | ⟨_, _, _, _, _, fields⟩, m, path => Field.writeAll fields m path

def Field.writeAll : List Field → Message → String → Written
  | [], _, _ => .nothing
  | f :: fs, m, path => (f.writeIn m path).andThen (Field.writeAll fs m path)

/-- Writes a field's value in the message at `path`; a constant is left out. -/
def Field.writeIn : Field → Message → String → Written
  | ⟨_, accessor, element, arity, constant⟩, m, path =>
    if constant.isSome then .nothing
    else
      let path := fieldPath path accessor
      match m.get? accessor, arity with
      | none, _ => .ofFault (.missingField path)
      | some v, .one => element.write v path
      | some (.array items), arity =>
        (writeCount arity path items.length).andThen (writeItems element.write path 0 items)
      | some v, arity => .ofFault (.wrongType path (element.text ++ arity.text) v.kindName)

def Element.write : Element → Value → String → Written
  | .primitive p, v, path =>
    if v.primitive? = some p then v.primitiveBytes path
    else .ofFault (.wrongType path p.name v.kindName)
  | .message type, v, path =>
    match v with
    | .message m => type.writeAt m path
    | v => .ofFault (.wrongType path type.id v.kindName)

end

namespace MessageType

def encodeBody (type : MessageType) (m : Message) (out : Bytes) : Bytes × Except WireError Unit :=
  let body := type.writeAt m ""
  (out ++ body.bytes, body.result.map fun _ => ())

/-- The frame of a message: the size of its body in four bytes, and the body. -/
def encode (type : MessageType) (m : Message) : Except WireError Bytes := do
  let size ← type.size m
  ((lengthBytes size "message body").andThen (type.writeAt m "")).result

end MessageType

end TopicWire
