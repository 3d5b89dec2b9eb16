import TopicWire.Keyed
import TopicWire.Number.Binary
import TopicWire.Primitive

/-!
# Values

The values that fields hold, and messages as collections of values under field names. A
floating-point value is its bits. `Value.same` is the equality by which constants are compared: it
takes floating-point numbers by value, so both zeros are equal and a NaN is not.
-/

namespace TopicWire

mutual

inductive Value where
  | bool (v : Bool)
  | int8 (v : Int8)
  | uint8 (v : UInt8)
  | int16 (v : Int16)
  | uint16 (v : UInt16)
  | int32 (v : Int32)
  | uint32 (v : UInt32)
  | int64 (v : Int64)
  | uint64 (v : UInt64)
  | float32 (bits : UInt32)
  | float64 (bits : UInt64)
  | string (v : String)
  | time (secs nsecs : UInt32)
  | duration (secs nsecs : Int32)
  | array (items : List Value)
  | message (m : Message)

/-- Values under the accessors of their fields, in key order. The type id may be left empty. -/
structure Message where
  typeId : String
  fields : List (String × Value)

end

instance : Inhabited Value := ⟨.bool false⟩

instance : Inhabited Message := ⟨⟨"", []⟩⟩

namespace Message

def empty (typeId : String) : Message :=
  ⟨typeId, []⟩

def get? (m : Message) (accessor : String) : Option Value :=
  m.fields.lookup accessor

def set (m : Message) (accessor : String) (value : Value) : Message :=
  { m with fields := Keyed.insert accessor value m.fields }

def remove (m : Message) (accessor : String) : Message :=
  { m with fields := Keyed.erase accessor m.fields }

def contains (m : Message) (accessor : String) : Bool :=
  (m.get? accessor).isSome

def keys (m : Message) : List String :=
  Keyed.keys m.fields

theorem get?_set (m : Message) (accessor other : String) (value : Value) :
    (m.set accessor value).get? other = if other = accessor then some value else m.get? other :=
  Keyed.lookup_insert ..

theorem get?_remove (m : Message) (accessor other : String) :
    (m.remove accessor).get? other = if other = accessor then none else m.get? other :=
  Keyed.lookup_erase ..

end Message

namespace Value

def kindName : Value → String
  | .bool _ => "bool"
  | .int8 _ => "int8"
  | .uint8 _ => "uint8"
  | .int16 _ => "int16"
  | .uint16 _ => "uint16"
  | .int32 _ => "int32"
  | .uint32 _ => "uint32"
  | .int64 _ => "int64"
  | .uint64 _ => "uint64"
  | .float32 _ => "float32"
  | .float64 _ => "float64"
  | .string _ => "string"
  | .time .. => "time"
  | .duration .. => "duration"
  | .array _ => "array"
  | .message _ => "message"

def primitive? : Value → Option Primitive
  | .bool _ => some .bool
  | .int8 _ => some .int8
  | .uint8 _ => some .uint8
  | .int16 _ => some .int16
  | .uint16 _ => some .uint16
  | .int32 _ => some .int32
  | .uint32 _ => some .uint32
  | .int64 _ => some .int64
  | .uint64 _ => some .uint64
  | .float32 _ => some .float32
  | .float64 _ => some .float64
  | .string _ => some .string
  | .time .. => some .time
  | .duration .. => some .duration
  | .array _ => none
  | .message _ => none

theorem kindName_of_primitive? {v : Value} {p : Primitive} (h : v.primitive? = some p) :
    v.kindName = p.name := by
  cases v <;> simp [primitive?] at h <;> subst h <;> rfl

/-- The integer that a value of an integer type holds. -/
def integer? : Value → Option Int
  | .int8 v => some v.toInt
  | .uint8 v => some v.toNat
  | .int16 v => some v.toInt
  | .uint16 v => some v.toNat
  | .int32 v => some v.toInt
  | .uint32 v => some v.toNat
  | .int64 v => some v.toInt
  | .uint64 v => some v.toNat
  | _ => none

/-- A numeric value as an eight-byte floating-point number. -/
def number? : Value → Option UInt64
  | .float32 bits => some (Number.widen bits)
  | .float64 bits => some bits
  | v => v.integer?.map Number.doubleOfInt

end Value

mutual

/-- Equality of values, floating-point numbers being compared by value. -/
def Value.same : Value → Value → Bool
  | .bool a, .bool b => a == b
  | .int8 a, .int8 b => a == b
  | .uint8 a, .uint8 b => a == b
  | .int16 a, .int16 b => a == b
  | .uint16 a, .uint16 b => a == b
  | .int32 a, .int32 b => a == b
  | .uint32 a, .uint32 b => a == b
  | .int64 a, .int64 b => a == b
  | .uint64 a, .uint64 b => a == b
  | .float32 a, .float32 b => Number.Format.single.same a.toNat b.toNat
  | .float64 a, .float64 b => Number.Format.double.same a.toNat b.toNat
  | .string a, .string b => a == b
  | .time a b, .time c d => a == c && b == d
  | .duration a b, .duration c d => a == c && b == d
  | .array xs, .array ys => Value.sameItems xs ys
  | .message x, .message y => x.same y
  | _, _ => false

def Message.same : Message → Message → Bool
  | ⟨id, xs⟩, ⟨otherId, ys⟩ => id == otherId && Value.sameFields xs ys

def Value.sameItems : List Value → List Value → Bool
  | [], [] => true
  | x :: xs, y :: ys => x.same y && Value.sameItems xs ys
  | _, _ => false

def Value.sameFields : List (String × Value) → List (String × Value) → Bool
  | [], [] => true
  | (k, x) :: xs, (l, y) :: ys => k == l && x.same y && Value.sameFields xs ys
  | _, _ => false

end

namespace Primitive

def zero : Primitive → Value
  | .bool => .bool false
  | .int8 => .int8 0
  | .uint8 => .uint8 0
  | .int16 => .int16 0
  | .uint16 => .uint16 0
  | .int32 => .int32 0
  | .uint32 => .uint32 0
  | .int64 => .int64 0
  | .uint64 => .uint64 0
  | .float32 => .float32 0
  | .float64 => .float64 0
  | .string => .string ""
  | .time => .time 0 0
  | .duration => .duration 0 0

theorem primitive?_zero (p : Primitive) : p.zero.primitive? = some p := by
  cases p <;> rfl

/-- An integer if it lies between two bounds. -/
def within (low high : Int) (make : Int → Value) (n : Int) : Option Value :=
  if low ≤ n ∧ n ≤ high then some (make n) else none

/-- The value of an integer type that holds an integer, if the type has one. -/
def ofInteger? (p : Primitive) (n : Int) : Option Value :=
  match p with
  | .int8 => within (-0x80) 0x7F (fun n => .int8 (Int8.ofInt n)) n
  | .uint8 => within 0 0xFF (fun n => .uint8 (UInt8.ofNat n.toNat)) n
  | .int16 => within (-0x8000) 0x7FFF (fun n => .int16 (Int16.ofInt n)) n
  | .uint16 => within 0 0xFFFF (fun n => .uint16 (UInt16.ofNat n.toNat)) n
  | .int32 => within (-0x80000000) 0x7FFFFFFF (fun n => .int32 (Int32.ofInt n)) n
  | .uint32 => within 0 0xFFFFFFFF (fun n => .uint32 (UInt32.ofNat n.toNat)) n
  | .int64 => within (-0x8000000000000000) 0x7FFFFFFFFFFFFFFF (fun n => .int64 (Int64.ofInt n)) n
  | .uint64 => within 0 0xFFFFFFFFFFFFFFFF (fun n => .uint64 (UInt64.ofNat n.toNat)) n
  | _ => none

theorem eq_of_within {low high n : Int} {make : Int → Value} {v : Value}
    (h : within low high make n = some v) : v = make n := by
  unfold within at h
  split at h
  · exact (Option.some.inj h).symm
  · cases h

theorem primitive?_of_ofInteger? {p : Primitive} {n : Int} {v : Value} (h : p.ofInteger? n = some v) :
    v.primitive? = some p := by
  cases p <;> simp only [ofInteger?, reduceCtorEq] at h <;> rw [eq_of_within h] <;> rfl

end Primitive

end TopicWire
