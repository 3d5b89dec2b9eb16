import TopicWire.Number.Literal
import TopicWire.Value

/-!
# Constant literals

The text of a constant's value in a schema, read as its declared type.
-/

namespace TopicWire.Primitive

/-- The value that a literal stands for. Times and durations have no literals. -/
def literal? (p : Primitive) (s : String) : Option Value :=
  match p with
  | .bool =>
    if s = "true" ∨ s = "True" ∨ s = "1" then some (.bool true)
    else if s = "false" ∨ s = "False" ∨ s = "0" then some (.bool false)
    else none
  | .int8 | .int16 | .int32 | .int64 => (Number.integer? s.toList).bind p.ofInteger?
  | .uint8 | .uint16 | .uint32 | .uint64 =>
    (Number.unsigned? s.toList).bind fun n => p.ofInteger? n
  | .float32 =>
    (Number.floatBits? Number.Format.single s.toList).map fun bits => .float32 (UInt32.ofNat bits)
  | .float64 =>
    (Number.floatBits? Number.Format.double s.toList).map fun bits => .float64 (UInt64.ofNat bits)
  | .string => some (.string s)
  | .time | .duration => none

theorem primitive?_of_literal? {p : Primitive} {s : String} {v : Value} (h : p.literal? s = some v) :
    v.primitive? = some p := by
  cases p with
  | bool =>
    simp only [literal?] at h
    split at h
    · cases h
      rfl
    · split at h <;> cases h
      rfl
  | int8 | uint8 | int16 | uint16 | int32 | uint32 | int64 | uint64 =>
    obtain ⟨_, _, fits⟩ := Option.bind_eq_some_iff.mp h
    exact primitive?_of_ofInteger? fits
  | float32 | float64 =>
    obtain ⟨_, _, rfl⟩ := Option.map_eq_some_iff.mp h
    rfl
  | string =>
    cases h
    rfl
  | time | duration => cases h

end TopicWire.Primitive
