import TopicWire.Number.Decimal
import TopicWire.Value
import TopicWire.Violation

/-!
# Numeric conversion

A numeric value is taken to another numeric type if that type can hold it. Integers become integers
only by their exact value; a floating-point target takes the nearest number.
-/

namespace TopicWire

namespace Violation

def ofKind (field expected : String) (found : Value) : Violation :=
  .wrongType field expected found.kindName

end Violation

def Primitive.ofInteger (p : Primitive) (field : String) (n : Int) : Except Violation Value :=
  match p.ofInteger? n with
  | some v => .ok v
  | none => .error (.outOfRange field (toString n) p.name)

namespace Value

/-- The value in the type `target`. A value that already has the type is left as it is. -/
def coerce (v : Value) (field : String) (target : Primitive) : Except Violation Value :=
  if v.primitive? = some target then .ok v
  else if target.isInteger then
    match v.integer? with
    | some n => target.ofInteger field n
    | none => .error (.ofKind field target.name v)
  else
    match target, v.number? with
    | .float32, some bits =>
      if Number.exceedsSingle bits then
        .error (.outOfRange field (Number.messageText bits) target.name)
      else .ok (.float32 (Number.narrow bits))
    | .float64, some bits => .ok (.float64 bits)
    | _, _ => .error (.ofKind field target.name v)

end Value

end TopicWire
