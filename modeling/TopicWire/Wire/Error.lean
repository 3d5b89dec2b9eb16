import TopicWire.Violation

/-!
# Wire errors

Why a message cannot be written as bytes or bytes cannot be read as a message.
-/

namespace TopicWire

inductive WireError where
  /-- A read of `needed` bytes at `offset`, where only `remaining` are left. -/
  | truncated (needed remaining offset : Nat)
  /-- A length in front of a frame that is not the number of bytes after it. -/
  | lengthMismatch (declared actual : Nat)
  | trailingBytes (count : Nat)
  | invalidUtf8 (field : String)
  /-- More array items than the remaining bytes can hold. -/
  | countTooLarge (field : String) (count remaining : Nat)
  /-- A boolean byte other than 0 and 1. -/
  | invalidBool (field : String) (byte : UInt8)
  /-- A length that does not fit in four bytes. -/
  | tooLarge (field : String) (length : Nat)
  | missingField (field : String)
  | violation (cause : Violation)
deriving DecidableEq, Repr

namespace WireError

def message : WireError → String
  | .truncated needed remaining offset =>
    s!"truncated frame: needed {needed} bytes at offset {offset}, {remaining} remaining"
  | .lengthMismatch declared actual =>
    s!"length prefix says {declared} bytes, frame holds {actual}"
  | .trailingBytes count => s!"{count} unread bytes after message body"
  | .invalidUtf8 field => s!"field {field} is not valid UTF-8"
  | .countTooLarge field count remaining =>
    s!"field {field} declares {count} elements, only {remaining} bytes remain"
  | .invalidBool field byte => s!"field {field} holds {byte}, not a bool"
  | .tooLarge field length => s!"length {length} of {field} does not fit in 4 bytes"
  | .missingField field => s!"field {field} has no value"
  | .violation cause => cause.message

/-- A value of another kind than `expected`. -/
def wrongType (field expected : String) (foundKind : String) : WireError :=
  .violation (.wrongType field expected foundKind)

end WireError

end TopicWire
