import TopicWire.Text.Quoted
import TopicWire.Wire.Error

/-!
# Connection errors

What can go wrong with the bytes of a connection: a header that cannot be read, a frame that is cut
off or too large, a message that does not decode, or a failure of the connection itself.
-/

namespace TopicWire

inductive HeaderFault where
  /-- A length or an entry goes on beyond the end. -/
  | cutOff (cause : WireError)
  /-- The length in front is not the number of bytes after it. -/
  | lengthMismatch (declared actual : Nat)
  | notUtf8
  | closed
deriving DecidableEq

namespace HeaderFault

def message : HeaderFault → String
  | .cutOff cause => cause.message
  | .lengthMismatch declared actual =>
    s!"length prefix says {declared} bytes, frame holds {actual}"
  | .notUtf8 => "entry is not valid UTF-8"
  | .closed => "connection closed before header"

end HeaderFault

inductive LinkError where
  | malformedHeader (fault : HeaderFault)
  /-- A known key has a value that it cannot have. -/
  | invalidValue (key value : String)
  | frameTooLarge (size max : Nat)
  /-- The connection ended inside a frame. -/
  | incompleteFrame (expected received : Nat)
  /-- The bytes of a frame are not a message. -/
  | wire (cause : WireError)
  | failed (cause : String)
deriving DecidableEq

namespace LinkError

def message : LinkError → String
  | .malformedHeader fault => s!"malformed connection header: {fault.message}"
  | .invalidValue key value => s!"invalid value for header key {key}: {Text.quoted value}"
  | .frameTooLarge size max => s!"frame too large: {size} bytes (max: {max})"
  | .incompleteFrame expected received =>
    s!"incomplete frame: expected {expected} bytes, got {received}"
  | .wire cause => cause.message
  | .failed cause => s!"IO error: {cause}"

end LinkError

end TopicWire
