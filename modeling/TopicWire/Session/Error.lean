import TopicWire.Header.Error
import TopicWire.Schema.Error

/-!
# Session errors

Why a publisher or a subscriber cannot do what it was asked to, or why one of its connections ended.
-/

namespace TopicWire

/-- Why a session or one of its connections failed. -/
inductive SessionError where
  | noFreePort (host : String) (base attempts : Nat)
  | failed (cause : String)
  | link (cause : LinkError)
  | wire (cause : WireError)
  | schema (cause : SchemaError)
  | timeout (operation : String)
  /-- The other side uses another version of the message type. -/
  | digestMismatch (expected received : String)
  /-- A subscriber has one connection at a time. -/
  | alreadyConnected (topic : String)
  /-- A subscriber fell behind by as many frames as are kept for it. -/
  | queueOverflow (capacity : Nat)
  | closed
  | unaccepted (cause : String)
deriving DecidableEq

namespace SessionError

def message : SessionError → String
  | .noFreePort host base attempts => s!"no free port on {host} in {base}..{base}+{attempts}"
  | .failed cause => s!"IO error: {cause}"
  | .link cause => s!"Protocol error: {cause.message}"
  | .wire cause => s!"Codec error: {cause.message}"
  | .schema cause => s!"Schema error: {cause.message}"
  | .timeout operation => s!"timeout during {operation}"
  | .digestMismatch expected received =>
    s!"digest mismatch: expected {expected}, peer sent {received}"
  | .alreadyConnected topic => s!"subscriber is already connected to {topic}"
  | .queueOverflow capacity => s!"send queue overflowed after {capacity} frames"
  | .closed => "session closed"
  | .unaccepted cause => cause

end SessionError

end TopicWire
