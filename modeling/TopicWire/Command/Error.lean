import TopicWire.Session.Error

/-!
# Command errors

Why a command of the program fails.
-/

namespace TopicWire

/-- Why a command failed. -/
inductive CommandError where
  | unreadableSettings (path cause : String)
  /-- The settings file is not well-formed, or a setting has a value that it cannot have. -/
  | malformedSettings (path : String)
  | failed (cause : String)
  | json
  | schema (cause : SchemaError)
  | violation (cause : Violation)
  | link (cause : LinkError)
  | session (cause : SessionError)
  /-- A value on the command line is out of range. -/
  | argument (cause : String)
  /-- A part of the program cannot go on, and the program ends at once. -/
  | aborted (cause : String)
deriving DecidableEq

namespace CommandError

def message : CommandError → String
  | .unreadableSettings path cause => s!"configuration error: failed to read {path}: {cause}"
  | .malformedSettings path => s!"configuration error: failed to parse {path}"
  | .failed cause => s!"IO error: {cause}"
  | .json => "invalid JSON"
  | .schema cause => cause.message
  | .violation cause => s!"invalid message: {cause.message}"
  | .link cause => cause.message
  | .session cause => cause.message
  | .argument cause => s!"invalid argument: {cause}"
  | .aborted cause => cause

def exitCode : CommandError → Nat
  | .aborted _ => 101
  | _ => 1

/-- The error, unless the program ends too soon to report it. -/
def reported? : CommandError → Option CommandError
  | .aborted _ => none
  | e => some e

end CommandError

end TopicWire
