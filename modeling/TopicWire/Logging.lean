/-!
# Log settings

Which events of the program are logged and how a line of the log looks.
-/

namespace TopicWire

inductive LogLevel where
  | error | warn | info | debug | trace
deriving DecidableEq, Repr

namespace LogLevel

def name : LogLevel → String
  | .error => "error"
  | .warn => "warn"
  | .info => "info"
  | .debug => "debug"
  | .trace => "trace"

def ofName? (s : String) : Option LogLevel :=
  [error, warn, info, debug, trace].find? (·.name == s.map Char.toLower)

end LogLevel

inductive LogFormat where
  | pretty | compact | json
deriving DecidableEq, Repr

structure LogSettings where
  level : LogLevel
  format : LogFormat
  location : Bool
  target : Bool
  timestamp : Bool
  spanEvents : Bool
deriving DecidableEq, Repr

namespace LogSettings

/-- Warnings for someone at a terminal. -/
def standard : LogSettings :=
  ⟨.warn, .compact, false, true, true, false⟩

/-- Everything that helps to find a mistake. -/
def debugging : LogSettings :=
  ⟨.debug, .compact, true, true, false, false⟩

/-- A record of a program that is left running. -/
def node : LogSettings :=
  ⟨.info, .json, true, true, true, true⟩

/-- The filter that lets the events of the level through in all parts of the program. -/
def directive (s : LogSettings) : String :=
  ",".intercalate (["tcpros", "tcpros_core", "tcpros_protocol", "tcpros_transport"].map
    fun target => s!"{target}={s.level.name}")

end LogSettings

end TopicWire
