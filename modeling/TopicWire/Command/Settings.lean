import TopicWire.Command.Error
import TopicWire.Package
import TopicWire.Toml.Read
import TopicWire.Toml.Write

/-!
# Settings of the program

What a user can lay down in a settings file. Every setting has a default, and keys that name no
setting are passed over. A table of settings can also be written as an array of them in order.
-/

namespace TopicWire

structure PublisherOptions where
  host : Option String := none
  basePort : Nat := 9000
  portSearchLimit : Nat := 1000
  queueCapacity : Nat := 64
  overflow : OverflowPolicy := .dropOldest
  latching : Bool := false
deriving DecidableEq

/-- The settings of subscribers. The times are in seconds. -/
structure SubscriberOptions where
  connectTimeout : Nat := 5
  handshakeTimeout : Nat := 5
deriving DecidableEq

structure Settings where
  nodeName : String := "tcpros_cli"
  packagePath : List String := []
  publisher : PublisherOptions := {}
  subscriber : SubscriberOptions := {}
deriving DecidableEq

namespace Settings

/-! ### Reading -/

/-- A setting: its default if it is not there. -/
def read (value? : Toml → Option α) (default : α) : Option Toml → Option α
  | none => some default
  | some value => value? value

def text? : Toml → Option String
  | .string s => some s
  | _ => none

def natural? (greatest : Nat) : Toml → Option Nat
  | .integer n => if 0 ≤ n ∧ n.toNat ≤ greatest then some n.toNat else none
  | _ => none

def flag? : Toml → Option Bool
  | .boolean b => some b
  | _ => none

def texts? : Toml → Option (List String)
  | .array items => items.mapM text?
  | _ => none

def policyName : OverflowPolicy → String
  | .dropOldest => "drop_oldest"
  | .disconnect => "disconnect"

def ofPolicyName? (name : String) : Option OverflowPolicy :=
  [.dropOldest, .disconnect].find? fun policy => policyName policy == name

/-- An overflow policy: its name, or a table with the name as the only key and nothing under it. -/
def policy? : Toml → Option OverflowPolicy
  | .string name => ofPolicyName? name
  | .table _ [(name, .table _ [])] => ofPolicyName? name
  | .table _ [(name, .array [])] => ofPolicyName? name
  | _ => none

def members? : Toml → Option (String → Nat → Option Toml)
  | .table _ entries => some fun key _ => entries.lookup key
  | .array items => some fun _ place => items[place]?
  | .tables items => some fun _ place => items[place]?
  | _ => none

def publisher? (value : Toml) : Option PublisherOptions := do
  let member ← members? value
  return {
    host := ← read (fun value => (text? value).map some) none (member "host" 0)
    basePort := ← read (natural? 65535) 9000 (member "base_port" 1)
    portSearchLimit := ← read (natural? 65535) 1000 (member "port_search_limit" 2)
    queueCapacity := ← read (natural? 0xFFFFFFFFFFFFFFFF) 64 (member "queue_capacity" 3)
    overflow := ← read policy? .dropOldest (member "overflow" 4)
    latching := ← read flag? false (member "latching" 5) }

def subscriber? (value : Toml) : Option SubscriberOptions := do
  let member ← members? value
  return {
    connectTimeout := ← read (natural? 0xFFFFFFFFFFFFFFFF) 5 (member "connect_timeout_secs" 0)
    handshakeTimeout := ← read (natural? 0xFFFFFFFFFFFFFFFF) 5 (member "handshake_timeout_secs" 1) }

/-- The settings that a text lays down. -/
def parse? (text : String) : Option Settings := do
  let root ← Toml.parse? text
  return {
    nodeName := ← read text? "tcpros_cli" (root.lookup "node_name")
    packagePath := ← read texts? [] (root.lookup "package_path")
    publisher := ← read publisher? {} (root.lookup "publisher")
    subscriber := ← read subscriber? {} (root.lookup "subscriber") }

/-! ### Writing -/

def toToml (s : Settings) : String :=
  let number (n : Nat) : Toml := .integer n
  let host : Toml.Entries := match s.publisher.host with
    | some host => [("host", .string host)]
    | none => []
  Toml.documentText
    [("node_name", .string s.nodeName), ("package_path", .array (s.packagePath.map .string))]
    [("publisher", host ++
      [("base_port", number s.publisher.basePort),
        ("port_search_limit", number s.publisher.portSearchLimit),
        ("queue_capacity", number s.publisher.queueCapacity),
        ("overflow", .string (policyName s.publisher.overflow)),
        ("latching", .boolean s.publisher.latching)]),
      ("subscriber",
        [("connect_timeout_secs", number s.subscriber.connectTimeout),
          ("handshake_timeout_secs", number s.subscriber.handshakeTimeout)])]

/-! ### Files -/

def load (files : Files) (path : String) : Except CommandError Settings :=
  match files.readText path with
  | .error e => .error (.unreadableSettings path e.message)
  | .ok text =>
    match parse? text with
    | some settings => .ok settings
    | none => .error (.malformedSettings path)

/-- Where settings are looked for if no file is named. -/
def defaultPath (env : Environment) : String :=
  let home := (env.lookup "HOME").filter (!·.isEmpty)
  let directory := match (env.lookup "XDG_CONFIG_HOME").filter isAbsolute, home with
    | some directory, _ => directory
    | none, some home => joinPath home ".config"
    | none, none => "."
  joinPath (joinPath directory "tcpros") "config.toml"

/-- The settings in the named file, or in the usual one if there is one. -/
def find (env : Environment) (files : Files) (path : Option String) : Except CommandError Settings :=
  match path with
  | some path => load files path
  | none => if files.has (defaultPath env) then load files (defaultPath env) else .ok {}

/-! ### Use -/

/-- Where packages are found: first under the roots of the settings, then under those of the
environment. -/
def packages (s : Settings) (env : Environment) : PackageIndex :=
  .roots (s.packagePath ++ PackageIndex.environmentRoots env)

def publisherSettings (s : Settings) (env : Environment) : PublisherSettings :=
  ({ host := s.publisher.host.getD (defaultHost env)
     basePort := s.publisher.basePort
     overflow := s.publisher.overflow
     latching := s.publisher.latching : PublisherSettings}.withPortSearchLimit
      s.publisher.portSearchLimit).withQueueCapacity s.publisher.queueCapacity

def subscriberSettings (s : Settings) : SubscriberSettings :=
  { connectTimeout := 1000 * s.subscriber.connectTimeout
    handshakeTimeout := 1000 * s.subscriber.handshakeTimeout }

end Settings

end TopicWire
