import Std.Async.DNS
import Std.Async.Signal
import Std.Async.TCP
import Std.Async.Timer
import Std.Sync.Channel
import TopicWire.Program
import TopicWire.Session.Outgoing

/-!
# Sockets

Publishes and echoes over sockets. Whatever arrives from outside is put into an inbox; the program
takes one arrival after the other, hands it to its publisher or subscriber as a move, and has what
these have sent written.
-/

namespace TopicWire

open Std.Async Std.Net

/-- What arrives from outside. Links and connections have numbers. -/
inductive Arrival where
  | connected (socket : TCP.Socket.Client)
  | refused (cause : String)
  | bytes (number : Nat) (content : ByteArray)
  /-- The other side has closed its side, or it cannot be read from or written to any more. -/
  | ended (number : Nat)
  | written (number : Nat)
  | unanswered
  /-- The time for the handshake is over. -/
  | late (number : Nat)
  | tick
  | stop

abbrev Inbox := Std.CloseableChannel Arrival

/-! ### Failures -/

/-- The number of a failed system call, and what it says. -/
def failureOf : IO.Error → Option (UInt32 × String)
  | .noSuchThing _ code details => some (code, details)
  | .resourceBusy code details => some (code, details)
  | .resourceVanished code details => some (code, details)
  | .unsupportedOperation code details => some (code, details)
  | .timeExpired code details => some (code, details)
  | .permissionDenied _ code details => some (code, details)
  | .otherError code details => some (code, details)
  | _ => none

/-- Failures have small numbers, which may be given as negative ones. -/
def failureNumber (code : UInt32) : Nat :=
  if code.toNat < 0x80000000 then code.toNat else 0x100000000 - code.toNat

/-- What the system calls a failure. -/
def failureNames : List (Nat × String) :=
  [(13, "Permission denied"), (98, "Address already in use"),
   (99, "Cannot assign requested address"), (101, "Network is unreachable"),
   (110, "Connection timed out"), (111, "Connection refused"), (113, "No route to host")]

def failureText (e : IO.Error) : String :=
  match failureOf e with
  | some (code, details) =>
    let number := failureNumber code
    s!"{(failureNames.lookup number).getD details} (os error {number})"
  | none => toString e

/-- Another listener has the port, or it may not be used. -/
def isTaken (e : IO.Error) : Bool :=
  match failureOf e with
  | some (code, _) => [13, 98].contains (failureNumber code)
  | none => false

/-! ### Addresses -/

def addressesOf (host : String) : IO (List IPAddr) := do
  try return (← (DNS.getAddrInfo host "").block).toList
  catch _ => return []

def socketAddress (address : IPAddr) (port : Nat) : SocketAddress :=
  match address with
  | .v4 address => .v4 ⟨address, UInt16.ofNat port⟩
  | .v6 address => .v6 ⟨address, UInt16.ofNat port⟩

def endpointText (address : SocketAddress) : String :=
  match address with
  | .v4 a => s!"{a.addr.toString}:{a.port}"
  | .v6 a => s!"[{a.addr.toString}]:{a.port}"

/-! ### Arrivals -/

def Inbox.put (inbox : Inbox) (arrival : Arrival) : BaseIO Unit := do
  let _ ← inbox.trySend arrival

def Inbox.next (inbox : Inbox) : BaseIO Arrival := do
  return (← IO.wait (← inbox.recv)).getD .stop

/-- Goes on with something while the program does something else. -/
def inBackground (work : Async Unit) : IO Unit := do
  let _ ← work.asTask

def Inbox.putLater (inbox : Inbox) (milliseconds : Nat) (arrival : Arrival) : IO Unit :=
  inBackground do
    sleep (.ofNat milliseconds)
    inbox.put arrival

partial def acceptAll (inbox : Inbox) (server : TCP.Socket.Server) : Async Unit := do
  let socket ← server.accept
  inbox.put (.connected socket)
  acceptAll inbox server

partial def readAll (inbox : Inbox) (number : Nat) (socket : TCP.Socket.Client) : Async Unit := do
  let arrived ← try socket.recv? 65536 catch _ => pure none
  match arrived with
  | some content =>
    inbox.put (.bytes number content)
    readAll inbox number socket
  | none => inbox.put (.ended number)

def writeAll (inbox : Inbox) (number : Nat) (socket : TCP.Socket.Client) (bytes : Bytes)
    (goesOn : Bool) : Async Unit := do
  try
    unless bytes.isEmpty do socket.send (ByteArray.mk bytes.toArray)
    unless goesOn do socket.shutdown
    inbox.put (.written number)
  catch _ =>
    inbox.put (.ended number)
    inbox.put (.written number)

def stopOnSignal (inbox : Inbox) : IO Unit := do
  for signal in [Signal.sigint, .sigterm] do
    let waiter ← Signal.Waiter.mk signal false
    let task ← waiter.wait
    inBackground do
      let _ ← await task
      inbox.put .stop

/-- Ticks once in so many nanoseconds, from a moment on. -/
partial def tickOn (inbox : Inbox) (start period count : Nat) : Async Unit := do
  inbox.put .tick
  let due := start + period * (count + 1) / 1000000
  sleep (.ofNat (due - (← IO.monoMsNow)))
  tickOn inbox start period (count + 1)

/-! ### Publishing -/

/-- Listens on the first free port, and says what of the network this has shown. -/
def claim (settings : PublisherSettings) : IO (Option TCP.Socket.Server × Network) := do
  let base := settings.basePort
  let ports := if base = 0 then [0]
    else (List.range (lastPort base settings.portSearchLimit + 1 - base)).map (base + ·)
  match ← addressesOf settings.host with
  | [] => return (none, {})
  | address :: _ =>
    let names := [(settings.host, address.toString)]
    let mut taken : List Nat := []
    for port in ports do
      try
        let server ← TCP.Socket.Server.mk
        server.bind (socketAddress address port)
        server.listen 1024
        return (some server, { occupied := taken, names := names })
      catch e =>
        unless isTaken e do return (none, { names := names, denial := some (failureText e) })
        taken := taken ++ [port]
    return (none, { occupied := taken, names := names })

structure Switchboard where
  sockets : List (Nat × TCP.Socket.Client) := []
  busy : List Nat := []

/-- Lets the publisher go on, and has what its links have sent written. -/
def Switchboard.advance (board : Switchboard) (inbox : Inbox) (p : Publisher) :
    IO (Switchboard × Publisher) := do
  let p := p.settleIdle board.busy.contains
  let mut board := board
  for o in p.outgoing do
    if let some socket := board.sockets.lookup o.link then
      inBackground (writeAll inbox o.link socket o.bytes o.goesOn)
      board := { board with busy := o.link :: board.busy }
      unless o.goesOn do
        board := { board with sockets := board.sockets.filter (·.1 != o.link) }
  return (board, p.forgetSent)

/-- Publishes in turns as they come. Once all messages are published the links have half a second to
write them. -/
partial def publishLive (inbox : Inbox) (board : Switchboard) (p : Publishing) : IO Publishing := do
  let (board, publisher) ← board.advance inbox p.publisher
  let p := { p with publisher := { publisher with events := publisher.events.drain.2 } }
  let move (m : Publisher.Move) : Publishing := { p with publisher := p.publisher.step m }
  match ← inbox.next with
  | .stop => return p.turn .stop
  | .tick =>
    let q := p.turn .tick
    if q.failure.isSome then return q
    if q.finished && !p.finished then inbox.putLater 500 .stop
    publishLive inbox board q
  | .connected socket =>
    let link := p.publisher.nextLink
    let peer := (← socket.getPeerName)
    inBackground (readAll inbox link socket)
    inbox.putLater p.publisher.settings.handshakeTimeout (.late link)
    publishLive inbox { board with sockets := (link, socket) :: board.sockets }
      { p with publisher := p.publisher.accept ⟨peer.ipAddr.toString, peer.port.toNat⟩ }
  | .bytes link content => publishLive inbox board (move (.arrive link content.toList))
  | .ended link => publishLive inbox board (move (.hangUp link))
  | .late link => publishLive inbox board (move (.link link .timeout))
  | .written link =>
    publishLive inbox { board with busy := board.busy.erase link } p
  | .refused _ => publishLive inbox board p
  | .unanswered => publishLive inbox board p

def Node.publishOverSockets (n : Node) (inbox : Inbox) (request : PublishRequest) :
    IO (Except CommandError Unit) := do
  let (server, network) ← claim n.publisherSettings
  match n.beginPublishing network request with
  | (.error e, _) => return .error e
  | (.ok (number, start), n) =>
    if let some server := server then
      IO.eprintln (s!"publishing {request.typeId} on {start.publisher.topic} at " ++
        endpointText (← server.getSockName))
      inBackground (acceptAll inbox server)
    inBackground (tickOn inbox (← IO.monoMsNow) (request.period.toOption.getD 0) 0)
    let done ← publishLive inbox {} start
    return ((n.endPublishing number done).1).map fun _ => ()

/-! ### Echoing -/

def dial (inbox : Inbox) (host : String) (port : Nat) : IO Unit := do
  match ← addressesOf host with
  | [] => inbox.put (.refused Network.unknownHost)
  | address :: _ =>
    inBackground do
      try
        let socket ← TCP.Socket.Client.mk
        socket.connect (socketAddress address port)
        inbox.put (.connected socket)
      catch e => inbox.put (.refused (failureText e))

partial def echoLive (inbox : Inbox) (s : Subscriber) (e : Echo) :
    IO (Except CommandError Unit) := do
  let out ← IO.getStdout
  let (events, s) := s.settle
  let (e, _) := e.run events
  for line in e.lines do
    out.putStrLn line
    out.flush
  let e := { e with lines := [] }
  match s.result? 0 with
  | some (.error e) => return .error (.session e)
  | some (.ok _) => if e.isDone then return .ok () else listen s e
  | none => listen s e
where
  listen (s : Subscriber) (e : Echo) : IO (Except CommandError Unit) := do
    match ← inbox.next with
    | .connected socket =>
      let (_, s) := (s.step (.connection 0 (.dialled .connected))).settle
      let request := ((s.connection? 0).map (·.sent)).getD []
      inBackground (writeAll inbox 0 socket request true)
      inBackground (readAll inbox 0 socket)
      inbox.putLater s.settings.handshakeTimeout (.late 0)
      echoLive inbox s e
    | .refused cause => echoLive inbox (s.step (.connection 0 (.dialled (.failed cause)))) e
    | .bytes _ content => echoLive inbox (s.step (.arrive 0 content.toList)) e
    | .ended _ => echoLive inbox (s.step (.hangUp 0)) e
    | .unanswered => echoLive inbox (s.step (.connection 0 .dialTimeout)) e
    | .late _ => echoLive inbox (s.step (.connection 0 .timeout)) e
    | .stop => return .ok ()
    | .written _ => echoLive inbox s e
    | .tick => echoLive inbox s e

def Node.echoOverSockets (n : Node) (inbox : Inbox) (request : EchoRequest) :
    IO (Except CommandError Unit) := do
  match n.load request.typeId with
  | (.error e, _) => return .error (.session e)
  | (.ok type, n) =>
    let s := Subscriber.new n.callerId (normalizedName request.topic) type n.subscriberSettings
    dial inbox request.host request.port
    inbox.putLater s.settings.connectTimeout .unanswered
    echoLive inbox (s.step .connect) { count := request.count }

end TopicWire
