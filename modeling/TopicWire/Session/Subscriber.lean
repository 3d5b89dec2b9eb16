import TopicWire.Frame
import TopicWire.Session.Channel
import TopicWire.Session.Port
import TopicWire.Session.Settings

/-!
# Subscribers

A subscriber has one connection at a time. It sends its header, checks the publisher's and then
tells every frame as a message or as the reason why it is none. While there is no room for an event
it does not read on. A connection that has been closed or has ended comes to an end in steps of its
own, between which the subscriber can be connected again.

`Subscriber.step` makes one move. Moves of the callers, of the connections and of the other side can
come in any order; a move that is not possible changes nothing.

Two things are left out. Whoever listens does not go away while the subscriber is there; reading would
stop then. And a call to connect is not cancelled; after that the subscriber would never count as
disconnected again.
-/

namespace TopicWire

inductive SubscriberPhase where
  | disconnected
  | connecting
  | connected
deriving DecidableEq, Repr

inductive SubscriberEvent where
  | connected (header : Header)
  | message (m : Message)
  /-- A frame is no message, or reading failed. -/
  | failed (cause : LinkError)
  | disconnected

inductive ConnectionStage where
  | dialling
  /-- The header is being written; these bytes are left. -/
  | requesting (left : Bytes)
  | handshake
  /-- The publisher's header has been accepted and is to be told. -/
  | accepted (header : Header)
  | reading
  /-- An event is to be told when there is room for it. -/
  | delivering (event : SubscriberEvent)
  | ended
  /-- The subscriber counts as disconnected. -/
  | released
  | unhooked
  | done

structure Connection where
  id : Nat
  stage : ConnectionStage := .dialling
  /-- The connection has been asked to stop. -/
  stopped : Bool := false
  inbox : Bytes := []
  inboxEnded : Bool := false
  sent : Bytes := []
  /-- What the call to connect has come to. -/
  result : Option (Except SessionError Header) := none

namespace Connection

/-- Reading a frame will not have to wait. -/
def frameReady (c : Connection) : Bool :=
  c.inboxEnded ||
    (4 ≤ c.inbox.length &&
      (let size := Bytes.ofLittleEndian (c.inbox.take 4)
       Frame.maxSize < size || 4 + size ≤ c.inbox.length))

/-- What is left in the inbox after a frame was read from it. -/
def leftOver : Stream → Bytes
  | [] => []
  | .bytes bs :: rest => bs ++ leftOver rest
  | .failure _ :: rest => leftOver rest

def frame (c : Connection) : Except LinkError (Option Bytes) × Bytes :=
  let (frame, rest) := Frame.read Frame.maxSize (if c.inbox.isEmpty then [] else [.bytes c.inbox])
  (frame, leftOver rest)

def isOpen (c : Connection) : Bool :=
  match c.stage with
  | .requesting _ => true
  | .handshake => true
  | .accepted _ => true
  | .reading => true
  | .delivering _ => true
  | _ => false

end Connection

structure Subscriber where
  callerId : String
  topic : String
  type : MessageType
  settings : SubscriberSettings
  phase : SubscriberPhase := .disconnected
  connections : List Connection := []
  nextConnection : Nat := 0
  /-- The connection that closing stops. -/
  current : Option Nat := none
  events : Channel SubscriberEvent
  hook : Option CloseHook := none
  /-- The hooks that have run, the first one first. -/
  ran : List CloseHook := []

namespace Subscriber

def new (callerId topic : String) (type : MessageType) (settings : SubscriberSettings) :
    Subscriber :=
  { callerId := callerId, topic := topic, type := type, settings := settings,
    events := .new settings.eventCapacity }

def changeConnection (s : Subscriber) (id : Nat) (change : Connection → Connection) : Subscriber :=
  { s with connections := s.connections.map fun c => if c.id = id then change c else c }

def connection? (s : Subscriber) (id : Nat) : Option Connection :=
  s.connections.find? (·.id == id)

/-- The header that asks a publisher for the topic. The schema text goes along if there is one. -/
def request (s : Subscriber) : Header :=
  let header : Header := { callerId := some s.callerId, topic := some s.topic }
  let header := header.withType s.type
  if s.type.definition.isEmpty then header else { header with definition := some s.type.definition }

/-! ### Calls -/

/-- Begins to connect, if the subscriber is not connected. -/
def beginConnect (s : Subscriber) : Except SessionError Nat × Subscriber :=
  match s.phase with
  | .disconnected =>
    (.ok s.nextConnection,
      { s with
        phase := .connecting
        connections := s.connections ++ [{ id := s.nextConnection }]
        nextConnection := s.nextConnection + 1
        current := some s.nextConnection })
  | _ => (.error (.alreadyConnected s.topic), s)

def close (s : Subscriber) : Subscriber :=
  match s.current with
  | some id => s.changeConnection id fun c => { c with stopped := true }
  | none => s

def onClose (s : Subscriber) (hook : CloseHook) : Subscriber :=
  { s with hook := some hook }

def runHook (s : Subscriber) : Subscriber :=
  { s with hook := none, ran := s.ran ++ s.hook.toList }

def drop (s : Subscriber) : Subscriber :=
  let s := s.close
  match s.phase with
  | .disconnected => s.runHook
  | _ => s

/-! ### Moves -/

inductive ConnectionMove where
  | dialled (outcome : Dialling)
  | dialTimeout
  /-- The connection takes this many more of the bytes that are left. -/
  | write (count : Nat)
  | readHeader
  | timeout
  | tell
  | readFrame
  | stop
  | readFails (cause : String)
  | writeFails (cause : String)
  /-- One more step after the connection is over. -/
  | leave
deriving DecidableEq

inductive Move where
  | connect
  | close
  | onClose (hook : CloseHook)
  | drop
  | arrive (connection : Nat) (bytes : Bytes)
  | hangUp (connection : Nat)
  | connection (id : Nat) (move : ConnectionMove)
  | receive

def enter (s : Subscriber) (id : Nat) (stage : ConnectionStage) : Subscriber :=
  s.changeConnection id fun c => { c with stage := stage }

/-- Ends an attempt to connect: the subscriber can be connected again and keeps its hook. -/
def failConnect (s : Subscriber) (id : Nat) (e : SessionError) : Subscriber :=
  { s.changeConnection id fun c => { c with stage := .done, result := some (.error e) } with
    current := none
    phase := .disconnected }

def readHeader (s : Subscriber) (c : Connection) : Subscriber :=
  let (frame, rest) := c.frame
  match frame >>= Frame.headerOf with
  | .error e => s.failConnect c.id (.link e)
  | .ok header =>
    if header.agrees s.type.digest then
      { s.changeConnection c.id fun c => { c with stage := .accepted header, inbox := rest } with
        phase := .connected }
    else s.failConnect c.id (.digestMismatch s.type.digest (header.digest.getD ""))

/-- Reads the next frame. The end of the stream and a failure end the connection; a failure is told
if there is room. -/
def readFrame (s : Subscriber) (c : Connection) : Subscriber :=
  match c.frame with
  | (.ok (some body), rest) =>
    let event := match s.type.decodeBody body with
      | .ok m => .message m
      | .error e => .failed (.wire e)
    s.changeConnection c.id fun c => { c with stage := .delivering event, inbox := rest }
  | (.ok none, _) => s.enter c.id .ended
  | (.error e, rest) =>
    { s.changeConnection c.id fun c => { c with stage := .ended, inbox := rest } with
      events := s.events.offer (.failed e) }

/-- Tells the event that is due, if there is room. With the first event the call to connect is
done. -/
def tell (s : Subscriber) (c : Connection) : Subscriber :=
  if s.events.hasRoom then
    match c.stage with
    | .accepted header =>
      { s.changeConnection c.id fun c =>
          { c with stage := .reading, result := some (.ok header) } with
        events := s.events.offer (.connected header) }
    | .delivering event =>
      { s.enter c.id .reading with events := s.events.offer event }
    | _ => s
  else s

/-- One step of a connection that is over: the subscriber counts as disconnected, the hook runs, and
the end is told if there is room. -/
def leave (s : Subscriber) (c : Connection) : Subscriber :=
  match c.stage with
  | .ended => { s.enter c.id .released with phase := .disconnected }
  | .released => (s.enter c.id .unhooked).runHook
  | .unhooked => { s.enter c.id .done with events := s.events.offer .disconnected }
  | _ => s

def connectionStep (s : Subscriber) (c : Connection) : ConnectionMove → Subscriber
  | .dialled outcome =>
    match c.stage, outcome with
    | .dialling, .connected => s.enter c.id (.requesting s.request.encode)
    | .dialling, .failed cause => s.failConnect c.id (.failed cause)
    | _, _ => s
  | .dialTimeout =>
    match c.stage with
    | .dialling => s.failConnect c.id (.timeout "connect")
    | _ => s
  | .write count =>
    match c.stage with
    | .requesting left =>
      let stage := match left.drop count with
        | [] => .handshake
        | rest => .requesting rest
      s.changeConnection c.id fun c => { c with stage := stage, sent := c.sent ++ left.take count }
    | _ => s
  | .readHeader =>
    match c.stage with
    | .handshake => if c.frameReady then s.readHeader c else s
    | _ => s
  | .timeout =>
    match c.stage with
    | .handshake => s.failConnect c.id (.timeout "publisher handshake")
    | _ => s
  | .tell => s.tell c
  | .readFrame =>
    match c.stage with
    | .reading => if c.frameReady then s.readFrame c else s
    | _ => s
  | .stop =>
    match c.stage with
    | .reading => if c.stopped then s.enter c.id .ended else s
    | _ => s
  | .readFails cause =>
    match c.stage with
    | .handshake => s.failConnect c.id (.link (.failed cause))
    | .reading =>
      { s.enter c.id .ended with events := s.events.offer (.failed (.failed cause)) }
    | _ => s
  | .writeFails cause =>
    match c.stage with
    | .requesting _ => s.failConnect c.id (.link (.failed cause))
    | _ => s
  | .leave => s.leave c

def step (s : Subscriber) : Move → Subscriber
  | .connect => s.beginConnect.2
  | .close => s.close
  | .onClose hook => s.onClose hook
  | .drop => s.drop
  | .arrive id bytes => s.changeConnection id fun c => { c with inbox := c.inbox ++ bytes }
  | .hangUp id => s.changeConnection id fun c => { c with inboxEnded := true }
  | .connection id move =>
    match s.connection? id with
    | some c => s.connectionStep c move
    | none => s
  | .receive => { s with events := s.events.receive.2 }

def run (s : Subscriber) (moves : List Move) : Subscriber :=
  moves.foldl step s

/-! ### Coming to rest -/

def Connection.ownMove? (c : Connection) : Option ConnectionMove :=
  match c.stage with
  | .dialling => none
  | .requesting left => some (.write left.length)
  | .handshake => if c.frameReady then some .readHeader else none
  | .accepted _ => some .tell
  | .delivering _ => some .tell
  | .reading =>
    if c.frameReady then some .readFrame else if c.stopped then some .stop else none
  | .done => none
  | _ => some .leave

/-- Lets a connection make its own moves, at most as many as the fuel says. What it tells is received,
in order, when it has to wait for room and when it comes to rest. -/
def settleConnection (id : Nat) : (fuel : Nat) → Subscriber → List SubscriberEvent × Subscriber
  | 0, s => ([], s)
  | fuel + 1, s =>
    let (events, channel) := s.events.drain
    match (s.connection? id).bind Connection.ownMove? with
    | some move =>
      if move = .tell ∧ !s.events.hasRoom then
        let (later, s) := settleConnection id fuel { s with events := channel }
        (events ++ later, s)
      else settleConnection id fuel (s.step (.connection id move))
    | none => (events, { s with events := channel })

/-- Lets every connection make its own moves until none is left, and gives all events told. A frame
takes two moves and perhaps a wait, and at least four bytes. -/
def settle (s : Subscriber) : List SubscriberEvent × Subscriber :=
  s.connections.foldl (fun (events, s) c =>
    let (later, s) := settleConnection c.id (2 * c.inbox.length + 20) s
    (events ++ later, s)) ([], s)

end Subscriber

end TopicWire
