import TopicWire.Frame
import TopicWire.MessageType.Validate
import TopicWire.Session.Channel
import TopicWire.Session.Port
import TopicWire.Session.Queue

/-!
# Publishers

A publisher listens on a port and keeps a link for every connection that it accepts. A link reads
the subscriber's header, answers with the publisher's own if the digests agree, and from then on
writes the frames of its send queue until either side leaves. A message is encoded once and pushed
to the queues of all registered links.

`Publisher.step` makes one move. Moves of different links, of the listeners, of the callers and of the
other side can come in any order; a move that is not possible changes nothing. What a call does between
two waits is one move. A listener is a task of its own: a shutdown only asks it to stop, and until it has
stopped it may register a connection that it has taken. Time is left out, also that of the pause that a
listener makes when it could not take a connection.
-/

namespace TopicWire

inductive PublisherPhase where
  | unbound
  | searching
  | listening (endpoint : Endpoint)
  | closed
deriving DecidableEq, Repr

inductive PublisherEvent where
  | listening (endpoint : Endpoint)
  /-- A subscriber has been greeted. -/
  | connected (link : Nat) (peer : Endpoint) (callerId : Option String)
  | disconnected (link : Nat) (peer : Endpoint)
  /-- A link failed, no port was found, or a listener could not take a connection. -/
  | failed (peer : Option Endpoint) (cause : SessionError)
deriving DecidableEq

inductive LinkStage where
  | handshake
  /-- The publisher's header is being written; these bytes are left. -/
  | greeting (callerId : Option String) (left : Bytes)
  /-- Frames are sent; these bytes of the current one are left. -/
  | serving (left : Bytes)
  /-- The connection is over, for this reason if it failed. -/
  | ended (cause : Option SessionError)
  /-- It is known whether the link counts as failed. -/
  | judged (cause : Option SessionError)
  /-- The link is no longer registered. -/
  | removed (cause : Option SessionError)
  | shut (cause : Option SessionError)
  /-- The failure, if there was one, has been told. -/
  | reported
  | done
deriving DecidableEq

namespace LinkStage

def isOpen : LinkStage → Bool
  | .handshake => true
  | .greeting .. => true
  | .serving _ => true
  | _ => false

end LinkStage

structure Link where
  id : Nat
  peer : Endpoint
  queue : SendQueue
  /-- Published frames are pushed to the queue. -/
  registered : Bool := true
  stage : LinkStage := .handshake
  inbox : Bytes := []
  inboxEnded : Bool := false
  /-- All bytes written to the subscriber. -/
  sent : Bytes := []
deriving DecidableEq

namespace Link

/-- Reading the header will not have to wait: a whole frame is there, one that is too long has been
announced, or nothing more will come. -/
def headerReady (l : Link) : Bool :=
  l.inboxEnded ||
    (4 ≤ l.inbox.length &&
      (let size := Bytes.ofLittleEndian (l.inbox.take 4)
       Frame.maxSize < size || 4 + size ≤ l.inbox.length))

def header (l : Link) : Except LinkError Header :=
  (Frame.readHeader Frame.maxSize [.bytes l.inbox]).1

end Link

/-- A task that takes connections, one after the other, and registers a link for each. -/
structure Listener where
  id : Nat
  endpoint : Endpoint
  /-- The connection that was taken and is not registered yet. -/
  taken : Option Endpoint := none
  /-- A shutdown has asked the listener to stop. -/
  stopping : Bool := false
deriving DecidableEq

structure Publisher where
  callerId : String
  topic : String
  type : MessageType
  settings : PublisherSettings
  phase : PublisherPhase := .unbound
  /-- How many calls to start are under way. -/
  searches : Nat := 0
  /-- The listeners that have not stopped, the oldest first. -/
  listeners : List Listener := []
  nextListener : Nat := 0
  /-- The listener that a shutdown asks to stop. -/
  keptListener : Option Nat := none
  links : List Link := []
  nextLink : Nat := 0
  /-- The last frame published, if the topic is latching. -/
  latched : Option Bytes := none
  events : Channel PublisherEvent
  hook : Option CloseHook := none
  /-- The hooks that have run, the first one first. -/
  ran : List CloseHook := []

namespace Publisher

def new (callerId topic : String) (type : MessageType) (settings : PublisherSettings) : Publisher :=
  { callerId := callerId, topic := topic, type := type, settings := settings,
    events := .new settings.eventCapacity }

/-- Tells an event, which is lost if there is no room for it. -/
def emit (p : Publisher) (event : PublisherEvent) : Publisher :=
  { p with events := p.events.offer event }

def changeLink (p : Publisher) (id : Nat) (change : Link → Link) : Publisher :=
  { p with links := p.links.map fun l => if l.id = id then change l else l }

def link? (p : Publisher) (id : Nat) : Option Link :=
  p.links.find? (·.id == id)

def changeListener (p : Publisher) (id : Nat) (change : Listener → Listener) : Publisher :=
  { p with listeners := p.listeners.map fun l => if l.id = id then change l else l }

def listener? (p : Publisher) (id : Nat) : Option Listener :=
  p.listeners.find? (·.id == id)

def taken? (p : Publisher) (listener : Nat) : Option Endpoint :=
  (p.listener? listener).bind (·.taken)

/-- A listener that waits for a connection. -/
def free? (p : Publisher) : Option Listener :=
  p.listeners.find? (·.taken.isNone)

/-- The registered links in the order of their registration. -/
def registered (p : Publisher) : List Link :=
  p.links.filter (·.registered)

def endpoint? (p : Publisher) : Option Endpoint :=
  match p.phase with
  | .listening endpoint => some endpoint
  | _ => none

def greeting (p : Publisher) : Header :=
  let header : Header := { callerId := some p.callerId, topic := some p.topic }
  if p.settings.latching then (header.withType p.type).withLatching true
  else header.withType p.type

/-! ### Starting -/

inductive Start where
  | listening (endpoint : Endpoint)
  | closed
  | searching
deriving DecidableEq

/-- Begins to start: unless the publisher listens or is closed, a port is searched. -/
def beginStart (p : Publisher) : Start × Publisher :=
  match p.phase with
  | .listening endpoint => (.listening endpoint, p)
  | .closed => (.closed, p)
  | _ => (.searching, { p with phase := .searching, searches := p.searches + 1 })

/-- Ends a call to start. The listener that is kept is the newest. -/
def finishStart (p : Publisher) (found : Except SessionError Endpoint) : Publisher :=
  if p.searches = 0 then p
  else
    let p := { p with searches := p.searches - 1 }
    match found with
    | .ok endpoint =>
      let listener : Listener := { id := p.nextListener, endpoint := endpoint }
      { p with
        phase := .listening endpoint
        listeners := p.listeners ++ [listener]
        nextListener := p.nextListener + 1
        keptListener := some p.nextListener }.emit (.listening endpoint)
    | .error e => { p with phase := .unbound }.emit (.failed none e)

/-- A port was found, but not its address: the call to start fails and leaves the phase as it is. -/
def abandonStart (p : Publisher) : Publisher :=
  { p with searches := p.searches - 1 }

def start (p : Publisher) (bind : Nat → Binding) : Except SessionError Endpoint × Publisher :=
  match p.beginStart with
  | (.listening endpoint, p) => (.ok endpoint, p)
  | (.closed, p) => (.error .closed, p)
  | (.searching, p) =>
    let found := bindFirstFree bind p.settings.host p.settings.basePort p.settings.portSearchLimit
    (found, p.finishStart found)

/-! ### Calls and connections -/

def take (p : Publisher) (listener : Nat) (peer : Endpoint) : Publisher :=
  p.changeListener listener fun l => { l with taken := l.taken.or (some peer) }

/-- Registers a link for a new connection. The latched frame is the first in its queue. -/
def addLink (p : Publisher) (peer : Endpoint) : Publisher :=
  let queue := SendQueue.new p.settings.queueCapacity p.settings.overflow
  let queue := match p.latched with
    | some frame => (queue.push frame).2
    | none => queue
  { p with
    links := p.links ++ [{ id := p.nextLink, peer := peer, queue := queue }]
    nextLink := p.nextLink + 1 }

/-- A listener registers the connection that it has taken, whatever has become of the publisher. -/
def register (p : Publisher) (listener : Nat) : Publisher :=
  match p.taken? listener with
  | none => p
  | some peer => (p.changeListener listener fun l => { l with taken := none }).addLink peer

/-- A listener that waits takes a connection and registers it. -/
def accept (p : Publisher) (peer : Endpoint) : Publisher :=
  match p.free? with
  | none => p
  | some l => (p.take l.id peer).register l.id

def failToAccept (p : Publisher) (listener : Nat) (cause : String) : Publisher :=
  if (p.listener? listener).isSome then p.emit (.failed none (.unaccepted cause)) else p

/-- A listener that was asked to stop does so, once it has registered what it has taken. -/
def stop (p : Publisher) (listener : Nat) : Publisher :=
  { p with
    listeners := p.listeners.filter fun l => !(l.id == listener && l.stopping && l.taken.isNone) }

def pushTo (frame : Bytes) (l : Link) : Link :=
  if l.registered then { l with queue := (l.queue.push frame).2 } else l

/-- The frame of a message that is valid for the type. -/
def frameOf (p : Publisher) (m : Message) : Except SessionError Bytes :=
  if p.phase = .closed then .error .closed
  else match p.type.validate m true with
    | .error v => .error (.wire (.violation v))
    | .ok () =>
      match p.type.encode m with
      | .error e => .error (.wire e)
      | .ok frame => .ok frame

/-- Sends a message to every registered link and counts those that will send it. -/
def publish (p : Publisher) (m : Message) : Except SessionError Nat × Publisher :=
  match p.frameOf m with
  | .error e => (.error e, p)
  | .ok frame =>
    let reached := p.registered.countP fun l => (l.queue.push frame).1.isQueued
    (.ok reached,
      { p with
        latched := if p.settings.latching then some frame else p.latched
        links := p.links.map (pushTo frame) })

def publishEach (p : Publisher) : List Message → List (Except SessionError Nat) × Publisher
  | [] => ([], p)
  | m :: rest =>
    let (result, p) := p.publish m
    let (results, p) := p.publishEach rest
    (result :: results, p)

def onClose (p : Publisher) (hook : CloseHook) : Publisher :=
  { p with hook := some hook }

def runHook (p : Publisher) : Publisher :=
  { p with hook := none, ran := p.ran ++ p.hook.toList }

def dismiss (l : Link) : Link :=
  if l.registered then { l with registered := false, queue := l.queue.close } else l

def askToStop (kept : Option Nat) (l : Listener) : Listener :=
  if kept = some l.id then { l with stopping := true } else l

/-- Asks the listener that is kept to stop, closes all registered links and runs the hook. -/
def shutdown (p : Publisher) : Publisher :=
  { p with
    listeners := p.listeners.map (askToStop p.keptListener)
    keptListener := none
    links := p.links.map dismiss
    phase := .closed }.runHook

/-! ### Moves -/

inductive LinkMove where
  | readHeader
  /-- The header has not come in time. -/
  | timeout
  /-- The connection takes this many more of the bytes that are left. -/
  | write (count : Nat)
  | next
  | hangUp
  /-- The end of the queue has been announced. -/
  | cutOff
  | readFails (cause : String)
  | writeFails (cause : String)
  /-- One more step after the connection is over. -/
  | leave
deriving DecidableEq

inductive Move where
  | beginStart
  | finishStart (found : Except SessionError Endpoint)
  | abandonStart
  | take (listener : Nat) (peer : Endpoint)
  | register (listener : Nat)
  | failToAccept (listener : Nat) (cause : String)
  /-- A listener stops as it was asked to. -/
  | stop (listener : Nat)
  | arrive (link : Nat) (bytes : Bytes)
  | hangUp (link : Nat)
  | link (id : Nat) (move : LinkMove)
  | publish (m : Message)
  | onClose (hook : CloseHook)
  | shutdown
  | receive

def endLink (p : Publisher) (id : Nat) (cause : Option SessionError) : Publisher :=
  p.changeLink id fun l => { l with stage := .ended cause }

def readHeader (p : Publisher) (l : Link) : Publisher :=
  if l.stage = .handshake ∧ l.headerReady then
    match l.header with
    | .error e => p.endLink l.id (some (.link e))
    | .ok header =>
      if header.agrees p.type.digest then
        p.changeLink l.id fun l =>
          { l with stage := .greeting header.callerId p.greeting.encode, inbox := [] }
      else
        p.endLink l.id (some (.digestMismatch p.type.digest (header.digest.getD "")))
  else p

/-- Writes some of the bytes that are left; with the last byte of the greeting the subscriber counts
as connected. -/
def write (p : Publisher) (l : Link) (count : Nat) : Publisher :=
  match l.stage with
  | .greeting callerId left =>
    let sent := l.sent ++ left.take count
    match left.drop count with
    | [] =>
      (p.changeLink l.id fun l => { l with stage := .serving [], sent := sent }).emit
        (.connected l.id l.peer callerId)
    | rest => p.changeLink l.id fun l => { l with stage := .greeting callerId rest, sent := sent }
  | .serving left =>
    p.changeLink l.id fun l =>
      { l with stage := .serving (left.drop count), sent := l.sent ++ left.take count }
  | _ => p

def nextFrame (p : Publisher) (l : Link) : Publisher :=
  if l.stage = .serving [] then
    match l.queue.pop with
    | (.frame frame, queue) =>
      p.changeLink l.id fun l => { l with stage := .serving frame, queue := queue }
    | (.ended, _) => p.endLink l.id none
    | (.nothing, _) => p
  else p

/-- One step of a link whose connection is over: the overflow of its queue counts as the reason, then
it is taken off the registered links, its queue is closed, and its end is told. -/
def leave (p : Publisher) (l : Link) : Publisher :=
  match l.stage with
  | .ended cause =>
    let cause :=
      if l.queue.overflowed then some (.queueOverflow (max p.settings.queueCapacity 1)) else cause
    p.changeLink l.id fun l => { l with stage := .judged cause }
  | .judged cause => p.changeLink l.id fun l => { l with stage := .removed cause, registered := false }
  | .removed cause =>
    p.changeLink l.id fun l => { l with stage := .shut cause, queue := l.queue.close }
  | .shut (some cause) =>
    (p.changeLink l.id fun l => { l with stage := .reported }).emit (.failed (some l.peer) cause)
  | .shut none => p.changeLink l.id fun l => { l with stage := .reported }
  | .reported =>
    (p.changeLink l.id fun l => { l with stage := .done }).emit (.disconnected l.id l.peer)
  | _ => p

def linkStep (p : Publisher) (l : Link) : LinkMove → Publisher
  | .readHeader => p.readHeader l
  | .timeout =>
    if l.stage = .handshake then p.endLink l.id (some (.timeout "subscriber handshake")) else p
  | .write count => p.write l count
  | .next => p.nextFrame l
  | .hangUp => if l.stage = .serving [] ∧ l.inboxEnded then p.endLink l.id none else p
  | .cutOff => if l.stage.isOpen ∧ l.queue.announced then p.endLink l.id none else p
  | .readFails cause =>
    match l.stage with
    | .handshake => p.endLink l.id (some (.link (.failed cause)))
    | .serving [] => p.endLink l.id (some (.failed cause))
    | _ => p
  | .writeFails cause =>
    match l.stage with
    | .greeting .. => p.endLink l.id (some (.link (.failed cause)))
    | .serving (_ :: _) => p.endLink l.id (some (.link (.failed cause)))
    | _ => p
  | .leave => p.leave l

def step (p : Publisher) : Move → Publisher
  | .beginStart => p.beginStart.2
  | .finishStart found => p.finishStart found
  | .abandonStart => p.abandonStart
  | .take listener peer => p.take listener peer
  | .register listener => p.register listener
  | .failToAccept listener cause => p.failToAccept listener cause
  | .stop listener => p.stop listener
  | .arrive id bytes => p.changeLink id fun l => { l with inbox := l.inbox ++ bytes }
  | .hangUp id => p.changeLink id fun l => { l with inboxEnded := true }
  | .link id move =>
    match p.link? id with
    | some l => p.linkStep l move
    | none => p
  | .publish m => (p.publish m).2
  | .onClose hook => p.onClose hook
  | .shutdown => p.shutdown
  | .receive => { p with events := p.events.receive.2 }

def run (p : Publisher) (moves : List Move) : Publisher :=
  moves.foldl step p

/-! ### Coming to rest -/

/-- The move of a link that is possible now without anything from outside. The end of its queue ends
a link at once, and a frame is written as a whole. -/
def Link.ownMove? (l : Link) : Option LinkMove :=
  if l.stage.isOpen && l.queue.announced then some .cutOff
  else match l.stage with
    | .handshake => if l.headerReady then some .readHeader else none
    | .greeting _ left => some (.write left.length)
    | .serving [] =>
      if !l.queue.frames.isEmpty then some .next
      else if l.inboxEnded then some .hangUp
      else none
    | .serving left => some (.write left.length)
    | .done => none
    | _ => some .leave

def settleLink (id : Nat) : (fuel : Nat) → Publisher → Publisher
  | 0, p => p
  | fuel + 1, p =>
    match (p.link? id).bind Link.ownMove? with
    | some move => settleLink id fuel (p.step (.link id move))
    | none => p

def settleListeners (p : Publisher) : Publisher :=
  p.listeners.foldl (fun p l => p.step (.stop l.id)) p

/-- Lets every listener and then every link make its own moves, in the order of registration, until none
is left. A link writes each frame in two moves and has at most eight other moves. -/
def settle (p : Publisher) : Publisher :=
  let p := p.settleListeners
  p.links.foldl (fun p l => settleLink l.id (2 * l.queue.frames.length + 10) p) p

end Publisher

end TopicWire
