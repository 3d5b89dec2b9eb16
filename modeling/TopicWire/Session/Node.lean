import TopicWire.Loader
import TopicWire.Session.Name
import TopicWire.Session.Pipe
import TopicWire.Session.Remote
import TopicWire.Session.SessionSet

/-!
# Nodes

A participant under a name, with the publishers and subscribers that it has created. A session is
open from the creation of its publisher or subscriber until that has run its hook. After each
operation the node comes to rest: everything that is on its way arrives.
-/

namespace TopicWire

structure NodePipe where
  publisher : Nat
  subscriber : Nat
  pipe : Pipe
deriving DecidableEq

structure Node where
  callerId : String
  loader : Loader
  catalog : Catalog := {}
  publisherSettings : PublisherSettings := {}
  subscriberSettings : SubscriberSettings := {}
  sessions : SessionSet := {}
  publishers : List Publisher := []
  subscribers : List Subscriber := []
  pipes : List NodePipe := []
  /-- What subscribers have told, each event with the number of its subscriber. -/
  told : List (Nat × SubscriberEvent) := []

namespace Node

def new (name : String) (loader : Loader) : Node :=
  { callerId := normalizedName name, loader := loader }

def load (n : Node) (typeId : String) : Except SessionError MessageType × Node :=
  match n.loader.load typeId n.catalog with
  | .ok type catalog => (.ok type, { n with catalog := catalog })
  | .error e catalog => (.error (.schema e), { n with catalog := catalog })

def endSessions (n : Node) (hooks : List CloseHook) : Node :=
  let sessions := hooks.foldl (fun (sessions : SessionSet) hook => match hook with
    | .endSession id => sessions.remove id
    | .user _ => sessions) n.sessions
  { n with sessions := sessions }

def changePublisher (n : Node) (number : Nat) (change : Publisher → Publisher) : Node :=
  match n.publishers[number]? with
  | none => n
  | some p =>
    let p := change p
    { n with publishers := n.publishers.set number p }.endSessions p.ran

def changeSubscriber (n : Node) (number : Nat) (change : Subscriber → Subscriber) : Node :=
  match n.subscribers[number]? with
  | none => n
  | some s =>
    let s := change s
    { n with subscribers := n.subscribers.set number s }.endSessions s.ran

/-! ### Coming to rest -/

def settleSubscriber (n : Node) (number : Nat) : Node :=
  match n.subscribers[number]? with
  | none => n
  | some s =>
    let (events, s) := s.settle
    { n with
      subscribers := n.subscribers.set number s
      told := n.told ++ events.map fun event => (number, event) }.endSessions s.ran

def carry (n : Node) (place : Nat) : Node :=
  match n.pipes[place]? with
  | none => n
  | some np =>
    match n.publishers[np.publisher]?, n.subscribers[np.subscriber]? with
    | some p, some s =>
      let joined := Joined.carryAll ⟨p, s, np.pipe⟩
      { n with
        publishers := n.publishers.set np.publisher joined.publisher
        subscribers := n.subscribers.set np.subscriber joined.subscriber
        pipes := n.pipes.set place { np with pipe := joined.pipe } }
    | _, _ => n

/-- Everyone makes its own moves, and then everything in the pipes arrives. -/
def round (n : Node) : Node :=
  let n := (List.range n.publishers.length).foldl
    (fun n number => n.changePublisher number Publisher.settle) n
  let n := (List.range n.subscribers.length).foldl settleSubscriber n
  (List.range n.pipes.length).foldl carry n

/-- Rounds until nothing moves. A request, its answer with what follows it, and the end of both
sides take fewer rounds than this. -/
def settle (n : Node) : Node :=
  (List.range 8).foldl (fun n _ => n.round) n

/-! ### Operations -/

def advertise (n : Node) (network : Network) (topic typeId : String) :
    Except SessionError Nat × Node :=
  match n.load typeId with
  | (.error e, n) => (.error e, n)
  | (.ok type, n) =>
    let p := Publisher.new n.callerId (normalizedName topic) type n.publisherSettings
    match p.start (network.bind p.settings.host) with
    | (.error e, _) => (.error e, n)
    | (.ok _, p) =>
      let (id, sessions) := n.sessions.insert .publisher p.topic typeId
      (.ok n.publishers.length,
        { n with
          sessions := sessions
          publishers := n.publishers ++ [p.onClose (.endSession id)] }.settle)

/-- A subscriber that has begun to connect reaches the other side, or does not. -/
def reach (n : Node) (network : Network) (number : Nat) (remote : Remote) : Node :=
  let meet (outcome : Dialling) (bytes : Bytes) (hangsUp : Bool) : Node :=
    n.changeSubscriber number fun s => s.meet 0 outcome bytes hangsUp
  match remote with
  | .nobody => meet (network.dial false) [] false
  | .script bytes hangsUp => meet (network.dial true) bytes hangsUp
  | .publisher target =>
    match n.publishers[target]? with
    | none => meet (network.dial false) [] false
    | some p =>
      let outcome := network.dial p.free?.isSome
      let n := meet outcome [] false
      if outcome = .connected then
        { n.changePublisher target fun p => p.accept ⟨p.settings.host, number⟩ with
          pipes := n.pipes ++ [⟨target, number, ⟨p.nextLink, 0, 0, 0⟩⟩] }
      else n

/-- The number of a subscriber that was given up, or the subscriber as it is. -/
def concluded (n : Node) (number id : Nat) : Except SessionError Nat × Node :=
  match n.subscribers[number]?.bind (·.result? 0) with
  | some (.ok _) => (.ok number, n)
  | some (.error e) =>
    (.error e,
      { n with
        sessions := n.sessions.remove id
        subscribers := n.subscribers.dropLast
        pipes := n.pipes.filter (·.subscriber != number) })
  | none => (.error (.timeout "publisher handshake"), n)

/-- Subscribes to a topic, and gives the number of the subscriber. The publisher's header has to
come in time. -/
def subscribe (n : Node) (network : Network) (topic typeId : String) (remote : Remote) :
    Except SessionError Nat × Node :=
  match n.load typeId with
  | (.error e, n) => (.error e, n)
  | (.ok type, n) =>
    let s := Subscriber.new n.callerId (normalizedName topic) type n.subscriberSettings
    let (id, sessions) := n.sessions.insert .subscriber s.topic typeId
    let number := n.subscribers.length
    let s := (s.onClose (.endSession id)).step .connect
    let n := { n with sessions := sessions, subscribers := n.subscribers ++ [s] }
    let n := (n.reach network number remote).settle
    let n := (n.changeSubscriber number fun s => s.step (.connection 0 .timeout)).settle
    n.concluded number id

def publish (n : Node) (number : Nat) (m : Message) : Except SessionError Nat × Node :=
  match n.publishers[number]? with
  | none => (.error .closed, n)
  | some p => ((p.publish m).1, (n.changePublisher number fun p => (p.publish m).2).settle)

def shutdown (n : Node) (number : Nat) : Node :=
  (n.changePublisher number Publisher.shutdown).settle

def close (n : Node) (number : Nat) : Node :=
  (n.changeSubscriber number Subscriber.close).settle

def dropSubscriber (n : Node) (number : Nat) : Node :=
  (n.changeSubscriber number Subscriber.drop).settle

def receive (n : Node) : List (List PublisherEvent) × List (List SubscriberEvent) × Node :=
  let heard := (List.range n.subscribers.length).map fun number =>
    (n.told.filter (·.1 == number)).map (·.2)
  (n.publishers.map (·.events.items), heard,
    { n with
      told := []
      publishers := n.publishers.map fun p => { p with events := p.events.drain.2 } })

end Node

end TopicWire
