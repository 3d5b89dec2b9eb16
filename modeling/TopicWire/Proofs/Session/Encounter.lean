import Mathlib.Data.List.Induction
import TopicWire.Proofs.Session.Announcement
import TopicWire.Proofs.Session.Flow
import TopicWire.Proofs.Session.Telling

/-!
# A subscriber reaches a publisher

An encounter is a subscriber that reaches the publisher in a run of an exchange. `Encounter.follows`
joins what is known about the two ends of its pipe at any later time, and `Encounter.induction` follows
the two ends from move to move.
-/

namespace TopicWire

namespace Exchange

/-- Nothing has happened yet. -/
structure Fresh (x : Exchange) : Prop where
  publisher : ∃ callerId topic type settings, x.publisher = .new callerId topic type settings
  subscribers : ∀ s ∈ x.subscribers, ∃ callerId topic type settings, s = .new callerId topic type settings
  pipes : x.pipes = []

theorem Fresh.wired {x : Exchange} (fresh : x.Fresh) (moves : List Move) : (x.run moves).Wired := by
  refine run_induction (motive := fun _ (x : Exchange) => x.Wired) ?_ (fun _ move held => held.step move)
    moves
  obtain ⟨callerId, topic, type, settings, publisher⟩ := fresh.publisher
  have new {number : Nat} {s : Subscriber} (there : x.subscribers[number]? = some s) :
      s.Numbered ∧ s.Phased ∧ s.connections = [] := by
    obtain ⟨callerId, topic, type, settings, rfl⟩ := fresh.subscribers s (List.mem_of_getElem? there)
    obtain ⟨numbered, phased⟩ := Subscriber.kept_new callerId topic type settings
    exact ⟨numbered, phased, rfl⟩
  refine ⟨?_, fun number s there => ⟨(new there).1, (new there).2.1⟩, ?_, ?_, ?_, ?_⟩
  · rw [publisher]
    exact Publisher.numbered_new callerId topic type settings
  · rw [fresh.pipes, publisher]
    rfl
  · rw [fresh.pipes]
    exact List.nodup_nil
  · intro place inside
    rw [fresh.pipes] at inside
    cases inside
  · intro number id s c there found
    rw [Subscriber.connection?, (new there).2.2] at found
    cases found

end Exchange

/-- A subscriber that dials while a listener of the publisher waits, in a run in which nothing has happened before. -/
structure Encounter where
  start : Exchange
  fresh : start.Fresh
  number : Nat
  /-- The subscriber before the run. -/
  first : Subscriber
  there : start.subscribers[number]? = some first
  /-- What happens before the subscriber joins. -/
  before : List Exchange.Move
  connection : Nat
  listener : Listener
  dials : (start.run before).Dials number (first.run (start.subscriberRun number before)) connection listener

namespace Encounter

variable (e : Encounter)

def met : Exchange := e.start.run e.before

def subscriber : Subscriber := e.first.run (e.start.subscriberRun e.number e.before)

/-- The participants when the subscriber has joined and more has happened. -/
def later (after : List Exchange.Move) : Exchange :=
  (e.met.step (.join e.number)).run after

def link : Nat := e.met.publisher.nextLink

def greeting : Header := e.met.publisher.greeting

def request : Header := e.first.request

variable (after : List Exchange.Move)

def publisherMoves : List Publisher.Move :=
  (e.met.step (.join e.number)).publisherRun after

/-- The publisher when its listener has taken the connection and not registered it. -/
def taking : Publisher :=
  e.met.publisher.step (.take e.listener.id ⟨e.listener.endpoint.ip, e.number⟩)

def accepted : Publisher :=
  e.taking.step (.register e.listener.id)

def subscriberMoves : List Subscriber.Move :=
  e.start.subscriberRun e.number (e.before ++ .join e.number :: after)

def up : Bytes := Publisher.arrived e.link (e.publisherMoves after)

def down : Bytes := e.first.arrived e.connection (e.subscriberMoves after)

def told : List (SubscriberEvent × Bool) :=
  Connection.toldBy e.connection (e.first.toldIn (e.subscriberMoves after))

def events : List PublisherEvent := e.accepted.emittedIn (e.publisherMoves after)

/-- The frames for the subscriber: the latched one and those published since. -/
def offered : List Bytes :=
  e.met.publisher.latched.toList ++ e.accepted.publishedIn (e.publisherMoves after)

def departed : List Departure := e.accepted.departures e.link (e.publisherMoves after)

/-- A header has arrived at the link, and agrees. -/
def Reads (header : Header) : Prop :=
  (Frame.readHeader Frame.maxSize [.bytes (e.up after)]).1 = .ok header ∧
    header.agrees e.met.publisher.type.digest = true

/-- What is known about the ends of the pipe. -/
structure Follows (m : Meeting) : Prop where
  joins : (e.later after).Joins e.met.pipes.length m
  number : m.number = e.number
  link : m.pipe.link = e.link
  connection : m.pipe.connection = e.connection
  subscriber : m.subscriber = e.first.run (e.subscriberMoves after)
  flow : m.Flow (e.up after) (e.down after)
  account : m.link.Account e.greeting.encode e.met.publisher.settings.overflow (e.up after)
    (e.offered after) (e.departed after)
  announced : m.link.Announced e.greeting.encode (e.Reads after) (e.events after)
  begun : m.link.Begun → ∃ header, e.Reads after header
  told : m.connection.Account e.request.encode e.first.type (e.down after) (e.told after)

variable {e after}

/-! ### One move more -/

theorem later_eq : e.start.run (e.before ++ .join e.number :: after) = e.later after :=
  Exchange.run_append ..

theorem publisherMoves_snoc (move : Exchange.Move) :
    e.publisherMoves (after ++ [move]) = e.publisherMoves after ++ (e.later after).publisherMoves move :=
  history_snoc _ after move

theorem subscriberMoves_snoc (move : Exchange.Move) :
    e.subscriberMoves (after ++ [move]) =
      e.subscriberMoves after ++ (e.later after).subscriberMoves e.number move := by
  rw [subscriberMoves, ← List.cons_append, ← List.append_assoc, Exchange.subscriberRun_snoc, later_eq]
  rfl

theorem up_snoc (move : Exchange.Move) :
    e.up (after ++ [move]) =
      e.up after ++ Publisher.arrived e.link ((e.later after).publisherMoves move) := by
  rw [up, publisherMoves_snoc, Publisher.arrived, List.flatMap_append]
  rfl

theorem down_snoc (move : Exchange.Move) :
    e.down (after ++ [move]) = e.down after ++ (e.first.run (e.subscriberMoves after)).arrived e.connection
      ((e.later after).subscriberMoves e.number move) := by
  rw [down, subscriberMoves_snoc, Subscriber.arrived, history_append]
  rfl

/-! ### What is known -/

theorem wired (e : Encounter) (after : List Exchange.Move) : (e.later after).Wired := by
  rw [← later_eq]
  exact e.fresh.wired _

theorem accepted_eq : (e.met.step (.join e.number)).publisher = e.accepted := by
  rw [met, (Exchange.step_join e.dials).2.2]
  rfl

theorem accepting (e : Encounter) : e.met.publisher.Alike e.accepted :=
  (e.met.publisher.step_alike _).trans (e.taking.step_alike _)

theorem later_publisher (e : Encounter) (after : List Exchange.Move) :
    (e.later after).publisher = e.accepted.run (e.publisherMoves after) := by
  rw [later, Exchange.run_publisher, accepted_eq]
  rfl

theorem later_subscriber (e : Encounter) (after : List Exchange.Move) :
    (e.later after).subscribers[e.number]? = some (e.first.run (e.subscriberMoves after)) := by
  rw [← later_eq]
  exact Exchange.run_subscriber e.there _

theorem subscriberMoves_nil : e.subscriberMoves [] = e.start.subscriberRun e.number e.before ++
    [.connection e.connection (.dialled .connected)] := by
  rw [subscriberMoves, Exchange.subscriberRun_snoc]
  exact congrArg _ (Exchange.step_join e.dials).2.1

theorem joins_nil (e : Encounter) : ∃ m, (e.later []).Joins e.met.pipes.length m ∧ m.number = e.number ∧
    m.pipe.link = e.link ∧ m.pipe.connection = e.connection ∧ m.Flow (e.up []) (e.down []) := by
  have wired : e.met.Wired := e.fresh.wired e.before
  obtain ⟨c, peer, found, id, stage, joins⟩ := wired.joins_new e.dials
  refine ⟨_, joins, rfl, rfl, id, ?_⟩
  have alone : c.Alone := wired.alone e.number e.connection _ c e.dials.subscriber found
    fun place pipe there same => wired.unpiped e.dials (by
      rw [← same]
      exact List.mem_map_of_mem (List.mem_of_getElem? there))
  obtain ⟨callerId, topic, type, settings, first⟩ :=
    e.fresh.subscribers e.first (List.mem_of_getElem? e.there)
  have silent : e.down [] = [] := by
    rw [first] at found
    have account := Subscriber.account_run callerId topic type settings _ found
    rw [Connection.Account, stage] at account
    rw [down, subscriberMoves_nil, Subscriber.arrived_snoc, first, ← account.2.1, alone.inbox]
    rfl
  rw [silent]
  refine ⟨ConnectionStage.noConfusion, List.nil_prefix, rfl, List.nil_prefix, rfl, fun no => (by cases no),
    fun ended => ?_⟩
  have lasting := alone.inboxEnded
  rw [show c.inboxEnded = true from ended] at lasting
  cases lasting

theorem joins_run (e : Encounter) (after : List Exchange.Move) :
    ∃ m, (e.later after).Joins e.met.pipes.length m ∧ m.number = e.number ∧ m.pipe.link = e.link ∧
      m.pipe.connection = e.connection ∧ m.Flow (e.up after) (e.down after) := by
  refine run_induction (motive := fun after (x : Exchange) => ∃ m, x.Joins e.met.pipes.length m ∧
    m.number = e.number ∧ m.pipe.link = e.link ∧ m.pipe.connection = e.connection ∧
    m.Flow (e.up after) (e.down after)) e.joins_nil (fun moves move held => ?_) after
  obtain ⟨m, joins, number, link, connection, flow⟩ := held
  change (e.later moves).Joins _ m at joins
  obtain ⟨m', up, down, joins', change, upEq, downEq⟩ := joins.goes (e.wired moves) flow.reached move
  obtain ⟨number', link', connection'⟩ := change.kept
  refine ⟨m', joins', number'.trans number, link'.trans link, connection'.trans connection, ?_⟩
  have subscriber : m.subscriber = e.first.run (e.subscriberMoves moves) :=
    Option.some.inj (joins.subscriber.symm.trans (number ▸ e.later_subscriber moves))
  rw [up_snoc, down_snoc, ← link, ← connection, ← number, ← subscriber, upEq, downEq]
  exact flow.change change

theorem follows (e : Encounter) (after : List Exchange.Move) : ∃ m, e.Follows after m := by
  obtain ⟨m, joins, number, link, connection, flow⟩ := e.joins_run after
  have numbered : e.taking.Numbered := (e.fresh.wired e.before).publisher.step _
  obtain ⟨peer, taken⟩ : ∃ peer, e.taking.taken? e.listener.id = some peer :=
    Publisher.taken?_take e.dials.waits _
  obtain ⟨l, found, account, begun⟩ := Publisher.account_run numbered taken (e.publisherMoves after)
  obtain ⟨l', found', announced⟩ := Publisher.announced_run numbered taken (e.publisherMoves after)
  have there : (e.accepted.run (e.publisherMoves after)).link? e.link = some m.link := by
    rw [← later_publisher, ← link]
    exact joins.link
  obtain rfl : m.link = l := Option.some.inj (there.symm.trans found)
  obtain rfl : m.link = l' := Option.some.inj (there.symm.trans found')
  have type : e.accepted.type = e.met.publisher.type := e.accepting.2.2.1
  have reads {header : Header}
      (welcomed : e.accepted.Welcomed e.link (e.publisherMoves after) header) : e.Reads after header := by
    obtain ⟨read, agrees⟩ := welcomed.read
    exact ⟨read, type ▸ agrees⟩
  have subscriber : m.subscriber = e.first.run (e.subscriberMoves after) :=
    Option.some.inj (joins.subscriber.symm.trans (number ▸ e.later_subscriber after))
  refine ⟨m, joins, number, link, connection, subscriber, flow, account,
    announced.mono fun header => reads, fun some => ?_, ?_⟩
  · obtain ⟨header, welcomed⟩ := begun some
    exact ⟨header, reads welcomed⟩
  · obtain ⟨callerId, topic, type, settings, first⟩ :=
      e.fresh.subscribers e.first (List.mem_of_getElem? e.there)
    have found := joins.connection
    rw [subscriber, connection, first] at found
    have told := Subscriber.account_run callerId topic type settings _ found
    rw [down, Encounter.told, request, first]
    exact told

theorem Follows.unique {m m' : Meeting} (follows : e.Follows after m)
    (joins : (e.later after).Joins e.met.pipes.length m') : m = m' :=
  Option.some.inj (follows.joins.meeting?_eq.symm.trans joins.meeting?_eq)

theorem Follows.goes {m : Meeting} (follows : e.Follows after m) (move : Exchange.Move) :
    ∃ m' up down, e.Follows (after ++ [move]) m' ∧
      m.Change (e.later after) e.met.pipes.length move up down m' := by
  obtain ⟨m', up, down, joins', change, -⟩ :=
    follows.joins.goes (e.wired after) follows.flow.reached move
  obtain ⟨m'', follows'⟩ := e.follows (after ++ [move])
  have later : (e.later after).step move = e.later (after ++ [move]) := by
    rw [later, later, Exchange.run_append]
    rfl
  rw [later] at joins'
  obtain rfl := follows'.unique joins'
  exact ⟨m'', up, down, follows', change⟩

/-- What holds when the subscriber joins, and is kept by every move, holds at any later time. -/
theorem induction (e : Encounter) {motive : List Exchange.Move → Meeting → Prop}
    (start : ∀ m, e.Follows [] m → motive [] m)
    (keeps : ∀ moves move m m' up down, e.Follows moves m → motive moves m →
      e.Follows (moves ++ [move]) m' → m.Change (e.later moves) e.met.pipes.length move up down m' →
      motive (moves ++ [move]) m')
    (after : List Exchange.Move) : ∃ m, e.Follows after m ∧ motive after m := by
  induction after using List.reverseRecOn with
  | nil =>
    obtain ⟨m, follows⟩ := e.follows []
    exact ⟨m, follows, start m follows⟩
  | append_singleton moves move ih =>
    obtain ⟨m, follows, held⟩ := ih
    obtain ⟨m', up, down, follows', change⟩ := follows.goes move
    exact ⟨m', follows', keeps moves move m m' up down follows held follows' change⟩

/-- Every pipe of a run comes from an encounter. -/
theorem exists_of_pipe {x : Exchange} (fresh : x.Fresh) (moves : List Exchange.Move) {place : Nat}
    (inside : place < (x.run moves).pipes.length) :
    ∃ (e : Encounter) (after : List Exchange.Move), e.start = x ∧
      e.before ++ .join e.number :: after = moves ∧ e.met.pipes.length = place := by
  induction moves using List.reverseRecOn with
  | nil =>
    have none : (x.run []).pipes = [] := fresh.pipes
    rw [none] at inside
    exact absurd inside (Nat.not_lt_zero place)
  | append_singleton moves move ih =>
    by_cases old : place < (x.run moves).pipes.length
    · obtain ⟨e, after, start, split, length⟩ := ih old
      exact ⟨e, after ++ [move], start, by rw [← split, List.append_assoc, List.cons_append], length⟩
    · have last : (x.run (moves ++ [move])) = (x.run moves).step move := Exchange.run_append ..
      rw [last] at inside
      rcases (x.run moves).step_pipes move with ⟨-, links, -⟩ | ⟨number, s, connection, listener, dials, rfl⟩
      · have same := congrArg List.length links
        rw [List.length_map, List.length_map] at same
        omega
      · obtain ⟨first, there, rfl⟩ := Exchange.subscriber_of_run dials.subscriber
        rw [(Exchange.step_join dials).2.2, List.length_append, List.length_singleton] at inside
        exact ⟨⟨x, fresh, number, first, there, moves, connection, listener, dials⟩, [], rfl, rfl,
          Nat.le_antisymm (Nat.le_of_not_lt old) (Nat.le_of_lt_succ inside)⟩

end Encounter

end TopicWire
