import TopicWire.Proofs.History
import TopicWire.Proofs.Session.Numbering
import TopicWire.Proofs.Session.Queue
import TopicWire.Session.Publisher

/-!
# What a move of a publisher does to a link

`Publisher.acts` says once what a link can do by itself, `Publisher.link?_step` what any move of the
publisher does to a link, and `Publisher.step_change` what it does to the publisher. Runs are followed
with these and the histories of what arrives, what is published, what leaves the queue and which events
are told.
-/

namespace TopicWire

/-! ### What moves give -/

namespace Link

def hands (l : Link) : Publisher.LinkMove → List Departure
  | .next => if l.stage = .serving [] then l.queue.hands else []
  | _ => []

def tells (l : Link) : Publisher.LinkMove → List PublisherEvent
  | .write count =>
    match l.stage with
    | .greeting callerId left =>
      if left.drop count = [] then [.connected l.id l.peer callerId] else []
    | _ => []
  | .leave =>
    match l.stage with
    | .shut (some cause) => [.failed (some l.peer) cause]
    | .reported => [.disconnected l.id l.peer]
    | _ => []
  | _ => []

end Link

namespace Publisher

def published (p : Publisher) : Move → List Bytes
  | .publish m => (p.frameOf m).toOption.toList
  | _ => []

def publishedIn (p : Publisher) (moves : List Move) : List Bytes :=
  history step published p moves

def brings (id : Nat) : Move → Bytes
  | .arrive other bytes => if other = id then bytes else []
  | _ => []

def arrived (id : Nat) (moves : List Move) : Bytes :=
  moves.flatMap (brings id)

def departs (p : Publisher) (id : Nat) (move : Move) : List Departure :=
  match p.link? id, move with
  | some l, .publish _ => if l.registered then (p.published move).flatMap l.queue.evicts else []
  | some l, .link other own => if other = id then l.hands own else []
  | _, _ => []

def departures (p : Publisher) (id : Nat) (moves : List Move) : List Departure :=
  history step (departs · id) p moves

/-- The events that a move tells, also those that find no room. -/
def emits (p : Publisher) : Move → List PublisherEvent
  | .finishStart found =>
    if p.searches = 0 then []
    else match found with
      | .ok endpoint => [.listening endpoint]
      | .error e => [.failed none e]
  | .failToAccept listener cause =>
    if (p.listener? listener).isSome then [.failed none (.unaccepted cause)] else []
  | .link id move => ((p.link? id).map (·.tells move)).getD []
  | _ => []

def emittedIn (p : Publisher) (moves : List Move) : List PublisherEvent :=
  history step emits p moves

theorem publishedIn_snoc (p : Publisher) (moves : List Move) (move : Move) :
    p.publishedIn (moves ++ [move]) = p.publishedIn moves ++ (p.run moves).published move :=
  history_snoc p moves move

theorem departures_snoc (p : Publisher) (id : Nat) (moves : List Move) (move : Move) :
    p.departures id (moves ++ [move]) = p.departures id moves ++ (p.run moves).departs id move :=
  history_snoc p moves move

theorem emittedIn_snoc (p : Publisher) (moves : List Move) (move : Move) :
    p.emittedIn (moves ++ [move]) = p.emittedIn moves ++ (p.run moves).emits move :=
  history_snoc p moves move

theorem arrived_snoc (id : Nat) (moves : List Move) (move : Move) :
    arrived id (moves ++ [move]) = arrived id moves ++ brings id move := by
  rw [arrived, List.flatMap_append, List.flatMap_cons, List.flatMap_nil, List.append_nil, arrived]

theorem run_append (p : Publisher) (moves later : List Move) :
    p.run (moves ++ later) = (p.run moves).run later :=
  List.foldl_append

def emitAll (p : Publisher) (events : List PublisherEvent) : Publisher :=
  events.foldl emit p

end Publisher

/-! ### What can happen to a link -/

/-- What a link can do by itself, and what it is afterwards. -/
inductive Link.Own (p : Publisher) (l : Link) : Publisher.LinkMove → Link → Prop
  | rests {move} (still : l.hands move = []) (silent : l.tells move = []) : Own p l move l
  | greets {header} (stage : l.stage = .handshake) (ready : l.headerReady = true)
      (read : l.header = .ok header) (agrees : header.agrees p.type.digest = true) :
      Own p l .readHeader
        { l with stage := .greeting header.callerId p.greeting.encode, inbox := [] }
  | refuses {cause} (stage : l.stage = .handshake) (ready : l.headerReady = true)
      (wrong : ∀ header, l.header = .ok header → header.agrees p.type.digest = false) :
      Own p l .readHeader { l with stage := .ended cause }
  | greetsOn {count callerId left} (stage : l.stage = .greeting callerId left)
      (more : left.drop count ≠ []) :
      Own p l (.write count)
        { l with stage := .greeting callerId (left.drop count), sent := l.sent ++ left.take count }
  | connects {count callerId left} (stage : l.stage = .greeting callerId left)
      (all : left.drop count = []) :
      Own p l (.write count) { l with stage := .serving [], sent := l.sent ++ left.take count }
  | serves {count left} (stage : l.stage = .serving left) :
      Own p l (.write count)
        { l with stage := .serving (left.drop count), sent := l.sent ++ left.take count }
  | takes {frame rest} (stage : l.stage = .serving []) (opened : l.queue.closed = false)
      (first : l.queue.frames = frame :: rest) :
      Own p l .next { l with stage := .serving frame, queue := { l.queue with frames := rest } }
  /-- The queue is closed, also as far as those know who wait for it, or the subscriber has closed its
  side. -/
  | stops {move} (working : l.stage.isOpen = true) (still : l.hands move = [])
      (silent : l.tells move = [])
      (reason : l.queue.closed = true ∨ l.queue.announced = true ∨
        l.stage = .serving [] ∧ l.inboxEnded = true) :
      Own p l move { l with stage := .ended none }
  | fails {move cause} (working : l.stage.isOpen = true) (still : l.hands move = [])
      (silent : l.tells move = [])
      (reason : move = .timeout ∨ (∃ e, move = .readFails e) ∨ ∃ e, move = .writeFails e) :
      Own p l move { l with stage := .ended cause }
  | judges {cause cause'} (stage : l.stage = .ended cause) :
      Own p l .leave { l with stage := .judged cause' }
  | deregisters {cause} (stage : l.stage = .judged cause) :
      Own p l .leave { l with stage := .removed cause, registered := false }
  | shuts {cause} (stage : l.stage = .removed cause) :
      Own p l .leave { l with stage := .shut cause, queue := l.queue.close }
  | reports {cause} (stage : l.stage = .shut cause) : Own p l .leave { l with stage := .reported }
  | finishes (stage : l.stage = .reported) : Own p l .leave { l with stage := .done }

def Publisher.Move.leaves (id : Nat) : Publisher.Move → Bool
  | .publish _ => false
  | .shutdown => false
  | .arrive other _ => other != id
  | .hangUp other => other != id
  | .link other _ => other != id
  | _ => true

/-- What a move of the publisher does to a link. -/
inductive Link.Change (p : Publisher) (l : Link) : Publisher.Move → Link → Prop
  | left {move : Publisher.Move} (other : move.leaves l.id = true) : Change p l move l
  | unsent {m e} (refused : p.frameOf m = .error e) : Change p l (.publish m) l
  | pushed {m frame} (made : p.frameOf m = .ok frame) :
      Change p l (.publish m) (Publisher.pushTo frame l)
  | arrives {bytes} : Change p l (.arrive l.id bytes) { l with inbox := l.inbox ++ bytes }
  | hangsUp : Change p l (.hangUp l.id) { l with inboxEnded := true }
  | dismissed : Change p l .shutdown (Publisher.dismiss l)
  | own {move l'} (moved : l.Own p move l') : Change p l (.link l.id move) l'

namespace Publisher

variable {p : Publisher} {l : Link} {id : Nat}

theorem id_of_link? (found : p.link? id = some l) : l.id = id :=
  Numbering.number_of_find? found

/-! ### Changing one link -/

theorem link?_changeLink {change : Link → Link} (keeps : ∀ l, (change l).id = l.id) (other : Nat) :
    (p.changeLink other change).link? id =
      if other = id then (p.link? id).map change else p.link? id :=
  Numbering.find?_mapAt keeps p.links other id

theorem link?_arrive (found : p.link? id = some l) (bytes : Bytes) :
    (p.step (.arrive id bytes)).link? id = some { l with inbox := l.inbox ++ bytes } := by
  rw [step, link?_changeLink (by exact fun _ => rfl), if_pos rfl, found, Option.map_some]

theorem link?_hangUp (found : p.link? id = some l) :
    (p.step (.hangUp id)).link? id = some { l with inboxEnded := true } := by
  rw [step, link?_changeLink (by exact fun _ => rfl), if_pos rfl, found, Option.map_some]

theorem changeLink_id (p : Publisher) (id : Nat) : p.changeLink id (fun l => l) = p := by
  rw [changeLink]
  simp

/-- What a publisher is from the start to the end. -/
def Alike (p q : Publisher) : Prop :=
  q.callerId = p.callerId ∧ q.topic = p.topic ∧ q.type = p.type ∧ q.settings = p.settings

theorem Alike.refl (p : Publisher) : p.Alike p := ⟨rfl, rfl, rfl, rfl⟩

theorem Alike.trans {q r : Publisher} (first : p.Alike q) (second : q.Alike r) : p.Alike r := by
  obtain ⟨a, b, c, d⟩ := first
  obtain ⟨a', b', c', d'⟩ := second
  exact ⟨a'.trans a, b'.trans b, c'.trans c, d'.trans d⟩

theorem Alike.greeting {q : Publisher} (alike : p.Alike q) : q.greeting = p.greeting := by
  obtain ⟨caller, topic, type, settings⟩ := alike
  rw [Publisher.greeting, Publisher.greeting, caller, topic, type, settings]

theorem emitAll_eq (p : Publisher) (events : List PublisherEvent) :
    p.emitAll events = { p with events := events.foldl Channel.offer p.events } := by
  induction events generalizing p with
  | nil => rfl
  | cons e es ih => exact ih (p.emit e)

/-- The move of a link is this change of it and what it tells. -/
def Acts (p : Publisher) (l : Link) (move : LinkMove) : Prop :=
  ∃ change : Link → Link, (∀ l, (change l).id = l.id) ∧ l.Own p move (change l) ∧
    p.linkStep l move = (p.changeLink l.id change).emitAll (l.tells move)

theorem acts_rests {move : LinkMove} (still : l.hands move = []) (silent : l.tells move = [])
    (none : p.linkStep l move = p) : p.Acts l move := by
  refine ⟨fun l => l, fun _ => rfl, .rests still silent, ?_⟩
  rw [none, changeLink_id, silent]
  rfl

theorem acts_ends {move : LinkMove} {cause : Option SessionError} (silent : l.tells move = [])
    (own : l.Own p move { l with stage := .ended cause })
    (ends : p.linkStep l move = p.endLink l.id cause) : p.Acts l move := by
  refine ⟨fun l => { l with stage := .ended cause }, fun _ => rfl, own, ?_⟩
  rw [ends, silent]
  rfl

theorem acts_readHeader (p : Publisher) (l : Link) : p.Acts l .readHeader := by
  by_cases ready : l.stage = .handshake ∧ l.headerReady = true
  · have read : p.linkStep l .readHeader = p.readHeader l := rfl
    rw [readHeader, if_pos ready] at read
    cases got : l.header with
    | error e =>
      simp only [got] at read
      refine acts_ends rfl (.refuses ready.1 ready.2 fun header same => ?_) read
      rw [got] at same
      cases same
    | ok header =>
      cases agrees : header.agrees p.type.digest with
      | true =>
        simp only [got, agrees, if_true] at read
        exact ⟨fun other =>
            { other with stage := .greeting header.callerId p.greeting.encode, inbox := [] },
          fun _ => rfl, .greets ready.1 ready.2 got agrees, read⟩
      | false =>
        simp only [got, agrees, Bool.false_eq_true, if_false] at read
        refine acts_ends rfl (.refuses ready.1 ready.2 fun other same => ?_) read
        rw [got] at same
        obtain rfl := Except.ok.inj same
        exact agrees
  · exact acts_rests rfl rfl (by rw [linkStep, readHeader, if_neg ready])

theorem acts_write (p : Publisher) (l : Link) (count : Nat) : p.Acts l (.write count) := by
  cases stage : l.stage with
  | greeting callerId left =>
    by_cases all : left.drop count = []
    · refine ⟨fun other => { other with stage := .serving [], sent := l.sent ++ left.take count },
        fun _ => rfl, .connects stage all, ?_⟩
      simp only [linkStep, write, stage, Link.tells, all, if_pos]
      rfl
    · refine ⟨fun other =>
          { other with stage := .greeting callerId (left.drop count), sent := l.sent ++ left.take count },
        fun _ => rfl, .greetsOn stage all, ?_⟩
      simp only [linkStep, write, stage, Link.tells, if_neg all]
      rfl
  | serving left =>
    refine ⟨fun other =>
        { other with stage := .serving (left.drop count), sent := other.sent ++ left.take count },
      fun _ => rfl, .serves stage, ?_⟩
    simp only [linkStep, write, stage, Link.tells]
    rfl
  | _ =>
    have silent : l.tells (.write count) = [] := by simp only [Link.tells, stage]
    exact acts_rests rfl silent (by simp only [linkStep, write, stage])

theorem acts_next (p : Publisher) (l : Link) : p.Acts l .next := by
  by_cases stage : l.stage = .serving []
  · have hands : l.hands .next = l.queue.hands := if_pos stage
    have step : p.linkStep l .next = p.nextFrame l := rfl
    rw [nextFrame, if_pos stage] at step
    rcases l.queue.pop_cases with ⟨closed, pop, still⟩ | ⟨opened, empty, pop, still⟩ |
      ⟨frame, rest, opened, first, pop, _⟩
    · simp only [pop] at step
      have working : l.stage.isOpen = true := by rw [stage]; rfl
      exact acts_ends rfl (.stops working (hands.trans still) rfl (.inl closed)) step
    · simp only [pop] at step
      exact acts_rests (hands.trans still) rfl step
    · simp only [pop] at step
      exact ⟨fun other => { other with stage := .serving frame, queue := { l.queue with frames := rest } },
        fun _ => rfl, .takes stage opened first, step⟩
  · have hands : l.hands .next = [] := if_neg stage
    exact acts_rests hands rfl (by rw [linkStep, nextFrame, if_neg stage])

theorem acts_leave (p : Publisher) (l : Link) : p.Acts l .leave := by
  cases stage : l.stage with
  | ended cause =>
    refine ⟨fun other => { other with stage := .judged (if l.queue.overflowed then
        some (.queueOverflow (max p.settings.queueCapacity 1)) else cause) },
      fun _ => rfl, .judges stage, ?_⟩
    simp only [linkStep, leave, stage, Link.tells]
    rfl
  | judged cause =>
    refine ⟨fun other => { other with stage := .removed cause, registered := false },
      fun _ => rfl, .deregisters stage, ?_⟩
    simp only [linkStep, leave, stage, Link.tells]
    rfl
  | removed cause =>
    refine ⟨fun other => { other with stage := .shut cause, queue := other.queue.close },
      fun _ => rfl, .shuts stage, ?_⟩
    simp only [linkStep, leave, stage, Link.tells]
    rfl
  | shut cause =>
    refine ⟨fun other => { other with stage := .reported }, fun _ => rfl, .reports stage, ?_⟩
    cases cause <;> simp only [linkStep, leave, stage, Link.tells] <;> rfl
  | reported =>
    refine ⟨fun other => { other with stage := .done }, fun _ => rfl, .finishes stage, ?_⟩
    simp only [linkStep, leave, stage, Link.tells]
    rfl
  | _ =>
    have silent : l.tells .leave = [] := by simp only [Link.tells, stage]
    exact acts_rests rfl silent (by simp only [linkStep, leave, stage])

theorem acts_readFails (p : Publisher) (l : Link) (cause : String) : p.Acts l (.readFails cause) := by
  have fails (working : l.stage.isOpen = true) (reason : Option SessionError)
      (ends : p.linkStep l (.readFails cause) = p.endLink l.id reason) : p.Acts l (.readFails cause) :=
    acts_ends rfl (.fails working rfl rfl (.inr (.inl ⟨cause, rfl⟩))) ends
  cases stage : l.stage with
  | handshake => exact fails (by rw [stage]; rfl) _ (by simp only [linkStep, stage]; rfl)
  | serving left =>
    cases left with
    | nil => exact fails (by rw [stage]; rfl) _ (by simp only [linkStep, stage]; rfl)
    | cons b left => exact acts_rests rfl rfl (by simp only [linkStep, stage])
  | _ => exact acts_rests rfl rfl (by simp only [linkStep, stage])

theorem acts_writeFails (p : Publisher) (l : Link) (cause : String) :
    p.Acts l (.writeFails cause) := by
  have fails (working : l.stage.isOpen = true) (reason : Option SessionError)
      (ends : p.linkStep l (.writeFails cause) = p.endLink l.id reason) : p.Acts l (.writeFails cause) :=
    acts_ends rfl (.fails working rfl rfl (.inr (.inr ⟨cause, rfl⟩))) ends
  cases stage : l.stage with
  | greeting callerId left => exact fails (by rw [stage]; rfl) _ (by simp only [linkStep, stage]; rfl)
  | serving left =>
    cases left with
    | nil => exact acts_rests rfl rfl (by simp only [linkStep, stage])
    | cons b left => exact fails (by rw [stage]; rfl) _ (by simp only [linkStep, stage]; rfl)
  | _ => exact acts_rests rfl rfl (by simp only [linkStep, stage])

theorem acts (p : Publisher) (l : Link) (move : LinkMove) : p.Acts l move := by
  cases move with
  | readHeader => exact acts_readHeader p l
  | timeout =>
    by_cases stage : l.stage = .handshake
    · have working : l.stage.isOpen = true := by rw [stage]; rfl
      exact acts_ends rfl (.fails working rfl rfl (.inl rfl)) (by rw [linkStep, if_pos stage])
    · exact acts_rests rfl rfl (by rw [linkStep, if_neg stage])
  | write count => exact acts_write p l count
  | next => exact acts_next p l
  | hangUp =>
    by_cases ended : l.stage = .serving [] ∧ l.inboxEnded = true
    · have working : l.stage.isOpen = true := by rw [ended.1]; rfl
      exact acts_ends rfl (.stops working rfl rfl (.inr (.inr ended))) (by rw [linkStep, if_pos ended])
    · exact acts_rests rfl rfl (by rw [linkStep, if_neg ended])
  | cutOff =>
    by_cases told : l.stage.isOpen = true ∧ l.queue.announced = true
    · exact acts_ends rfl (.stops told.1 rfl rfl (.inr (.inl told.2))) (by rw [linkStep, if_pos told])
    · exact acts_rests rfl rfl (by rw [linkStep, if_neg told])
  | readFails cause => exact acts_readFails p l cause
  | writeFails cause => exact acts_writeFails p l cause
  | leave => exact acts_leave p l

theorem pushTo_eq (frame : Bytes) (l : Link) : ∃ queue, pushTo frame l = { l with queue := queue } := by
  unfold pushTo
  split
  · exact ⟨_, rfl⟩
  · exact ⟨l.queue, rfl⟩

theorem pushTo_id (frame : Bytes) (l : Link) : (pushTo frame l).id = l.id := by
  obtain ⟨queue, eq⟩ := pushTo_eq frame l
  rw [eq]

theorem dismiss_eq (l : Link) :
    ∃ queue registered, dismiss l = { l with queue := queue, registered := registered } := by
  unfold dismiss
  split
  · exact ⟨_, _, rfl⟩
  · exact ⟨l.queue, l.registered, rfl⟩

theorem dismiss_id (l : Link) : (dismiss l).id = l.id := by
  obtain ⟨queue, registered, eq⟩ := dismiss_eq l
  rw [eq]

/-! ### What a move does to a link -/

theorem step_link (found : p.link? id = some l) (move : LinkMove) :
    ∃ change : Link → Link, (∀ l, (change l).id = l.id) ∧ l.Own p move (change l) ∧
      p.step (.link id move) = (p.changeLink id change).emitAll (l.tells move) := by
  obtain ⟨change, keeps, own, eq⟩ := p.acts l move
  rw [id_of_link? found] at eq
  refine ⟨change, keeps, own, ?_⟩
  rw [← eq]
  simp only [step, found]

theorem step_link_none (none : p.link? id = none) (move : LinkMove) : p.step (.link id move) = p := by
  simp only [step, none]

theorem link?_emitAll (p : Publisher) (events : List PublisherEvent) (id : Nat) :
    (p.emitAll events).link? id = p.link? id := by
  rw [emitAll_eq, link?, link?]

/-- The queue of a new connection, with the latched frame in it. -/
def openingQueue (p : Publisher) : SendQueue :=
  { SendQueue.new p.settings.queueCapacity p.settings.overflow with frames := p.latched.toList }

def Move.turns : Move → Bool
  | .beginStart => true
  | .finishStart _ => true
  | .abandonStart => true
  | .shutdown => true
  | _ => false

/-- The listener that a call to start makes. -/
def newest (p : Publisher) (endpoint : Endpoint) : Listener :=
  { id := p.nextListener, endpoint := endpoint }

/-- What a move does to a publisher. -/
inductive Change (p : Publisher) : Move → Publisher → Prop
  | aside {move events} (unpublished : p.published move = []) :
      Change p move { p with events := events }
  | begins (opened : p.endpoint? = none) (unclosed : p.phase ≠ .closed) :
      Change p .beginStart { p with phase := .searching, searches := p.searches + 1 }
  | opens {endpoint} (busy : p.searches ≠ 0) :
      Change p (.finishStart (.ok endpoint))
        { p with
          searches := p.searches - 1, phase := .listening endpoint
          listeners := p.listeners ++ [p.newest endpoint], nextListener := p.nextListener + 1
          keptListener := some p.nextListener, events := p.events.offer (.listening endpoint) }
  | fails {e} (busy : p.searches ≠ 0) :
      Change p (.finishStart (.error e))
        { p with
          searches := p.searches - 1, phase := .unbound, events := p.events.offer (.failed none e) }
  | abandons : Change p .abandonStart { p with searches := p.searches - 1 }
  | takes {listener peer} : Change p (.take listener peer) (p.take listener peer)
  | registers {listener peer} (taken : p.taken? listener = some peer) :
      Change p (.register listener)
        { p with
          listeners := p.listeners.map fun l => if l.id = listener then { l with taken := none } else l
          links := p.links ++ [{ id := p.nextLink, peer := peer, queue := p.openingQueue }]
          nextLink := p.nextLink + 1 }
  | stops {listener} : Change p (.stop listener) (p.stop listener)
  | relinks {move change events} (keeps : ∀ l, (change l).id = l.id)
      (unpublished : p.published move = []) :
      Change p move { p with links := p.links.map change, events := events }
  | publishes {m frame} (made : p.frameOf m = .ok frame) :
      Change p (.publish m)
        { p with
          links := p.links.map (pushTo frame)
          latched := if p.settings.latching then some frame else p.latched }
  | hooks {hook} : Change p (.onClose hook) { p with hook := some hook }
  | shuts :
      Change p .shutdown
        { p with
          listeners := p.listeners.map (askToStop p.keptListener), keptListener := none
          links := p.links.map dismiss, phase := .closed
          hook := none, ran := p.ran ++ p.hook.toList }

theorem beginStart_eq (opened : p.endpoint? = none) (unclosed : p.phase ≠ .closed) :
    p.step .beginStart = { p with phase := .searching, searches := p.searches + 1 } := by
  show p.beginStart.2 = _
  unfold beginStart
  split
  · rename_i endpoint phase
    rw [endpoint?, phase] at opened
    cases opened
  · rename_i phase
    exact (unclosed phase).elim
  · rfl

theorem beginStart_listening {endpoint : Endpoint} (listening : p.endpoint? = some endpoint) :
    p.step .beginStart = p := by
  show p.beginStart.2 = p
  unfold beginStart
  split
  · rfl
  · rfl
  · rename_i other _
    unfold endpoint? at listening
    split at listening
    · rename_i phase
      exact (other _ phase).elim
    · cases listening

theorem beginStart_closed (closed : p.phase = .closed) : p.step .beginStart = p := by
  show p.beginStart.2 = p
  unfold beginStart
  rw [closed]

theorem finishStart_none (idle : p.searches = 0) (found : Except SessionError Endpoint) :
    p.step (.finishStart found) = p :=
  if_pos idle

theorem finishStart_bound (busy : p.searches ≠ 0) (endpoint : Endpoint) :
    p.step (.finishStart (.ok endpoint)) =
      { p with
        searches := p.searches - 1, phase := .listening endpoint
        listeners := p.listeners ++ [p.newest endpoint], nextListener := p.nextListener + 1
        keptListener := some p.nextListener
        events := p.events.offer (.listening endpoint) } :=
  if_neg busy

theorem finishStart_failed (busy : p.searches ≠ 0) (e : SessionError) :
    p.step (.finishStart (.error e)) =
      { p with
        searches := p.searches - 1, phase := .unbound, events := p.events.offer (.failed none e) } :=
  if_neg busy

theorem addLink_eq (p : Publisher) (peer : Endpoint) :
    p.addLink peer = { p with
      links := p.links ++ [{ id := p.nextLink, peer := peer, queue := p.openingQueue }]
      nextLink := p.nextLink + 1 } := by
  rw [addLink, openingQueue]
  cases p.latched with
  | none => rfl
  | some frame =>
    have pushed := SendQueue.push_new p.settings.queueCapacity p.settings.overflow frame
    simp only [pushed]
    rfl

theorem register_none (none : p.taken? id = none) : p.register id = p := by
  rw [register, none]

theorem register_eq {peer : Endpoint} (taken : p.taken? id = some peer) :
    p.register id = { p with
      listeners := p.listeners.map fun l => if l.id = id then { l with taken := none } else l
      links := p.links ++ [{ id := p.nextLink, peer := peer, queue := p.openingQueue }]
      nextLink := p.nextLink + 1 } := by
  rw [register, taken]
  exact addLink_eq _ peer

theorem accept_eq {listener : Listener} (free : p.free? = some listener) (peer : Endpoint) :
    p.accept peer = (p.step (.take listener.id peer)).step (.register listener.id) := by
  rw [accept, free]
  rfl

/-- A listener that waits has something to register once it has taken a connection. -/
theorem taken?_take {listener : Listener} (free : p.free? = some listener) (peer : Endpoint) :
    ∃ taken, (p.step (.take listener.id peer)).taken? listener.id = some taken := by
  have known : (p.listener? listener.id).isSome :=
    List.find?_isSome.mpr ⟨listener, List.mem_of_find?_eq_some free, beq_self_eq_true listener.id⟩
  obtain ⟨l, found⟩ := Option.isSome_iff_exists.mp known
  have there : (p.step (.take listener.id peer)).listener? listener.id =
      some { l with taken := l.taken.or (some peer) } := by
    refine (Numbering.find?_mapAt (by exact fun _ => rfl) p.listeners listener.id listener.id).trans ?_
    rw [if_pos rfl, show p.listeners.find? _ = some l from found]
    rfl
  rw [taken?, there]
  cases taken : l.taken with
  | none => exact ⟨peer, by rw [Option.bind_some, Option.none_or]⟩
  | some other => exact ⟨other, by rw [Option.bind_some, Option.some_or]⟩

theorem publish_eq {m : Message} {frame : Bytes} (made : p.frameOf m = .ok frame) :
    (p.publish m).2 = { p with
      links := p.links.map (pushTo frame)
      latched := if p.settings.latching then some frame else p.latched } := by
  simp only [publish, made]

theorem step_change (p : Publisher) (move : Move) : p.Change move (p.step move) := by
  cases move with
  | beginStart =>
    cases listening : p.endpoint? with
    | some endpoint =>
      rw [beginStart_listening listening]
      exact .aside rfl
    | none =>
      by_cases closed : p.phase = .closed
      · rw [beginStart_closed closed]
        exact .aside rfl
      · rw [beginStart_eq listening closed]
        exact .begins listening closed
  | finishStart found =>
    by_cases idle : p.searches = 0
    · rw [finishStart_none idle]
      exact .aside rfl
    · cases found with
      | ok endpoint =>
        rw [finishStart_bound idle]
        exact .opens idle
      | error e =>
        rw [finishStart_failed idle]
        exact .fails idle
  | abandonStart => exact .abandons
  | take listener peer => exact .takes
  | register listener =>
    cases taken : p.taken? listener with
    | none =>
      rw [step, register_none taken]
      exact .aside rfl
    | some peer =>
      rw [step, register_eq taken]
      exact .registers taken
  | failToAccept listener cause =>
    simp only [step, failToAccept]
    split <;> exact .aside rfl
  | stop listener => exact .stops
  | arrive other bytes => exact .relinks (Numbering.number_mapAt (by exact fun _ => rfl) other) rfl
  | hangUp other => exact .relinks (Numbering.number_mapAt (by exact fun _ => rfl) other) rfl
  | link id move =>
    cases found : p.link? id with
    | none =>
      rw [step_link_none found]
      exact .aside rfl
    | some l =>
      obtain ⟨change, keeps, -, eq⟩ := step_link found move
      rw [eq, emitAll_eq]
      exact .relinks (Numbering.number_mapAt keeps id) rfl
  | publish m =>
    cases made : p.frameOf m with
    | error e =>
      have unpublished : p.published (.publish m) = [] := by rw [published, made]; rfl
      have kept : p.step (.publish m) = p := by simp only [step, publish, made]
      rw [kept]
      exact .aside unpublished
    | ok frame =>
      rw [step, publish_eq made]
      exact .publishes made
  | onClose hook => exact .hooks
  | shutdown => exact .shuts
  | receive => exact .aside rfl

/-- A move finds the link again, changed in one of the ways in which links change. -/
theorem link?_step (found : p.link? id = some l) (move : Move) :
    ∃ l', (p.step move).link? id = some l' ∧ l.Change p move l' := by
  have same := id_of_link? found
  cases move with
  | beginStart =>
    refine ⟨l, ?_, .left rfl⟩
    simp only [step, beginStart]
    split <;> exact found
  | finishStart outcome =>
    refine ⟨l, ?_, .left rfl⟩
    simp only [step, finishStart]
    split
    · exact found
    · cases outcome <;> exact found
  | abandonStart => exact ⟨l, found, .left rfl⟩
  | take listener peer => exact ⟨l, found, .left rfl⟩
  | register listener =>
    refine ⟨l, ?_, .left rfl⟩
    cases taken : p.taken? listener with
    | none => rwa [step, register_none taken]
    | some peer =>
      rw [step, register_eq taken]
      exact List.find?_append.trans (by rw [show p.links.find? _ = some l from found]; rfl)
  | failToAccept listener cause =>
    refine ⟨l, ?_, .left rfl⟩
    simp only [step, failToAccept]
    split <;> exact found
  | stop listener => exact ⟨l, found, .left rfl⟩
  | arrive other bytes =>
    by_cases here : other = id
    · subst here
      exact ⟨_, link?_arrive found bytes, same ▸ .arrives⟩
    · refine ⟨l, ?_, .left (by simpa [Move.leaves, same] using here)⟩
      rw [step, link?_changeLink (by exact fun _ => rfl), if_neg here, found]
  | hangUp other =>
    by_cases here : other = id
    · subst here
      exact ⟨_, link?_hangUp found, same ▸ .hangsUp⟩
    · refine ⟨l, ?_, .left (by simpa [Move.leaves, same] using here)⟩
      rw [step, link?_changeLink (by exact fun _ => rfl), if_neg here, found]
  | link other move =>
    by_cases here : other = id
    · subst here
      obtain ⟨change, keeps, own, eq⟩ := step_link found move
      refine ⟨change l, ?_, same ▸ .own own⟩
      rw [eq, link?_emitAll, link?_changeLink keeps, if_pos rfl, found, Option.map_some]
    · refine ⟨l, ?_, .left (by simpa [Move.leaves, same] using here)⟩
      cases there : p.link? other with
      | none => rw [step_link_none there, found]
      | some acting =>
        obtain ⟨change, keeps, -, eq⟩ := step_link there move
        rw [eq, link?_emitAll, link?_changeLink keeps, if_neg here, found]
  | publish m =>
    cases made : p.frameOf m with
    | error e =>
      refine ⟨l, ?_, .unsent made⟩
      simp only [step, publish, made]
      exact found
    | ok frame =>
      refine ⟨pushTo frame l, ?_, .pushed made⟩
      rw [step, publish_eq made]
      exact (Numbering.find?_map (pushTo_id frame) p.links id).trans
        (congrArg (Option.map (pushTo frame)) found)
  | onClose hook => exact ⟨l, found, .left rfl⟩
  | shutdown =>
    refine ⟨dismiss l, ?_, .dismissed⟩
    exact (Numbering.find?_map dismiss_id p.links id).trans (congrArg (Option.map dismiss) found)
  | receive => exact ⟨l, found, .left rfl⟩

end Publisher

/-- Unless a move is its own, a link stays in its stage and writes nothing. -/
theorem Link.Change.own_or_kept {p : Publisher} {l l' : Link} {move : Publisher.Move}
    (change : l.Change p move l') :
    (∃ own, move = .link l.id own ∧ l.Own p own l') ∨
      (∀ own, move ≠ .link l.id own) ∧
        l'.id = l.id ∧ l'.peer = l.peer ∧ l'.stage = l.stage ∧ l'.sent = l.sent := by
  cases change with
  | left other =>
    refine .inr ⟨?_, rfl, rfl, rfl, rfl⟩
    rintro own rfl
    exact absurd other (by simp [Publisher.Move.leaves])
  | pushed made =>
    obtain ⟨queue, eq⟩ := Publisher.pushTo_eq _ l
    rw [eq]
    exact .inr ⟨fun _ => Publisher.Move.noConfusion, rfl, rfl, rfl, rfl⟩
  | dismissed =>
    obtain ⟨queue, registered, eq⟩ := Publisher.dismiss_eq l
    rw [eq]
    exact .inr ⟨fun _ => Publisher.Move.noConfusion, rfl, rfl, rfl, rfl⟩
  | own moved => exact .inl ⟨_, rfl, moved⟩
  | _ => exact .inr ⟨fun _ => Publisher.Move.noConfusion, rfl, rfl, rfl, rfl⟩

namespace Publisher

variable {p : Publisher} {l : Link} {id : Nat}

/-! ### What a move does to the rest of the publisher -/

theorem Change.alike {move : Move} {q : Publisher} (change : p.Change move q) : p.Alike q := by
  cases change <;> exact .refl p

theorem step_alike (p : Publisher) (move : Move) : p.Alike (p.step move) :=
  (p.step_change move).alike

theorem run_alike (p : Publisher) (moves : List Move) : p.Alike (p.run moves) := by
  induction moves generalizing p with
  | nil => exact .refl p
  | cons move moves ih => exact (p.step_alike move).trans (ih _)

theorem Change.latched_eq {move : Move} {q : Publisher} (change : p.Change move q) :
    q.latched =
      if p.settings.latching then (p.published move).getLast?.or p.latched else p.latched := by
  have kept (unpublished : p.published move = []) :
      p.latched =
        if p.settings.latching then (p.published move).getLast?.or p.latched else p.latched := by
    rw [unpublished, List.getLast?_nil, Option.none_or, ite_self]
  cases change with
  | aside unpublished => exact kept unpublished
  | relinks keeps unpublished => exact kept unpublished
  | publishes made => simp [published, made, Except.toOption]
  | _ => exact kept rfl

/-! ### The links that there are -/

/-- The links are numbered in the order of their registration. -/
def Numbered (p : Publisher) : Prop :=
  p.links.map (·.id) = List.range p.nextLink

theorem Change.numbered {move : Move} {q : Publisher} (change : p.Change move q)
    (numbered : p.Numbered) : q.Numbered := by
  have changed {change : Link → Link} (keeps : ∀ l, (change l).id = l.id) :
      (p.links.map change).map (·.id) = List.range p.nextLink := by
    rw [List.map_map, ← numbered]
    exact List.map_congr_left fun l _ => keeps l
  cases change with
  | registers taken =>
    rw [Numbered, List.map_append, numbered]
    exact List.range_succ.symm
  | relinks keeps => exact changed keeps
  | publishes made => exact changed (pushTo_id _)
  | shuts => exact changed dismiss_id
  | _ => exact numbered

theorem Numbered.step (numbered : p.Numbered) (move : Move) : (p.step move).Numbered :=
  (p.step_change move).numbered numbered

theorem Numbered.run (numbered : p.Numbered) (moves : List Move) : (p.run moves).Numbered :=
  run_induction (motive := fun _ (p : Publisher) => p.Numbered) numbered
    (fun _ move held => held.step move) moves

theorem numbered_new (callerId topic : String) (type : MessageType) (settings : PublisherSettings) :
    (new callerId topic type settings).Numbered := by
  unfold Numbered
  rfl

theorem step_nextLink {move : Move} (other : ∀ listener, move ≠ .register listener) :
    (p.step move).nextLink = p.nextLink := by
  have change := p.step_change move
  generalize p.step move = q at change ⊢
  cases change with
  | registers taken => exact absurd rfl (other _)
  | _ => rfl

theorem Numbered.link?_eq_none_iff (numbered : p.Numbered) : p.link? id = none ↔ p.nextLink ≤ id :=
  Numbering.find?_eq_none_iff numbered

theorem nextLink_register {peer : Endpoint} (taken : p.taken? id = some peer) :
    (p.step (.register id)).nextLink = p.nextLink + 1 := by
  rw [step, register_eq taken]

def Move.letsIn : Move → Bool
  | .take .. => true
  | .register _ => true
  | _ => false

theorem accept_reached (p : Publisher) (peer : Endpoint) : Reached step Move.letsIn p (p.accept peer) := by
  cases free : p.free? with
  | none =>
    rw [accept, free]
    exact .refl p
  | some listener =>
    rw [accept_eq free]
    exact (Reached.of_move p rfl).trans (.of_move _ rfl)

theorem link?_register {peer : Endpoint} (numbered : p.Numbered) (taken : p.taken? id = some peer) :
    (p.step (.register id)).link? p.nextLink =
      some { id := p.nextLink, peer := peer, queue := p.openingQueue } := by
  have unknown : p.links.find? (·.id == p.nextLink) = none :=
    numbered.link?_eq_none_iff.mpr (Nat.le_refl _)
  rw [step, register_eq taken, link?, List.find?_append, unknown, Option.none_or,
    List.find?_cons_of_pos (by simp)]

theorem link?_accept (numbered : p.Numbered) {listener : Listener} (free : p.free? = some listener)
    (peer : Endpoint) : ∃ l, (p.accept peer).link? p.nextLink = some l := by
  obtain ⟨taken, found⟩ := taken?_take free peer
  rw [accept_eq free]
  exact ⟨_, link?_register (numbered.step _) found⟩

end Publisher

end TopicWire
