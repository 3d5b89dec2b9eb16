import TopicWire.Proofs.Session.Trying

/-!
# Sessions of a node

Whatever is asked of a node and happens to it, once it has come to rest its sessions are the ones that were
opened through it and are still open (`Node.tracks_sessions`).
-/

namespace TopicWire

theorem Publisher.start_new (callerId topic : String) (type : MessageType) (settings : PublisherSettings)
    (bind : Nat → Binding) :
    let found := bindFirstFree bind settings.host settings.basePort settings.portSearchLimit
    (Publisher.new callerId topic type settings).start bind =
      (found, ((Publisher.new callerId topic type settings).step .beginStart).step (.finishStart found)) :=
  rfl

theorem Publisher.started (callerId topic : String) (type : MessageType) (settings : PublisherSettings)
    (endpoint : Endpoint) :
    let p := ((Publisher.new callerId topic type settings).step .beginStart).step (.finishStart (.ok endpoint))
    p.topic = topic ∧ p.Numbered ∧ p.ran = [] ∧ p.endpoint?.isSome = true :=
  ⟨rfl, ((numbered_new callerId topic type settings).step _).step _, rfl, rfl⟩

/-- Receiving what a publisher has told leaves it as it is. -/
theorem Publisher.drained_serves (p : Publisher) : p.Serves { p with events := p.events.drain.2 } := by
  generalize items : p.events.items = events
  induction events generalizing p with
  | nil =>
    have same : p.events.drain.2 = p.events := by rw [Channel.drain, ← items]
    rw [same]
    exact .refl p
  | cons e events ih =>
    have received : (p.step .receive).events.items = events := by
      simp only [step, Channel.receive, items]
    have same : { p.step .receive with events := (p.step .receive).events.drain.2 } =
        { p with events := p.events.drain.2 } := by
      simp only [step, Channel.receive, items, Channel.drain]
    have first : p.Serves (p.step .receive) := .of_move p rfl
    exact first.trans (same ▸ ih _ received)

namespace Node

variable {n n' m : Node} {opened : List Opened} {o : Opened}

/-! ### Operations keep track -/

theorem Still.of_same (still : n.Still) (publishers : n'.publishers = n.publishers)
    (subscribers : n'.subscribers = n.subscribers) (pipes : n'.pipes = n.pipes) : n'.Still := by
  have link (number id : Nat) : n'.link? number id = n.link? number id := by rw [link?, link?, publishers]
  have connection (number id : Nat) : n'.connection? number id = n.connection? number id := by
    rw [connection?, connection?, subscribers]
  refine ⟨fun number id l found => still.links number id l (link number id ▸ found), fun number id c found =>
    still.connections number id c (connection number id ▸ found), fun place a b x joins => ?_⟩
  exact still.pipes place a b x ⟨pipes ▸ joins.pipe, link a _ ▸ joins.link, connection b _ ▸ joins.connection⟩

/-- What a node has loaded and what its subscribers have told do not matter to its sessions. -/
theorem Kept.of_same (kept : n.Kept opened) (sessions : n'.sessions = n.sessions)
    (publishers : n'.publishers = n.publishers) (subscribers : n'.subscribers = n.subscribers)
    (pipes : n'.pipes = n.pipes) : n'.Kept opened := by
  have evolves : n.Evolves n' := by
    refine ⟨fun number => ?_, fun number => ?_, .of_same sessions fun hook => ?_⟩
    · rw [publishers]
      exact rel_refl .refl _
    · rw [subscribers]
      exact rel_refl .refl _
    · rw [hooksRun, publishers, subscribers, hooksRun]
  have routes : n'.routes = n.routes := by
    unfold Node.routes
    rw [pipes]
  exact ⟨kept.tracks.evolves evolves, evolves.accepted kept.accepted, kept.wired.same evolves routes,
    kept.still.of_same publishers subscribers pipes⟩

theorem Tracks.settle (tracks : n.Tracks opened)
    (accepted : ∀ o ∈ opened, n.Backed Publisher.Held Subscriber.Subscribed o) (wired : n.Wired) :
    n.settle.Kept opened := by
  have follows := settle_follows wired
  exact ⟨tracks.evolves follows.evolves, follows.evolves.accepted accepted, wired.follows follows,
    settle_still wired⟩

/-- Whatever those that a node has do, it keeps track once it has come to rest. -/
theorem Kept.settle (kept : n.Kept opened) (evolves : n.Evolves n') (routes : n'.routes = n.routes) :
    n'.settle.Kept opened :=
  (kept.tracks.evolves evolves).settle (evolves.accepted kept.accepted) (kept.wired.same evolves routes)

theorem Kept.changePublisher (kept : n.Kept opened) {change : Publisher → Publisher}
    (serves : ∀ p : Publisher, p.Serves (change p)) (number : Nat) :
    (n.changePublisher number change).settle.Kept opened :=
  kept.settle (.changePublisher serves n number) (routes_changePublisher number change)

theorem Kept.changeSubscriber (kept : n.Kept opened) {change : Subscriber → Subscriber}
    (ordinary : ∀ s : Subscriber, s.Ordinary (change s)) (number : Nat) :
    (n.changeSubscriber number change).settle.Kept opened :=
  kept.settle (.changeSubscriber ordinary n number) (routes_changeSubscriber number change)

theorem Kept.spares_changePublisher (kept : n.Kept opened) {P : Nat → Prop} (number : Nat)
    {change : Publisher → Publisher} (serves : ∀ p : Publisher, p.Serves (change p))
    (phase : P number → ∀ p : Publisher, (change p).phase = p.phase) :
    n.Spares P (fun i => ∀ np ∈ n.pipes, np.subscriber = i → np.publisher ≠ number)
      (n.changePublisher number change).settle := by
  have wired := kept.wired.same (.changePublisher serves n number) (routes_changePublisher number change)
  exact (Node.spares_changePublisher kept.wired phase).trans (spares_settle wired)

theorem Kept.spares_changeSubscriber (kept : n.Kept opened) {P K : Nat → Prop} (number : Nat)
    {change : Subscriber → Subscriber} (ordinary : ∀ s : Subscriber, s.Ordinary (change s))
    (apart : ¬ K number) : n.Spares P K (n.changeSubscriber number change).settle := by
  have wired := kept.wired.follows (.changeSubscriber ordinary n number)
  exact (Node.spares_changeSubscriber kept.wired change apart).trans (spares_settle wired)

/-- A publisher that has been started joins the others. -/
theorem Kept.publisher (kept : n.Kept opened) (topic typeId : String) {p : Publisher} (numbered : p.Numbered)
    (waits : CloseHook.Waits (.endSession n.sessions.nextId) p.hook p.ran)
    (listens : p.endpoint?.isSome = true) :
    let n' : Node := { n with
      sessions := (n.sessions.insert .publisher topic typeId).2
      publishers := n.publishers ++ [p] }
    n'.settle.Kept (opened ++ [⟨⟨n.sessions.nextId, .publisher, topic, typeId⟩, n.publishers.length⟩]) ∧
      n.Spares (fun _ => True) (· < n.subscribers.length) n'.settle := by
  intro n'
  have grows : n.publishers <+: n'.publishers := List.prefix_append _ _
  have there : n'.publishers[n.publishers.length]? = some p := List.getElem?_concat_length
  have held : p.Held (.endSession n.sessions.nextId) := .inl ⟨waits, listens⟩
  have wired : n'.Wired := by
    refine kept.wired.grows rfl (List.append_nil _).symm rfl (fun q member => ?_) (List.forall_mem_nil _)
    rwa [List.mem_singleton.mp member]
  refine ⟨Tracks.settle ?_ (List.forall_mem_append.mpr ⟨fun o member => ?_, fun o member => ?_⟩) wired,
    Spares.trans ?_ (spares_settle wired)⟩
  · refine kept.tracks.add rfl rfl (fun hook => ?_) grows List.prefix_rfl (fun kind => ?_)
      (backed_publisher rfl there held)
    · simp [hooksRun, waits.2, n']
    · cases kind with
      | publisher => simp [holders, numbers, List.range_succ, n']
      | subscriber => simp [holders, numbers, n']
  · exact (kept.accepted o member).grows grows List.prefix_rfl
  · obtain rfl := List.mem_singleton.mp member
    exact backed_publisher rfl there held
  · refine spares_of_same kept.wired (fun i q _ found => ?_) (fun _ _ _ _ found => link?_grows grows found)
      (fun _ _ _ _ found => found) fun _ member _ => member
    obtain ⟨inside, rfl⟩ := List.getElem?_eq_some_iff.mp found
    exact ⟨_, List.prefix_iff_getElem?.mp grows _ inside, rfl⟩

/-! ### Subscribing -/

/-- A subscriber that was tried in vain leaves nothing behind. -/
theorem Trying.withdraw (trying : n.Trying opened o m) (still : m.Still)
    (kind : o.session.kind = .subscriber) (number : o.number = n.subscribers.length) :
    let m' : Node := { m with
      sessions := m.sessions.remove o.session.id
      subscribers := m.subscribers.dropLast
      pipes := m.pipes.filter (·.subscriber != n.subscribers.length) }
    m'.Kept opened ∧ n.Spares (fun _ => True) (· < n.subscribers.length) m' := by
  intro m'
  obtain ⟨-, length⟩ := trying.tracks.last_subscriber kind
  rw [number] at length
  have link (i id : Nat) : m'.link? i id = m.link? i id := rfl
  have connection {i : Nat} (id : Nat) (inside : i < n.subscribers.length) :
      m'.connection? i id = m.connection? i id := by
    have bound : i < m.subscribers.length - 1 := by omega
    rw [connection?, connection?, List.getElem?_dropLast, if_pos bound]
  have inside {i id : Nat} {c : Connection} (found : m'.connection? i id = some c) :
      i < n.subscribers.length := by
    have bound : i < m.subscribers.dropLast.length := lt_of_connection? found
    rw [List.length_dropLast] at bound
    omega
  have kept {np : NodePipe} (member : np ∈ m'.pipes) : np ∈ m.pipes := (List.mem_filter.mp member).1
  have routes : m'.routes.Sublist m.routes := List.filter_sublist.map _
  have wired : m'.Wired := by
    refine ⟨trying.wired.publishers, fun s member => trying.wired.subscribers s
      (List.dropLast_subset _ member), fun route member => ?_, trying.wired.links.sublist (routes.map _),
      trying.wired.connections.sublist (routes.map _)⟩
    obtain ⟨np, there, rfl⟩ := List.mem_map.mp member
    obtain ⟨member, other⟩ := List.mem_filter.mp there
    -- The pipe leads to a subscriber that there is, and not to the last one.
    obtain ⟨link, c, found⟩ := trying.wired.joined _ (List.mem_map.mpr ⟨np, member, rfl⟩)
    have bound : np.subscriber < m.subscribers.length := lt_of_connection? found
    have other : np.subscriber ≠ n.subscribers.length := by simpa using other
    have bound : np.subscriber < n.subscribers.length := by omega
    exact ⟨link, c, (connection _ bound).trans found⟩
  have publishers : m'.publishers = m.publishers := rfl
  have subscribers : m'.subscribers = m.subscribers.dropLast := rfl
  refine ⟨⟨trying.tracks.withdraw kind rfl rfl rfl, fun o' member => ?_, wired, ?_⟩, ?_⟩
  · exact trying.tracks.backed_withdraw kind publishers subscribers member (trying.accepted o' member)
  · refine ⟨still.links, fun i id c found => still.connections i id c
      ((connection id (inside found)).symm.trans found), fun place a b x joins => ?_⟩
    obtain ⟨place', joins'⟩ := joins.old trying.wired (kept (List.mem_of_getElem? joins.pipe))
      (fun l found => found) fun c found => (connection _ (inside joins.connection)).trans found
    exact still.pipes place' a b x joins'
  · exact trying.spares.trans (spares_of_same trying.wired (fun i p _ found => ⟨p, found, rfl⟩)
      (fun _ _ _ _ found => found) (fun i id c known found => (connection id known).trans found)
      fun np member _ => kept member)

theorem Trying.accepts (trying : n.Trying opened o m) (still : m.Still)
    (kind : o.session.kind = .subscriber) {s : Subscriber} {header : Header}
    (found : m.subscribers[o.number]? = some s) (accepted : s.result? 0 = some (.ok header)) :
    m.Kept (opened ++ [o]) := by
  have member : o ∈ opened ++ [o] := List.mem_append_right _ (List.mem_singleton_self o)
  obtain ⟨t, again, held⟩ := (trying.tracks.held o member).subscriber kind
  obtain rfl := Option.some.inj (found.symm.trans again)
  refine ⟨trying.tracks, List.forall_mem_append.mpr ⟨trying.accepted, fun o' there => ?_⟩, trying.wired, still⟩
  rw [List.mem_singleton.mp there]
  exact backed_subscriber kind found ⟨held, header, accepted⟩

/-- The sessions are the same if those that are open are. -/
theorem Kept.sessions_eq (kept : n.Kept opened) (kept' : n'.Kept opened)
    (same : ∀ o ∈ opened, n'.isOpen o = n.isOpen o) : n'.sessions.sessions = n.sessions.sessions := by
  rw [kept'.listed, kept.listed, List.filter_congr same]

/-- The session that a subscriber is given. -/
def subscription (n : Node) (topic typeId : String) : Opened :=
  ⟨⟨n.sessions.nextId, .subscriber, normalizedName topic, typeId⟩, n.subscribers.length⟩

def publication (n : Node) (topic typeId : String) : Opened :=
  ⟨⟨n.sessions.nextId, .publisher, normalizedName topic, typeId⟩, n.publishers.length⟩

/-- An operation that was to open a session has opened it or has failed, and has spared the others. -/
def Opens (n : Node) (opened : List Opened) (o : Opened) (outcome : Except SessionError Nat × Node) : Prop :=
  n.Spares (fun _ => True) (· < n.subscribers.length) outcome.2 ∧
    (outcome.1 = .ok o.number ∧ outcome.2.Kept (opened ++ [o]) ∨
      (∃ e, outcome.1 = .error e) ∧ outcome.2.Kept opened)

theorem Kept.loaded (kept : n.Kept opened) (catalog : Catalog) :
    ({ n with catalog := catalog } : Node).Kept opened ∧
      n.Spares (fun _ => True) (· < n.subscribers.length) { n with catalog := catalog } :=
  ⟨kept.of_same rfl rfl rfl rfl, spares_of_same kept.wired (fun _ p _ found => ⟨p, found, rfl⟩)
    (fun _ _ _ _ found => found) (fun _ _ _ _ found => found) fun _ member _ => member⟩

theorem Trying.concluded (trying : n.Trying opened o m) (still : m.Still)
    (kind : o.session.kind = .subscriber) (number : o.number = n.subscribers.length) {s : Subscriber}
    {answer : Except SessionError Header} (found : m.subscribers[o.number]? = some s)
    (result : s.result? 0 = some answer) :
    n.Opens opened o (m.concluded o.number o.session.id) := by
  cases answer with
  | ok header =>
    rw [Node.concluded, found, Option.bind_some, result]
    exact ⟨trying.spares, .inl ⟨rfl, trying.accepts still kind found result⟩⟩
  | error e =>
    obtain ⟨kept, spares⟩ := trying.withdraw still kind number
    rw [Node.concluded, found, Option.bind_some, result, number]
    exact ⟨spares, .inr ⟨⟨e, rfl⟩, kept⟩⟩

theorem Kept.tries (kept : n.Kept opened) (network : Network) (topic typeId : String) (type : MessageType)
    (remote : Remote) :
    n.Opens opened
      ⟨⟨n.sessions.nextId, .subscriber, topic, typeId⟩, n.subscribers.length⟩
      ((n.tried network topic typeId type remote).concluded n.subscribers.length n.sessions.nextId) := by
  obtain ⟨trying, still, s, answer, found, result⟩ := kept.tried network topic typeId type remote
  exact trying.concluded still rfl rfl found result

/-- To subscribe opens a session, or leaves the sessions as they were. -/
theorem Kept.subscribe (kept : n.Kept opened) (network : Network) (topic typeId : String) (remote : Remote) :
    n.Opens opened (n.subscription topic typeId)
      (n.subscribe network topic typeId remote) := by
  cases loaded : n.loader.load typeId n.catalog with
  | error e catalog =>
    have eq : n.subscribe network topic typeId remote = (.error (.schema e), { n with catalog := catalog }) := by
      simp only [Node.subscribe, load, loaded]
    obtain ⟨kept', spares⟩ := kept.loaded catalog
    rw [eq]
    exact ⟨spares, .inr ⟨⟨_, rfl⟩, kept'⟩⟩
  | ok type catalog =>
    have eq : n.subscribe network topic typeId remote =
        (({ n with catalog := catalog } : Node).tried network (normalizedName topic) typeId type
          remote).concluded n.subscribers.length n.sessions.nextId := by
      simp only [Node.subscribe, load, loaded]
      rfl
    rw [eq]
    obtain ⟨kept', spares⟩ := kept.loaded catalog
    obtain ⟨spares', result⟩ := kept'.tries network (normalizedName topic) typeId type remote
    exact ⟨spares.trans spares', result⟩

theorem Kept.advertise (kept : n.Kept opened) (network : Network) (topic typeId : String) :
    n.Opens opened (n.publication topic typeId) (n.advertise network topic typeId) := by
  cases loaded : n.loader.load typeId n.catalog with
  | error e catalog =>
    have eq : n.advertise network topic typeId = (.error (.schema e), { n with catalog := catalog }) := by
      simp only [Node.advertise, load, loaded]
    obtain ⟨kept', spares⟩ := kept.loaded catalog
    rw [eq]
    exact ⟨spares, .inr ⟨⟨_, rfl⟩, kept'⟩⟩
  | ok type catalog =>
    obtain ⟨kept', spares⟩ := kept.loaded catalog
    simp only [Node.advertise, load, loaded, Publisher.start_new]
    generalize bindFirstFree _ _ _ _ = found
    cases found with
    | error e => exact ⟨spares, .inr ⟨⟨e, rfl⟩, kept'⟩⟩
    | ok endpoint =>
      obtain ⟨same, numbered, ran, listens⟩ :=
        Publisher.started n.callerId (normalizedName topic) type n.publisherSettings endpoint
      generalize (Publisher.step (Publisher.step _ _) _) = p at same numbered ran listens ⊢
      dsimp only
      rw [same]
      obtain ⟨kept'', spares'⟩ := kept'.publisher (normalizedName topic) typeId
        (numbered.step (.onClose _)) ⟨rfl, ran⟩ listens
      refine ⟨?_, .inl ⟨rfl, ?_⟩⟩
      · dsimp only
        exact spares.trans spares'
      · dsimp only
        exact kept''

/-! ### Ending -/

end Node

namespace Connection

variable {s : Subscriber} {c c' : Connection} {move : Subscriber.Move}

/-- A connection that is over, or will be at rest. -/
def Leaves (c : Connection) : Prop :=
  c.stage.phase = .disconnected ∨ c.stopped = true ∨ c.inboxEnded = true

theorem Change.leaves (change : c.Change s move c') (leaves : c.Leaves) : c'.Leaves := by
  cases change with
  | left => exact leaves
  | spared => exact leaves
  | asked => exact .inr (.inl rfl)
  | arrives => exact leaves
  | hangsUp => exact .inr (.inr rfl)
  | own moved =>
    rcases leaves with past | stays
    · exact .inl (moved.over past)
    · cases moved <;> exact .inr stays

end Connection

namespace Subscriber

variable {s : Subscriber} {c : Connection} {hook : CloseHook}

theorem Subscribed.left (subscribed : s.Subscribed hook) (found : s.connection? 0 = some c)
    (rests : Connection.ownMove? c = none) (leaves : c.Leaves) : s.phase = .disconnected := by
  rcases subscribed.at_rest found rests with ⟨-, stage, -⟩ | ⟨phase, -, -⟩
  · unfold Connection.ownMove? at rests
    rw [stage] at rests
    rcases leaves with past | stopped | ended
    · rw [stage] at past
      cases past
    · simp only [stopped, if_true] at rests
      split at rests <;> cases rests
    · simp [Connection.frameReady, ended] at rests
  · exact phase

theorem Held.leaves (held : s.Held hook) {move : Move}
    (ends : move = .close ∨ move = .drop ∨ move = .hangUp 0) :
    ∃ c, (s.step move).connection? 0 = some c ∧ c.Leaves := by
  obtain ⟨c, found⟩ := held.found
  have closing (closing : move = .close ∨ move = .drop) :
      ∃ c, (s.step move).connection? 0 = some c ∧ c.Leaves := by
    have there : (s.step move).connection? 0 = _ := connection?_closing closing
    by_cases past : c.stage.phase = .disconnected
    · obtain ⟨c', found', change⟩ := connection?_step found move
      exact ⟨c', found', change.leaves (.inl past)⟩
    · rw [if_pos (held.kept.current_of_phase found past).1, found] at there
      exact ⟨_, there, .inr (.inl rfl)⟩
  rcases ends with rfl | rfl | rfl
  · exact closing (.inl rfl)
  · exact closing (.inr rfl)
  · exact ⟨_, connection?_hangUp found, .inr (.inr rfl)⟩

end Subscriber

namespace Node

variable {n n' : Node} {opened : List Opened} {o : Opened}

/-- A subscriber that is closed or dropped, or whose publisher hangs up, ends its session. -/
theorem Kept.closed (kept : n.Kept opened) (member : o ∈ opened) (kind : o.session.kind = .subscriber)
    (move : Subscriber.Move) (ends : move = .close ∨ move = .drop ∨ move = .hangUp 0) :
    (n.changeSubscriber o.number (·.step move)).settle.isOpen o = false := by
  have ordinary (s : Subscriber) : s.Ordinary (s.step move) := .of_move s (by
    rcases ends with rfl | rfl | rfl <;> rfl)
  have kept' := kept.changeSubscriber ordinary o.number
  obtain ⟨s, foundS, held⟩ := (kept.tracks.held o member).subscriber kind
  obtain ⟨c, found, leaves⟩ := held.leaves ends
  have found := (connection?_changeSubscriber (·.step move) foundS).trans found
  have wired := kept.wired.follows (Follows.changeSubscriber ordinary n o.number)
  obtain ⟨c', found', leaves⟩ := (settle_follows wired).evolves.connection_keeps
    (motive := Connection.Leaves) found leaves fun change => change.leaves
  have rests := kept'.still.connections _ _ _ found'
  obtain ⟨t, foundT, subscribed⟩ := (kept'.accepted o member).subscriber kind
  obtain ⟨t', again, found'⟩ := Option.bind_eq_some_iff.mp found'
  obtain rfl := Option.some.inj (foundT.symm.trans again)
  rw [isOpen_subscriber kind foundT, subscribed.left found' rests leaves]
  rfl

/-- A publisher that is shut down ends its session. -/
theorem Kept.shutDown (kept : n.Kept opened) (member : o ∈ opened) (kind : o.session.kind = .publisher) :
    (n.changePublisher o.number Publisher.shutdown).settle.isOpen o = false := by
  obtain ⟨p, found, -⟩ := (kept.tracks.held o member).publisher kind
  have there := getElem?_changePublisher o.number Publisher.shutdown found
  rw [if_pos rfl] at there
  have wired := kept.wired.same (.changePublisher Publisher.shutdown_serves n o.number)
    (routes_changePublisher o.number _)
  have later := (settle_follows wired).publishers o.number
  rw [there] at later
  obtain ⟨q, found', ordinary⟩ := exists_of_rel later
  rw [isOpen_publisher kind found', Publisher.endpoint?, ordinary.alike.1.phase]
  rfl

/-! ### Operations -/

/-- What is asked of a node, and what else happens to those that it has. Nobody starts a publisher again,
connects a subscriber again or replaces a hook. -/
inductive Operation where
  | advertise (network : Network) (topic typeId : String)
  | subscribe (network : Network) (topic typeId : String) (remote : Remote)
  | publish (number : Nat) (m : Message)
  /-- A publisher is shut down or given up by its holder. -/
  | shutdown (number : Nat)
  | close (number : Nat)
  /-- A subscriber is given up by its holder. -/
  | drop (number : Nat)
  /-- Something else happens to a publisher: others come, say something or hang up, or a link fails. -/
  | publisher (number : Nat) (move : Publisher.Move) (serving : move.isServing = true)
  /-- Something else happens to a subscriber: its publisher says something or hangs up, or reading fails. -/
  | subscriber (number : Nat) (move : Subscriber.Move) (ordinary : move.isOrdinary = true)
  /-- Everything that has been told is received. -/
  | receive

def perform (n : Node) : Operation → Node
  | .advertise network topic typeId => (n.advertise network topic typeId).2
  | .subscribe network topic typeId remote => (n.subscribe network topic typeId remote).2
  | .publish number m => (n.publish number m).2
  | .shutdown number => n.shutdown number
  | .close number => n.close number
  | .drop number => n.dropSubscriber number
  | .publisher number move _ => (n.changePublisher number (·.step move)).settle
  | .subscriber number move _ => (n.changeSubscriber number (·.step move)).settle
  | .receive => n.receive.2.2

def opens (n : Node) : Operation → List Opened
  | .advertise network topic typeId =>
    match (n.advertise network topic typeId).1 with
    | .ok number => [⟨⟨n.sessions.nextId, .publisher, normalizedName topic, typeId⟩, number⟩]
    | .error _ => []
  | .subscribe network topic typeId remote =>
    match (n.subscribe network topic typeId remote).1 with
    | .ok number => [⟨⟨n.sessions.nextId, .subscriber, normalizedName topic, typeId⟩, number⟩]
    | .error _ => []
  | _ => []

/-- The operation was to open a session and has not. -/
def fails (n : Node) : Operation → Prop
  | .advertise network topic typeId => ∃ e, (n.advertise network topic typeId).1 = .error e
  | .subscribe network topic typeId remote => ∃ e, (n.subscribe network topic typeId remote).1 = .error e
  | _ => False

def run (n : Node) (operations : List Operation) : Node :=
  operations.foldl perform n

/-- The sessions that operations open, in the order in which they do. -/
def openedIn (n : Node) (operations : List Operation) : List Opened :=
  history perform opens n operations

theorem Kept.receive (kept : n.Kept opened) :
    n.receive.2.2.Kept opened ∧ n.Spares (fun _ => True) (fun _ => True) n.receive.2.2 := by
  have publisher (i : Nat) : n.receive.2.2.publishers[i]? =
      (n.publishers[i]?).map fun p => { p with events := p.events.drain.2 } := List.getElem?_map
  have link (number id : Nat) : n.receive.2.2.link? number id = n.link? number id := by
    rw [link?, link?, publisher]
    cases n.publishers[number]? <;> rfl
  have evolves : n.Evolves n.receive.2.2 := by
    refine ⟨fun i => ?_, fun i => rel_refl .refl _, .of_same rfl fun hook => ?_⟩
    · rw [publisher]
      cases n.publishers[i]? with
      | none => exact .none
      | some p => exact .some p.drained_serves
    · rw [hooksRun, hooksRun]
      change hook ∈ (n.publishers.map _).flatMap _ ++ n.subscribers.flatMap _ ↔ _
      rw [List.flatMap_map]
  refine ⟨⟨kept.tracks.evolves evolves, evolves.accepted kept.accepted, kept.wired.same evolves rfl,
    fun number id l found => kept.still.links number id l (link number id ▸ found),
    kept.still.connections, fun place a b x joins => ?_⟩, ?_⟩
  · exact kept.still.pipes place a b x ⟨joins.pipe, link a _ ▸ joins.link, joins.connection⟩
  · refine spares_of_same kept.wired (fun i p _ found => ?_) (fun np _ _ l found => (link _ _).trans found)
      (fun _ _ _ _ found => found) fun _ member _ => member
    rw [publisher, found]
    exact ⟨_, rfl, rfl⟩

theorem Kept.opensNothing (kept : n.Kept opened) : n.Kept (opened ++ []) :=
  (List.append_nil opened).symm ▸ kept

theorem Kept.perform (kept : n.Kept opened) (operation : Operation) :
    (n.perform operation).Kept (opened ++ n.opens operation) := by
  cases operation with
  | advertise network topic typeId =>
    rw [Node.perform, opens]
    obtain ⟨-, ⟨outcome, kept'⟩ | ⟨⟨e, outcome⟩, kept'⟩⟩ := kept.advertise network topic typeId
    · rw [outcome]
      exact kept'
    · rw [outcome]
      exact kept'.opensNothing
  | subscribe network topic typeId remote =>
    rw [Node.perform, opens]
    obtain ⟨-, ⟨outcome, kept'⟩ | ⟨⟨e, outcome⟩, kept'⟩⟩ := kept.subscribe network topic typeId remote
    · rw [outcome]
      exact kept'
    · rw [outcome]
      exact kept'.opensNothing
  | publish number m =>
    refine Kept.opensNothing ?_
    have kept' := kept.changePublisher (Publisher.publish_serves m) number
    rw [Node.perform, Node.publish]
    split
    · exact kept
    · dsimp only
      exact kept'
  | shutdown number =>
    exact (kept.changePublisher Publisher.shutdown_serves number).opensNothing
  | close number =>
    exact (kept.changeSubscriber Subscriber.close_ordinary number).opensNothing
  | drop number =>
    exact (kept.changeSubscriber Subscriber.drop_ordinary number).opensNothing
  | publisher number move serving =>
    exact (kept.changePublisher (fun p => .of_move p serving) number).opensNothing
  | subscriber number move ordinary =>
    exact (kept.changeSubscriber (fun s => .of_move s ordinary) number).opensNothing
  | receive => exact kept.receive.1.opensNothing

def Operation.Ends (o : Opened) : Operation → Prop
  | .shutdown number => o.session.kind = .publisher ∧ o.number = number
  | .close number => o.session.kind = .subscriber ∧ o.number = number
  | .drop number => o.session.kind = .subscriber ∧ o.number = number
  | .subscriber number move _ => o.session.kind = .subscriber ∧ o.number = number ∧ move = .hangUp 0
  | _ => False

/-- The session is that of a subscriber to which a pipe leads from the publisher. -/
def Joined (n : Node) (number : Nat) (o : Opened) : Prop :=
  o.session.kind = .subscriber ∧ ∃ np ∈ n.pipes, np.subscriber = o.number ∧ np.publisher = number

/-- The operation reaches the session, and may end it. -/
def Operation.Reaches (n : Node) (o : Opened) : Operation → Prop
  | .publish number _ => n.Joined number o
  | .shutdown number => o.session.kind = .publisher ∧ o.number = number ∨ n.Joined number o
  | .close number => o.session.kind = .subscriber ∧ o.number = number
  | .drop number => o.session.kind = .subscriber ∧ o.number = number
  | .publisher number move _ =>
    o.session.kind = .publisher ∧ o.number = number ∧ move = .shutdown ∨ n.Joined number o
  | .subscriber number _ _ => o.session.kind = .subscriber ∧ o.number = number
  | _ => False

/-- The hooks that the publisher or the subscriber of a session has run. -/
def ranBy (n : Node) (o : Opened) : List CloseHook :=
  match o.session.kind with
  | .publisher => (n.publishers[o.number]?).elim [] (·.ran)
  | .subscriber => (n.subscribers[o.number]?).elim [] (·.ran)

/-- An operation does not open or close a session that it does not reach. -/
theorem Kept.isOpen_perform (kept : n.Kept opened) (member : o ∈ opened) {operation : Operation}
    (apart : ¬ operation.Reaches n o) : (n.perform operation).isOpen o = n.isOpen o := by
  have kept' := kept.perform operation
  have spared {P K : Nat → Prop} (spares : n.Spares P K (n.perform operation))
      (publisher : o.session.kind = .publisher → P o.number)
      (subscriber : o.session.kind = .subscriber → K o.number) :
      (n.perform operation).isOpen o = n.isOpen o :=
    spares.isOpen kept kept' member (List.mem_append_left _ member) publisher subscriber
  have inside (kind : o.session.kind = .subscriber) : o.number < n.subscribers.length := by
    obtain ⟨s, found, -⟩ := (kept.accepted o member).subscriber kind
    exact (List.getElem?_eq_some_iff.mp found).1
  have unjoined {number : Nat} (apart : ¬ n.Joined number o) (kind : o.session.kind = .subscriber) :
      ∀ np ∈ n.pipes, np.subscriber = o.number → np.publisher ≠ number :=
    fun np member here same => apart ⟨kind, np, member, here, same⟩
  cases operation with
  | receive => exact spared kept.receive.2 (fun _ => trivial) fun _ => trivial
  | advertise network topic typeId =>
    exact spared (kept.advertise network topic typeId).1 (fun _ => trivial) inside
  | subscribe network topic typeId remote =>
    exact spared (kept.subscribe network topic typeId remote).1 (fun _ => trivial) inside
  | publish number m =>
    have spares := kept.spares_changePublisher (P := fun _ => True) number (Publisher.publish_serves m)
      fun _ p => (show p.OpenAlike (p.step (.publish m)) from p.step_openAlike rfl).phase
    refine spared (P := fun _ => True)
      (K := fun i => ∀ np ∈ n.pipes, np.subscriber = i → np.publisher ≠ number) ?_ (fun _ => trivial)
      (unjoined apart)
    rw [Node.perform, Node.publish]
    split
    · exact spares_of_same kept.wired (fun _ p _ found => ⟨p, found, rfl⟩) (fun _ _ _ _ found => found)
        (fun _ _ _ _ found => found) fun _ member _ => member
    · dsimp only
      exact spares
  | shutdown number =>
    obtain ⟨elsewhere, apart⟩ := not_or.mp apart
    have spares := kept.spares_changePublisher (P := (· ≠ number)) number Publisher.shutdown_serves
      fun other => absurd rfl other
    exact spared spares (fun kind same => elsewhere ⟨kind, same⟩) (unjoined apart)
  | close number =>
    have spares := kept.spares_changeSubscriber (P := fun _ => True) (K := (· ≠ number)) number
      Subscriber.close_ordinary fun other => other rfl
    exact spared spares (fun _ => trivial) fun kind same => apart ⟨kind, same⟩
  | drop number =>
    have spares := kept.spares_changeSubscriber (P := fun _ => True) (K := (· ≠ number)) number
      Subscriber.drop_ordinary fun other => other rfl
    exact spared spares (fun _ => trivial) fun kind same => apart ⟨kind, same⟩
  | publisher number move serving =>
    obtain ⟨elsewhere, apart⟩ := not_or.mp apart
    have serves (p : Publisher) : p.Serves (p.step move) := .of_move p serving
    have spares := kept.spares_changePublisher (P := fun i => i = number → move ≠ .shutdown) number serves
      fun other p => by
        have aside : move.turns = false := by
          cases move <;> first | rfl | exact absurd rfl (other rfl) | cases serving
        exact (p.step_openAlike aside).phase
    exact spared spares (fun kind same shutdown => elsewhere ⟨kind, same, shutdown⟩) (unjoined apart)
  | subscriber number move ordinary =>
    have moved (s : Subscriber) : s.Ordinary (s.step move) := .of_move s ordinary
    have spares := kept.spares_changeSubscriber (P := fun _ => True) (K := (· ≠ number)) number moved
      fun other => other rfl
    exact spared spares (fun _ => trivial) fun kind same => apart ⟨kind, same⟩

/-- A session that is to end ends. -/
theorem Kept.ends (kept : n.Kept opened) (member : o ∈ opened) {operation : Operation}
    (ends : operation.Ends o) : (n.perform operation).isOpen o = false := by
  cases operation with
  | shutdown number =>
    obtain ⟨kind, rfl⟩ := ends
    rw [Node.perform, Node.shutdown]
    exact kept.shutDown member kind
  | close number =>
    obtain ⟨kind, rfl⟩ := ends
    rw [Node.perform, Node.close]
    exact kept.closed member kind .close (.inl rfl)
  | drop number =>
    obtain ⟨kind, rfl⟩ := ends
    rw [Node.perform, dropSubscriber]
    exact kept.closed member kind .drop (.inr (.inl rfl))
  | subscriber number move ordinary =>
    obtain ⟨kind, rfl, rfl⟩ := ends
    exact kept.closed member kind (.hangUp 0) (.inr (.inr rfl))
  | _ => exact False.elim ends

/-- An operation that fails to open a session leaves the sessions as they were. -/
theorem Kept.sessions_of_fails (kept : n.Kept opened) {operation : Operation} (fails : n.fails operation) :
    (n.perform operation).sessions.sessions = n.sessions.sessions := by
  have kept' := kept.perform operation
  have none : n.opens operation = [] := by
    cases operation with
    | advertise network topic typeId =>
      obtain ⟨e, failed⟩ := fails
      rw [opens, failed]
    | subscribe network topic typeId remote =>
      obtain ⟨e, failed⟩ := fails
      rw [opens, failed]
    | _ => exact False.elim fails
  rw [none, List.append_nil] at kept'
  refine kept.sessions_eq kept' fun o member => kept.isOpen_perform member fun reaches => ?_
  cases operation with
  | advertise => exact reaches
  | subscribe => exact reaches
  | _ => exact fails

theorem ranBy_of_backed {R : CloseHook → Option CloseHook → List CloseHook → Prop}
    (backed : n.Backed (fun hook p => R hook p.hook p.ran) (fun hook s => R hook s.hook s.ran) o) :
    ∃ left, R (.endSession o.session.id) left (n.ranBy o) := by
  unfold ranBy
  cases kind : o.session.kind with
  | publisher =>
    obtain ⟨p, found, held⟩ := backed.publisher kind
    exact ⟨p.hook, by rwa [found]⟩
  | subscriber =>
    obtain ⟨s, found, held⟩ := backed.subscriber kind
    exact ⟨s.hook, by rwa [found]⟩

theorem Tracks.waits_or_ended (tracks : n.Tracks opened) (member : o ∈ opened) :
    n.Backed (fun hook p => hook.Waits p.hook p.ran) (fun hook s => hook.Waits s.hook s.ran) o ∨
      n.Ended o := by
  have held := tracks.held o member
  cases kind : o.session.kind with
  | publisher =>
    obtain ⟨p, found, held⟩ := held.publisher kind
    exact held.once.imp (backed_publisher kind found) (backed_publisher kind found)
  | subscriber =>
    obtain ⟨s, found, held⟩ := held.subscriber kind
    exact held.once.imp (backed_subscriber kind found) (backed_subscriber kind found)

/-- The holder of a session has run the hook of the session once it is no longer open, and nothing else. -/
theorem Kept.ranBy_eq (kept : n.Kept opened) (member : o ∈ opened) :
    n.ranBy o = if n.isOpen o then [] else [.endSession o.session.id] := by
  cases isOpen : n.isOpen o with
  | false =>
    obtain ⟨left, -, ran⟩ := ranBy_of_backed ((kept.ended_iff member).mpr isOpen)
    exact ran
  | true =>
    rcases kept.tracks.waits_or_ended member with waits | ended
    · obtain ⟨left, -, none⟩ := ranBy_of_backed waits
      exact none
    · rw [(kept.ended_iff member).mp ended] at isOpen
      cases isOpen

/-- What a node keeps of the sessions that were opened through it. -/
structure KeepsSessions (n : Node) (opened : List Opened) : Prop where
  listed : n.sessions.sessions = (opened.filter n.isOpen).map (·.session)
  ids : (opened.map (·.session.id)).Pairwise (· < ·)
  unused : ∀ o ∈ opened, o.session.id < n.sessions.nextId
  numbered : ∀ kind, numbers opened kind = List.range (n.holders kind)
  /-- Where an operation fails, the sessions are as they were. -/
  failed : ∀ operation, n.fails operation →
    (n.perform operation).sessions.sessions = n.sessions.sessions
  ended : ∀ o ∈ opened, ∀ operation : Operation, operation.Ends o → (n.perform operation).isOpen o = false
  spared : ∀ o ∈ opened, ∀ operation : Operation, ¬ operation.Reaches n o →
    (n.perform operation).isOpen o = n.isOpen o
  hooks : ∀ o ∈ opened, n.ranBy o = if n.isOpen o then [] else [.endSession o.session.id]
  /-- Not even one who does not come to rest runs a hook twice. -/
  publisherOnce : ∀ (p : Publisher) (hook : CloseHook) (moves : List Publisher.Move), p.ran = [] →
    (∀ other, .onClose other ∉ moves) → ((p.onClose hook).run moves).ran.length ≤ 1
  subscriberOnce : ∀ (s : Subscriber) (hook : CloseHook) (moves : List Subscriber.Move), s.ran = [] →
    (∀ other, .onClose other ∉ moves) → ((s.onClose hook).run moves).ran.length ≤ 1
  still : n.Still

theorem Kept.keeps (kept : n.Kept opened) : n.KeepsSessions opened := by
  refine ⟨kept.listed, kept.tracks.ascending, kept.tracks.below, kept.tracks.numbered,
    fun _ => kept.sessions_of_fails, fun o member _ => kept.ends member,
    fun o member _ => kept.isOpen_perform member, fun o => kept.ranBy_eq, fun p hook moves none replaced => ?_,
    fun s hook moves none replaced => ?_, kept.still⟩
  · have once : hook.Once (p.onClose hook).hook (p.onClose hook).ran := .inl ⟨rfl, none⟩
    exact (Publisher.once_run once replaced).length_le
  · have once : hook.Once (s.onClose hook).hook (s.onClose hook).ran := .inl ⟨rfl, none⟩
    exact (Subscriber.once_run once replaced).length_le

theorem kept_run (name : String) (loader : Loader) (publisherSettings : PublisherSettings)
    (subscriberSettings : SubscriberSettings) (operations : List Operation) :
    let start : Node := { Node.new name loader with
      publisherSettings := publisherSettings, subscriberSettings := subscriberSettings }
    (start.run operations).Kept (start.openedIn operations) := by
  intro start
  have new : start.Kept [] := by
    refine ⟨⟨rfl, .nil, List.forall_mem_nil _, fun kind => ?_, List.forall_mem_nil _⟩,
      List.forall_mem_nil _, ⟨List.forall_mem_nil _, List.forall_mem_nil _, List.forall_mem_nil _, .nil, .nil⟩,
      fun number id l found => ?_, fun number id c found => ?_, fun place a b x joins => ?_⟩
    · cases kind <;> rfl
    · cases found
    · cases found
    · cases joins.pipe
  refine run_induction (motive := fun operations (n : Node) => n.Kept (start.openedIn operations)) new
    (fun operations operation kept => ?_) operations
  rw [openedIn, history_snoc]
  exact kept.perform operation

/-- Whatever is asked of a new node and happens to it, at rest its sessions are those that were opened
through it and are still open. -/
theorem tracks_sessions (name : String) (loader : Loader) (publisherSettings : PublisherSettings)
    (subscriberSettings : SubscriberSettings) (operations : List Operation) :
    let start : Node := { Node.new name loader with
      publisherSettings := publisherSettings, subscriberSettings := subscriberSettings }
    (start.run operations).KeepsSessions (start.openedIn operations) :=
  (kept_run name loader publisherSettings subscriberSettings operations).keeps

end Node

end TopicWire
