import TopicWire.Proofs.Session.Tracking

/-!
# What a change leaves alone

New publishers, subscribers and pipes leave a node wired (`Node.Wired.grows`, `Node.Wired.join`). While a
subscriber is tried, and while others are closed, a session is neither opened nor closed (`Node.Spares`).
-/

namespace TopicWire.Node

variable {n n' : Node} {opened : List Opened} {o : Opened} {number id place : Nat}

theorem link?_grows (publishers : n.publishers <+: n'.publishers) {l : Link}
    (found : n.link? number id = some l) : n'.link? number id = some l := by
  obtain ⟨p, foundP, found⟩ := Option.bind_eq_some_iff.mp found
  obtain ⟨inside, rfl⟩ := List.getElem?_eq_some_iff.mp foundP
  exact Option.bind_eq_some_iff.mpr ⟨_, List.prefix_iff_getElem?.mp publishers _ inside, found⟩

theorem connection?_grows (subscribers : n.subscribers <+: n'.subscribers) {c : Connection}
    (found : n.connection? number id = some c) : n'.connection? number id = some c := by
  obtain ⟨s, foundS, found⟩ := Option.bind_eq_some_iff.mp found
  obtain ⟨inside, rfl⟩ := List.getElem?_eq_some_iff.mp foundS
  exact Option.bind_eq_some_iff.mpr ⟨_, List.prefix_iff_getElem?.mp subscribers _ inside, found⟩

theorem lt_of_connection? {c : Connection} (found : n.connection? number id = some c) :
    number < n.subscribers.length := by
  obtain ⟨s, foundS, -⟩ := Option.bind_eq_some_iff.mp found
  exact (List.getElem?_eq_some_iff.mp foundS).1

theorem connection?_changeSubscriber {s : Subscriber} (change : Subscriber → Subscriber)
    (found : n.subscribers[number]? = some s) :
    (n.changeSubscriber number change).connection? number id = (change s).connection? id := by
  rw [connection?, changeSubscriber_subscribers, List.getElem?_modify_eq, found]
  rfl

/-! ### Staying wired -/

theorem getElem?_changePublisher {p : Publisher} {i : Nat} (number : Nat) (change : Publisher → Publisher)
    (found : n.publishers[i]? = some p) :
    (n.changePublisher number change).publishers[i]? = some (if number = i then change p else p) := by
  rw [changePublisher_publishers, List.getElem?_modify, found]
  split <;> rfl

theorem Wired.grows (wired : n.Wired) {ps : List Publisher} {ss : List Subscriber}
    (publishers : n'.publishers = n.publishers ++ ps) (subscribers : n'.subscribers = n.subscribers ++ ss)
    (pipes : n'.pipes = n.pipes) (numbered : ∀ p ∈ ps, p.Numbered)
    (ready : ∀ s ∈ ss, s.Numbered ∧ 0 < s.events.capacity) : n'.Wired := by
  have routes : n'.routes = n.routes := by
    unfold routes
    rw [pipes]
  refine ⟨?_, ?_, fun route member => ?_, routes ▸ wired.links, routes ▸ wired.connections⟩
  · rw [publishers]
    exact List.forall_mem_append.mpr ⟨wired.publishers, numbered⟩
  · rw [subscribers]
    exact List.forall_mem_append.mpr ⟨wired.subscribers, ready⟩
  · rw [routes] at member
    obtain ⟨⟨l, link⟩, c, connection⟩ := wired.joined route member
    exact ⟨⟨l, link?_grows ⟨ps, publishers.symm⟩ link⟩, c,
      connection?_grows ⟨ss, subscribers.symm⟩ connection⟩

theorem accept_serves (peer : Publisher → Endpoint) (p : Publisher) :
    p.Serves (p.accept (peer p)) :=
  (p.accept_reached (peer p)).imp fun move known => by cases move <;> first | rfl | cases known

/-- A publisher accepts a subscriber that no pipe leads to. -/
theorem Wired.join (wired : n.Wired) {target : Nat} {p : Publisher} (peer : Publisher → Endpoint)
    (found : n.publishers[target]? = some p) {listener : Listener} (free : p.free? = some listener)
    {c : Connection}
    (connection : n.connection? number id = some c) (fresh : ∀ route ∈ n.routes, route.2 ≠ (number, id)) :
    ({ n.changePublisher target (fun p => p.accept (peer p)) with
        pipes := n.pipes ++ [⟨target, number, ⟨p.nextLink, id, 0, 0⟩⟩] } : Node).Wired := by
  have numbered := wired.publishers p (List.mem_of_getElem? found)
  have evolves := Evolves.changePublisher (accept_serves peer) n target
  have unlinked (route : (Nat × Nat) × Nat × Nat) (member : route ∈ n.routes) :
      route.1 ≠ (target, p.nextLink) := by
    intro same
    obtain ⟨⟨l, link⟩, -⟩ := wired.joined route member
    rw [same] at link
    obtain ⟨q, found', link⟩ := Option.bind_eq_some_iff.mp link
    obtain rfl := Option.some.inj (found.symm.trans found')
    have absent := numbered.link?_eq_none_iff.mpr (Nat.le_refl _)
    cases absent.symm.trans link
  have routes : ({ n.changePublisher target (fun p => p.accept (peer p)) with
      pipes := n.pipes ++ [⟨target, number, ⟨p.nextLink, id, 0, 0⟩⟩] } : Node).routes =
        n.routes ++ [((target, p.nextLink), number, id)] := by
    unfold Node.routes
    rw [List.map_append]
    rfl
  refine wired.evolves ⟨evolves.publishers, evolves.subscribers, evolves.sessions⟩
    (fun route member => ?_) ?_ ?_
  · rw [routes] at member
    rcases List.mem_append.mp member with old | new
    · obtain ⟨⟨l, link⟩, c, connection⟩ := wired.joined route old
      exact ⟨evolves.link? link, evolves.connection? connection⟩
    · obtain rfl := List.mem_singleton.mp new
      obtain ⟨l, link⟩ := Publisher.link?_accept numbered free (peer p)
      have there := getElem?_changePublisher target (fun p => p.accept (peer p)) found
      rw [if_pos rfl] at there
      exact ⟨⟨l, Option.bind_eq_some_iff.mpr ⟨_, there, link⟩⟩, evolves.connection? connection⟩
  · rw [routes, List.map_append]
    refine List.nodup_append.mpr ⟨wired.links, List.nodup_singleton _, fun a there b last => ?_⟩
    obtain ⟨route, member, rfl⟩ := List.mem_map.mp there
    obtain rfl := List.mem_singleton.mp last
    exact unlinked route member
  · rw [routes, List.map_append]
    refine List.nodup_append.mpr ⟨wired.connections, List.nodup_singleton _, fun a there b last => ?_⟩
    obtain ⟨route, member, rfl⟩ := List.mem_map.mp there
    obtain rfl := List.mem_singleton.mp last
    exact fresh route member

/-! ### Sparing the others -/

/-- A pipe that was there before joins the same as before. -/
theorem Joins.old {publisher subscriber : Nat} {x : Line} (joins : n'.Joins place publisher subscriber x)
    (wired : n.Wired) (there : ⟨publisher, subscriber, x.pipe⟩ ∈ n.pipes)
    (links : ∀ l, n.link? publisher x.pipe.link = some l → n'.link? publisher x.pipe.link = some l)
    (connections : ∀ c, n.connection? subscriber x.pipe.connection = some c →
      n'.connection? subscriber x.pipe.connection = some c) :
    ∃ place, n.Joins place publisher subscriber x := by
  obtain ⟨place', found⟩ := List.mem_iff_getElem?.mp there
  obtain ⟨y, joins'⟩ := wired.joins found
  have pipe : x.pipe = y.pipe := congrArg NodePipe.pipe (Option.some.inj (found.symm.trans joins'.pipe))
  refine ⟨place', found, ?_, ?_⟩
  · have link := joins'.link
    rw [← pipe] at link
    rw [← joins.link, links _ link, link]
  · have connection := joins'.connection
    rw [← pipe] at connection
    rw [← joins.connection, connections _ connection, connection]

/-- These publishers are in the phases in which they were, and connections of these subscribers that were at
rest still are. -/
structure Spares (P K : Nat → Prop) (n n' : Node) : Prop where
  phases : ∀ (number : Nat) (p : Publisher), P number → n.publishers[number]? = some p →
    ∃ q : Publisher, n'.publishers[number]? = some q ∧ q.phase = p.phase
  calm : ∀ number id c, K number → n.Calm number id c → n'.Calm number id c

variable {P P' K K' : Nat → Prop}

theorem Spares.refl (n : Node) : n.Spares P K n :=
  ⟨fun _ p _ found => ⟨p, found, rfl⟩, fun _ _ _ _ calm => calm⟩

theorem Spares.imp (spares : n.Spares P K n') (publishers : ∀ number, P' number → P number)
    (subscribers : ∀ number, K' number → K number) : n.Spares P' K' n' :=
  ⟨fun number p known => spares.phases number p (publishers number known),
    fun number id c known => spares.calm number id c (subscribers number known)⟩

theorem Spares.trans {n'' : Node} (first : n.Spares P K n') (second : n'.Spares P K n'') :
    n.Spares P K n'' := by
  refine ⟨fun number p known found => ?_, fun number id c known calm =>
    second.calm number id c known (first.calm number id c known calm)⟩
  obtain ⟨q, found', phase⟩ := first.phases number p known found
  obtain ⟨r, found'', phase'⟩ := second.phases number q known found'
  exact ⟨r, found'', phase'.trans phase⟩

theorem spares_of_same (wired : n.Wired)
    (phases : ∀ (number : Nat) (p : Publisher), P number → n.publishers[number]? = some p →
      ∃ q : Publisher, n'.publishers[number]? = some q ∧ q.phase = p.phase)
    (links : ∀ np ∈ n.pipes, K np.subscriber → ∀ l, n.link? np.publisher np.pipe.link = some l →
      n'.link? np.publisher np.pipe.link = some l)
    (connections : ∀ number id c, K number → n.connection? number id = some c →
      n'.connection? number id = some c)
    (pipes : ∀ np ∈ n'.pipes, K np.subscriber → np ∈ n.pipes) : n.Spares P K n' := by
  refine ⟨phases, fun number id c known calm => ⟨connections number id c known calm.found, calm.rests,
    fun place publisher x joins same => ?_⟩⟩
  have there := pipes _ (List.mem_of_getElem? joins.pipe) known
  obtain ⟨place', joins'⟩ := joins.old wired there (links _ there known) fun c => connections number _ c known
  exact calm.line place' publisher x joins' same

theorem spares_settle (wired : n.Wired) : n.Spares P K n.settle := by
  refine ⟨fun number p _ found => ?_, fun number id c _ calm => calm.settle wired⟩
  have later := (settle_follows wired).publishers number
  rw [found] at later
  obtain ⟨q, found', ordinary⟩ := exists_of_rel later
  exact ⟨q, found', ordinary.alike.1.phase⟩

theorem spares_changeSubscriber (wired : n.Wired) (change : Subscriber → Subscriber) (apart : ¬ K number) :
    n.Spares P K (n.changeSubscriber number change) := by
  obtain ⟨publishers, pipes⟩ := changeSubscriber_others (n := n) number change
  refine spares_of_same wired (fun i p _ found => ⟨p, publishers ▸ found, rfl⟩) (fun np _ _ l found => ?_)
    (fun i id c known found => ?_) fun np member _ => pipes ▸ member
  · rw [link?, publishers]
    exact found
  · have other : number ≠ i := by
      rintro rfl
      exact apart known
    rw [connection?, changeSubscriber_subscribers, List.getElem?_modify_ne _ _ other]
    exact found

/-- A publisher accepts one of the subscribers that came later. -/
theorem spares_join (wired : n.Wired) {target : Nat} (peer : Publisher → Endpoint)
    (pipe : Pipe) (apart : ¬ K number) :
    n.Spares P K { n.changePublisher target (fun p => p.accept (peer p)) with
      pipes := n.pipes ++ [⟨target, number, pipe⟩] } := by
  refine spares_of_same wired (fun i p _ there => ⟨_, getElem?_changePublisher _ _ there, ?_⟩)
    (fun np _ _ l there => ?_) (fun i id c _ there => ?_) fun np member known => ?_
  · split
    · refine (p.accept_reached (peer p)).keeps (motive := (·.phase = p.phase)) rfl fun q move known held => ?_
      have aside : move.turns = false := by cases move <;> first | rfl | cases known
      exact (q.step_openAlike aside).phase.trans held
    · rfl
  · obtain ⟨p, there, link⟩ := Option.bind_eq_some_iff.mp there
    refine Option.bind_eq_some_iff.mpr ⟨_, getElem?_changePublisher _ _ there, ?_⟩
    split
    · obtain ⟨moves, eq, all⟩ := p.accept_reached (peer p)
      have apart : ∀ move ∈ moves, move.leaves np.pipe.link = true := fun move there => by
        have known := all move there
        cases move <;> first | rfl | cases known
      rw [eq]
      exact (Publisher.link?_run_of_leaves link apart).1
    · exact link
  · rw [connection?]
    change (n.changePublisher target _).subscribers[i]?.bind _ = _
    rw [(changePublisher_others target _).1]
    exact there
  · rcases List.mem_append.mp member with old | new
    · exact old
    · rw [List.mem_singleton.mp new] at known
      exact absurd known apart

/-- What a publisher does reaches only the subscribers to which a pipe leads from it. -/
theorem spares_changePublisher (wired : n.Wired) {change : Publisher → Publisher}
    (phase : P number → ∀ p : Publisher, (change p).phase = p.phase) :
    n.Spares P (fun i => ∀ np ∈ n.pipes, np.subscriber = i → np.publisher ≠ number)
      (n.changePublisher number change) := by
  obtain ⟨subscribers, pipes⟩ := changePublisher_others (n := n) number change
  refine spares_of_same wired (fun i p known there => ⟨_, getElem?_changePublisher _ _ there, ?_⟩)
    (fun np member apart l there => ?_) (fun i id c _ there => ?_) fun np member _ => pipes ▸ member
  · split
    · rename_i here
      exact phase (here ▸ known) p
    · rfl
  · obtain ⟨p, there, link⟩ := Option.bind_eq_some_iff.mp there
    refine Option.bind_eq_some_iff.mpr ⟨_, getElem?_changePublisher _ _ there, ?_⟩
    rwa [if_neg (Ne.symm (apart np member rfl))]
  · rw [connection?, subscribers]
    exact there

/-- Sessions that were spared are as open as they were. -/
theorem Spares.isOpen {opened' : List Opened} (spares : n.Spares P K n') (kept : n.Kept opened)
    (kept' : n'.Kept opened') (member : o ∈ opened) (member' : o ∈ opened')
    (publisher : o.session.kind = .publisher → P o.number)
    (subscriber : o.session.kind = .subscriber → K o.number) : n'.isOpen o = n.isOpen o := by
  cases kind : o.session.kind with
  | publisher =>
    obtain ⟨p, found, -⟩ := (kept.accepted o member).publisher kind
    obtain ⟨q, found', phase⟩ := spares.phases o.number p (publisher kind) found
    rw [isOpen_publisher kind found, isOpen_publisher kind found', Publisher.endpoint?, phase]
    rfl
  | subscriber =>
    obtain ⟨s, found, subscribed⟩ := (kept.accepted o member).subscriber kind
    obtain ⟨t, found', subscribed'⟩ := (kept'.accepted o member').subscriber kind
    obtain ⟨c, there⟩ := subscribed.held.found
    have connection : n.connection? o.number 0 = some c := Option.bind_eq_some_iff.mpr ⟨s, found, there⟩
    have calm := spares.calm o.number 0 c (subscriber kind) (kept.still.calm connection)
    obtain ⟨t', again, there'⟩ := Option.bind_eq_some_iff.mp calm.found
    obtain rfl := Option.some.inj (found'.symm.trans again)
    rw [isOpen_subscriber kind found, isOpen_subscriber kind found', subscribed.held.phase there,
      subscribed'.held.phase there']

end TopicWire.Node
