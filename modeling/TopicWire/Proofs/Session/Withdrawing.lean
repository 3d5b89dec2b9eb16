import TopicWire.Proofs.Session.Sessions

/-!
# Publishers that come and go

A publisher that is created, used and shut down leaves the rest of its node as it was
(`Node.Kept.advertised`, `Node.Advertised.leaves`). That a publisher has not published is told by the moves
that led to it (`Publisher.Quiet`).
-/

namespace TopicWire

namespace Publisher

variable {p q : Publisher} {move : Move}

def Move.isQuiet : Move → Bool
  | .publish _ => false
  | _ => true

/-- What becomes of a publisher that publishes nothing. -/
def Quiet (p q : Publisher) : Prop :=
  Reached step Move.isQuiet p q

theorem Ordinary.quiet (ordinary : p.Ordinary q) : p.Quiet q :=
  ordinary.imp fun move known => by cases move <;> first | rfl | cases known

theorem quiet_shutdown (p : Publisher) : p.Quiet p.shutdown :=
  show p.Quiet (p.step .shutdown) from .of_move p rfl

/-- A publisher that finds a port listens and has published nothing. -/
theorem exists_started (callerId topic : String) (type : MessageType) (settings : PublisherSettings)
    {bind : Nat → Binding} {endpoint : Endpoint}
    (bound : bindFirstFree bind settings.host settings.basePort settings.portSearchLimit = .ok endpoint) :
    ∃ p, (new callerId topic type settings).start bind = (.ok endpoint, p) ∧ p.topic = topic ∧
      p.type = type ∧ p.phase = .listening endpoint ∧ p.Numbered ∧
      (new callerId topic type settings).Quiet p := by
  have start := start_new callerId topic type settings bind
  dsimp only at start
  rw [bound] at start
  exact ⟨_, start, rfl, rfl, rfl, ((numbered_new callerId topic type settings).step _).step _,
    .trans (.of_move _ rfl) (.of_move _ rfl)⟩

end Publisher

namespace Node

variable {n n' : Node} {opened : List Opened} {K : Nat → Prop}

theorem Wired.lt_of_route (wired : n.Wired) {route : (Nat × Nat) × Nat × Nat} (member : route ∈ n.routes) :
    route.1.1 < n.publishers.length := by
  obtain ⟨⟨l, link⟩, -⟩ := wired.joined route member
  obtain ⟨p, found, -⟩ := Option.bind_eq_some_iff.mp link
  exact (List.getElem?_eq_some_iff.mp found).1

/-- What a publisher does to which no pipe leads yet reaches nobody. -/
theorem Wired.spares_unjoined (wired : n.Wired) {number : Nat}
    (apart : ∀ route ∈ n.routes, route.1.1 < number) (change : Publisher → Publisher) :
    n.Spares (· < number) K (n.changePublisher number change) := by
  have spares : n.Spares (· < number) (fun i => ∀ np ∈ n.pipes, np.subscriber = i → np.publisher ≠ number)
      (n.changePublisher number change) :=
    spares_changePublisher wired fun inside => absurd inside (Nat.lt_irrefl number)
  exact spares.imp (fun _ => id) fun _ _ np member _ =>
    Nat.ne_of_lt (apart _ (List.mem_map.mpr ⟨np, member, rfl⟩))

/-- A node after a publisher has been created and started. -/
structure Advertised (n : Node) (opened : List Opened) (topic typeId : String) (type : MessageType)
    (n' : Node) : Prop where
  kept : n'.Kept (opened ++ [n.publication topic typeId])
  spares : n.Spares (· < n.publishers.length) (· < n.subscribers.length) n'
  old : ∀ (number : Nat) (p : Publisher), n.publishers[number]? = some p →
    ∃ q, n'.publishers[number]? = some q ∧ p.Quiet q
  new : ∃ p, n'.publishers[n.publishers.length]? = some p ∧ p.type = type ∧ p.phase ≠ .closed ∧
    (Publisher.new n.callerId (normalizedName topic) type n.publisherSettings).Quiet p
  length : n'.publishers.length = n.publishers.length + 1
  apart : ∀ route ∈ n'.routes, route.1.1 < n.publishers.length

theorem Kept.advertised (kept : n.Kept opened) (topic : String) {network : Network} {typeId : String}
    {type : MessageType} {catalog : Catalog} {endpoint : Endpoint}
    (loaded : n.loader.load typeId n.catalog = .ok type catalog)
    (bound : bindFirstFree (network.bind n.publisherSettings.host) n.publisherSettings.host
      n.publisherSettings.basePort n.publisherSettings.portSearchLimit = .ok endpoint) :
    ∃ n', n.advertise network topic typeId = (.ok n.publishers.length, n') ∧
      n.Advertised opened topic typeId type n' := by
  obtain ⟨p, start, topicEq, typeEq, phase, numbered, begun⟩ :=
    Publisher.exists_started n.callerId (normalizedName topic) type n.publisherSettings bound
  let joined : Node := { n with
    catalog := catalog
    sessions := (n.sessions.insert .publisher p.topic typeId).2
    publishers := n.publishers ++ [p.step (.onClose (.endSession n.sessions.nextId))] }
  have eq : n.advertise network topic typeId = (.ok n.publishers.length, joined.settle) := by
    simp only [Node.advertise, load, loaded]
    have host : (Publisher.new n.callerId (normalizedName topic) type n.publisherSettings).settings.host =
      n.publisherSettings.host := rfl
    rw [host, start]
    rfl
  have wired : joined.Wired :=
    kept.wired.grows rfl (List.append_nil _).symm rfl (List.forall_mem_singleton.mpr (numbered.step _))
      (List.forall_mem_nil _)
  have publishers : joined.publishers =
      n.publishers ++ [p.step (.onClose (.endSession n.sessions.nextId))] := rfl
  have routes : joined.routes = n.routes := rfl
  clear_value joined
  have follows := settle_follows wired
  have opens := kept.advertise network topic typeId
  rw [eq] at opens
  obtain ⟨spares, outcome⟩ := opens
  dsimp only at spares outcome
  generalize joined.settle = n' at eq follows spares outcome ⊢
  obtain ⟨-, kept'⟩ | ⟨⟨e, failed⟩, -⟩ := outcome
  swap
  · cases failed
  refine ⟨n', eq, kept', spares.imp (fun _ _ => trivial) (fun _ => id), fun number q found => ?_, ?_,
    ?_, fun route member => ?_⟩
  · obtain ⟨inside, -⟩ := List.getElem?_eq_some_iff.mp found
    have there : joined.publishers[number]? = some q := by
      rw [publishers, List.getElem?_append_left inside, found]
    have later := follows.publishers number
    rw [there] at later
    obtain ⟨r, found', ordinary⟩ := exists_of_rel later
    exact ⟨r, found', ordinary.quiet⟩
  · have there : joined.publishers[n.publishers.length]? =
        some (p.step (.onClose (.endSession n.sessions.nextId))) := by
      rw [publishers, List.getElem?_concat_length]
    have later := follows.publishers n.publishers.length
    rw [there] at later
    obtain ⟨q, found, ordinary⟩ := exists_of_rel later
    refine ⟨q, found, ?_, ?_, (begun.trans (.of_move _ rfl)).trans ordinary.quiet⟩
    · obtain ⟨moves, same, -⟩ := ordinary
      rw [same]
      exact ((p.step_alike _).trans (Publisher.run_alike _ moves)).2.2.1.trans typeEq
    · rw [ordinary.alike.1.phase]
      exact phase ▸ PublisherPhase.noConfusion
  · rw [← length_of_rel follows.publishers, publishers, List.length_append]
    rfl
  · rw [follows.routes, routes] at member
    exact kept.wired.lt_of_route member

/-- What a command leaves of a node: the sessions are as they were, the publishers that were there have
published nothing, and those that are new are closed. -/
structure Leaves (n n' : Node) : Prop where
  sessions : n'.sessions.sessions = n.sessions.sessions
  old : ∀ (number : Nat) (p : Publisher), n.publishers[number]? = some p →
    ∃ q, n'.publishers[number]? = some q ∧ p.Quiet q
  new : ∀ q ∈ n'.publishers.drop n.publishers.length, q.phase = .closed

/-- A publisher that is shut down is closed, and the others go on. Nobody publishes. -/
theorem shutdown_publishers {number : Nat} (wired : (n.changePublisher number Publisher.shutdown).Wired)
    {i : Nat} {p : Publisher} (found : n.publishers[i]? = some p) :
    ∃ q, (n.shutdown number).publishers[i]? = some q ∧ p.Quiet q ∧ (number = i → q.phase = .closed) := by
  have there := getElem?_changePublisher number Publisher.shutdown found
  have later := (settle_follows wired).publishers i
  rw [there] at later
  obtain ⟨q, found', ordinary⟩ := exists_of_rel later
  refine ⟨q, found', ?_, fun here => ?_⟩
  · split at ordinary
    · exact p.quiet_shutdown.trans ordinary.quiet
    · exact ordinary.quiet
  · rw [if_pos here] at ordinary
    rw [ordinary.alike.1.phase]
    rfl

/-- The session of a publisher that is closed has ended, and the others are as open as they were. -/
theorem Kept.sessions_of_closed {topic typeId : String} {q : Publisher} (kept : n.Kept opened)
    (kept' : n'.Kept (opened ++ [n.publication topic typeId]))
    (spares : n.Spares (· < n.publishers.length) (· < n.subscribers.length) n')
    (found : n'.publishers[n.publishers.length]? = some q) (closed : q.phase = .closed) :
    n'.sessions.sessions = n.sessions.sessions := by
  have ended : n'.isOpen (n.publication topic typeId) = false := by
    have listens : n'.isOpen (n.publication topic typeId) = q.endpoint?.isSome := isOpen_publisher rfl found
    rw [listens, Publisher.endpoint?, closed]
    rfl
  have others : ∀ o ∈ opened, n'.isOpen o = n.isOpen o := by
    intro o member
    refine spares.isOpen kept kept' member (List.mem_append_left _ member) (fun kind => ?_) fun kind => ?_
    · obtain ⟨p, there, -⟩ := (kept.accepted o member).publisher kind
      exact (List.getElem?_eq_some_iff.mp there).1
    · obtain ⟨s, there, -⟩ := (kept.accepted o member).subscriber kind
      exact (List.getElem?_eq_some_iff.mp there).1
  rw [kept'.listed, kept.listed, List.filter_append, List.filter_congr others,
    List.filter_cons_of_neg (by simp [ended]), List.filter_nil, List.append_nil]

/-- A publisher that was created is shut down, whatever it has done in the meantime. -/
theorem Advertised.leaves {topic typeId : String} {type : MessageType} {n₁ n₂ : Node} {q : Publisher}
    (kept : n.Kept opened) (advertised : n.Advertised opened topic typeId type n₁)
    (evolves : n₁.Evolves n₂) (routes : n₂.routes = n₁.routes)
    (spares : n₁.Spares (· < n.publishers.length) (· < n.subscribers.length) n₂)
    (others : ∀ i, i < n.publishers.length → n₂.publishers[i]? = n₁.publishers[i]?)
    (found : n₂.publishers[n.publishers.length]? = some q) :
    n.Leaves (n₂.shutdown n.publishers.length) ∧
      ∃ r, (n₂.shutdown n.publishers.length).publishers.drop n.publishers.length = [r] ∧ q.Quiet r := by
  have wired₂ := advertised.kept.wired.same evolves routes
  have shuts := Evolves.changePublisher Publisher.shutdown_serves n₂ n.publishers.length
  have wired₃ := wired₂.same shuts (routes_changePublisher _ _)
  have follows := settle_follows wired₃
  have kept₃ : (n₂.shutdown n.publishers.length).Kept (opened ++ [n.publication topic typeId]) :=
    advertised.kept.settle (evolves.trans shuts) ((routes_changePublisher _ _).trans routes)
  have spares₃ : n.Spares (· < n.publishers.length) (· < n.subscribers.length)
      (n₂.shutdown n.publishers.length) :=
    ((advertised.spares.trans spares).trans
      (wired₂.spares_unjoined (routes ▸ advertised.apart) _)).trans (spares_settle wired₃)
  have publishers {i : Nat} {p : Publisher} (there : n₂.publishers[i]? = some p) :=
    shutdown_publishers wired₃ there
  have length : (n₂.shutdown n.publishers.length).publishers.length = n.publishers.length + 1 := by
    rw [shutdown, ← length_of_rel follows.publishers, ← length_of_rel shuts.publishers,
      ← length_of_rel evolves.publishers, advertised.length]
  generalize n₂.shutdown n.publishers.length = n₃ at kept₃ spares₃ publishers length ⊢
  obtain ⟨r, found', quiet, closed⟩ := publishers found
  have last : n₃.publishers.drop n.publishers.length = [r] := by
    obtain ⟨inside, rfl⟩ := List.getElem?_eq_some_iff.mp found'
    rw [List.drop_eq_getElem_cons inside, List.drop_of_length_le (Nat.le_of_eq length)]
  refine ⟨⟨kept.sessions_of_closed kept₃ spares₃ found' (closed rfl), fun i p there => ?_,
    fun r' member => ?_⟩, r, last, quiet⟩
  · obtain ⟨p', there', quiet₁⟩ := advertised.old i p there
    have inside := (List.getElem?_eq_some_iff.mp there).1
    obtain ⟨p'', there'', quiet₂, -⟩ := publishers ((others i inside).trans there')
    exact ⟨p'', there'', quiet₁.trans quiet₂⟩
  · rw [last, List.mem_singleton] at member
    exact member ▸ closed rfl

theorem leaves_of_same (publishers : n'.publishers = n.publishers) (sessions : n'.sessions = n.sessions) :
    n.Leaves n' where
  sessions := by rw [sessions]
  old number p found := ⟨p, by rw [publishers, found], .refl p⟩
  new q member := by
    rw [publishers, List.drop_length] at member
    cases member

/-- Publishers that are new have published nothing. -/
def CreatesQuiet (n : Node) (topic : String) (n' : Node) : Prop :=
  ∀ q ∈ n'.publishers.drop n.publishers.length, ∃ type,
    (Publisher.new n.callerId (normalizedName topic) type n.publisherSettings).Quiet q

theorem createsQuiet_of_same {topic : String} (publishers : n'.publishers = n.publishers) :
    n.CreatesQuiet topic n' := by
  intro q member
  rw [publishers, List.drop_length] at member
  cases member

end Node

end TopicWire
