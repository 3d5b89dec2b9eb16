import TopicWire.Proofs.Session.Spares

/-!
# Trying to subscribe

A subscriber that is new to a node is tried: it dials, and what comes of this is known when the node has
come to rest and the publisher's header is too late (`Node.Trying.answered`).
-/

namespace TopicWire

namespace Connection

variable {s : Subscriber} {c c' : Connection} {hook : CloseHook} {left : Option CloseHook}
  {ran : List CloseHook} {move : Subscriber.Move}

/-- A connection that is no longer connecting does not begin again. -/
theorem Change.tried (change : c.Change s move c') (past : c.stage.phase ≠ .connecting) :
    c'.stage.phase ≠ .connecting := by
  rcases change.stage_eq with same | ⟨own, -, moved⟩
  · rwa [same]
  · cases moved with
    | rests => exact past
    | dials stage => rw [stage] at past; exact absurd rfl past
    | requests stage => rw [stage] at past; exact absurd rfl past
    | requested stage => rw [stage] at past; exact absurd rfl past
    | _ => exact fun connecting => by cases connecting

/-- At rest a connection that is no longer connecting has an answer. -/
theorem Holds.answered (holds : c.Holds hook left ran)
    (rests : Subscriber.Connection.ownMove? c = none) (past : c.stage.phase ≠ .connecting) :
    ∃ answer, c.result = some answer := by
  unfold Subscriber.Connection.ownMove? at rests
  unfold Holds at holds
  cases stage : c.stage with
  | reading =>
    rw [stage] at holds
    obtain ⟨⟨header, accepted⟩, -⟩ := holds
    exact ⟨_, accepted⟩
  | done =>
    rw [stage] at holds
    rcases holds with ⟨⟨header, accepted⟩, -⟩ | ⟨⟨e, failed⟩, -⟩
    · exact ⟨_, accepted⟩
    · exact ⟨_, failed⟩
  | dialling => rw [stage] at past; exact absurd rfl past
  | handshake => rw [stage] at past; exact absurd rfl past
  | _ => simp [stage] at rests

end Connection

namespace Subscriber

variable {s : Subscriber} {c : Connection} {id : Nat}

theorem meet_ordinary (s : Subscriber) (connection : Nat) (outcome : Dialling) (bytes : Bytes)
    (hangsUp : Bool) : s.Ordinary (s.meet connection outcome bytes hangsUp) := by
  refine ⟨[.connection connection (.dialled outcome), .arrive connection bytes] ++
    if hangsUp then [.hangUp connection] else [], ?_, ?_⟩
  · unfold meet
    cases hangsUp <;> rfl
  · cases hangsUp <;> simp [Move.isOrdinary]

/-- An attempt that fails is over. -/
theorem connection?_of_fails {move : ConnectionMove} {e : SessionError} (found : s.connection? id = some c)
    (fails : c.Fails s.type.digest move e) :
    (s.step (.connection id move)).connection? id =
      some { c with stage := .done, result := some (.error e) } := by
  rw [step_of_fails found fails, connection?_failConnect found]

theorem connection?_dialled (found : s.connection? id = some c) (outcome : Dialling) :
    ∃ c', (s.step (.connection id (.dialled outcome))).connection? id = some c' ∧
      c'.stage ≠ .dialling := by
  by_cases stage : c.stage = .dialling
  · cases outcome with
    | failed cause => exact ⟨_, connection?_of_fails found (.refused stage), ConnectionStage.noConfusion⟩
    | connected =>
      have same := id_of_connection? found
      have dialled : s.step (.connection id (.dialled .connected)) =
          s.changeConnection id fun c => { c with stage := .requesting s.request.encode } := by
        simp only [step, found, connectionStep, stage, enter, same]
      rw [dialled, connection?_changeConnection (by exact fun _ => rfl), if_pos rfl, found]
      exact ⟨_, rfl, ConnectionStage.noConfusion⟩
  · obtain ⟨c', found', moved⟩ := connection?_own found (.dialled outcome)
    exact ⟨c', found', Connection.Change.reached (.own moved) stage⟩

/-- Whatever comes of dialling, it is no longer being dialled. -/
theorem connection?_meet (found : s.connection? id = some c) (outcome : Dialling) (bytes : Bytes)
    (hangsUp : Bool) : ∃ c', (s.meet id outcome bytes hangsUp).connection? id = some c' ∧
      c'.stage ≠ .dialling := by
  obtain ⟨c₁, found₁, reached⟩ := connection?_dialled found outcome
  obtain ⟨c₂, found₂, change⟩ := connection?_step found₁ (.arrive id bytes)
  have reached := change.reached reached
  unfold meet
  cases hangsUp with
  | false => exact ⟨c₂, found₂, reached⟩
  | true =>
    obtain ⟨c₃, found₃, change⟩ := connection?_step found₂ (.hangUp id)
    exact ⟨c₃, found₃, change.reached reached⟩

/-- At rest the time for the publisher's header ends the attempt. -/
theorem connection?_timeout (found : s.connection? id = some c)
    (rests : Connection.ownMove? c = none) (reached : c.stage ≠ .dialling) :
    ∃ c', (s.step (.connection id .timeout)).connection? id = some c' ∧
      c'.stage.phase ≠ .connecting := by
  by_cases waits : c.stage = .handshake
  · exact ⟨_, connection?_of_fails found (.late waits), SubscriberPhase.noConfusion⟩
  · have past : c.stage.phase ≠ .connecting := by
      unfold Connection.ownMove? at rests
      cases stage : c.stage with
      | dialling => exact absurd stage reached
      | handshake => exact absurd stage waits
      | requesting left => simp [stage] at rests
      | _ => exact SubscriberPhase.noConfusion
    obtain ⟨c', found', moved⟩ := connection?_own found .timeout
    exact ⟨c', found', Connection.Change.tried (.own moved) past⟩

/-- A subscriber that begins to connect holds its hook. -/
theorem held_connect (callerId topic : String) (type : MessageType) (settings : SubscriberSettings)
    (hook : CloseHook) :
    (((new callerId topic type settings).onClose hook).step .connect).Held hook := by
  refine ⟨((Kept.new callerId topic type settings).step (.onClose hook)).step .connect, rfl, ?_,
    fun c found => ?_⟩
  · exact Nat.lt_of_lt_of_le Nat.zero_lt_one (Nat.le_max_right _ _)
  · obtain rfl := Option.some.inj (show some _ = some c from found)
    exact ⟨rfl, rfl, rfl⟩

end Subscriber

namespace Node

variable {n m m' : Node} {opened : List Opened} {o : Opened}

/-- While a session's subscriber is tried, the other sessions are as they were. -/
structure Trying (n : Node) (opened : List Opened) (o : Opened) (m : Node) : Prop where
  tracks : m.Tracks (opened ++ [o])
  accepted : ∀ o ∈ opened, m.Backed Publisher.Held Subscriber.Subscribed o
  wired : m.Wired
  spares : n.Spares (fun _ => True) (· < n.subscribers.length) m

theorem Trying.evolves (trying : n.Trying opened o m) (evolves : m.Evolves m') (wired : m'.Wired)
    (spares : m.Spares (fun _ => True) (· < n.subscribers.length) m') : n.Trying opened o m' :=
  ⟨trying.tracks.evolves evolves, evolves.accepted trying.accepted, wired, trying.spares.trans spares⟩

theorem Trying.settle (trying : n.Trying opened o m) : n.Trying opened o m.settle := by
  have follows := settle_follows trying.wired
  exact trying.evolves follows.evolves (trying.wired.follows follows) (spares_settle trying.wired)

theorem Trying.changeSubscriber (trying : n.Trying opened o m) {change : Subscriber → Subscriber}
    (ordinary : ∀ s : Subscriber, s.Ordinary (change s)) :
    n.Trying opened o (m.changeSubscriber n.subscribers.length change) := by
  have follows := Follows.changeSubscriber ordinary m n.subscribers.length
  exact trying.evolves follows.evolves (trying.wired.follows follows)
    (spares_changeSubscriber trying.wired change (Nat.lt_irrefl _))

def begun (n : Node) (topic typeId : String) (type : MessageType) : Node :=
  let s := Subscriber.new n.callerId topic type n.subscriberSettings
  { n with
    sessions := (n.sessions.insert .subscriber topic typeId).2
    subscribers := n.subscribers ++ [(s.onClose (.endSession n.sessions.nextId)).step .connect] }

theorem connection?_begun (n : Node) (topic typeId : String) (type : MessageType) :
    (n.begun topic typeId type).connection? n.subscribers.length 0 = some { id := 0 } := by
  rw [connection?, begun]
  dsimp only
  rw [List.getElem?_concat_length]
  rfl

theorem Kept.begun (kept : n.Kept opened) (topic typeId : String) (type : MessageType) :
    n.Trying opened ⟨⟨n.sessions.nextId, .subscriber, topic, typeId⟩, n.subscribers.length⟩
      (n.begun topic typeId type) := by
  have held := Subscriber.held_connect n.callerId topic type n.subscriberSettings
    (.endSession n.sessions.nextId)
  have grows : n.subscribers <+: (n.begun topic typeId type).subscribers := List.prefix_append _ _
  refine ⟨?_, fun o member => (kept.accepted o member).grows List.prefix_rfl grows, ?_, ?_⟩
  · refine kept.tracks.add rfl rfl (fun hook => ?_) List.prefix_rfl grows (fun kind => ?_)
      (backed_subscriber rfl (List.getElem?_concat_length) held)
    · simp only [hooksRun, Node.begun, List.flatMap_append, List.flatMap_singleton]
      change hook ∈ _ ++ (_ ++ []) ↔ _
      rw [List.append_nil]
    · cases kind with
      | publisher => simp [holders, numbers, Node.begun]
      | subscriber => simp [holders, numbers, Node.begun, List.range_succ]
  · refine kept.wired.grows (List.append_nil _).symm rfl rfl (List.forall_mem_nil _) fun s member => ?_
    obtain rfl := List.mem_singleton.mp member
    exact ⟨held.kept.numbered, held.room⟩
  · exact spares_of_same kept.wired (fun i p _ found => ⟨p, found, rfl⟩) (fun _ _ _ _ found => found)
      (fun _ _ _ _ found => connection?_grows grows found) fun _ member _ => member

/-- Reaching the other side is dialling it, and being accepted by a publisher of the node. -/
theorem reach_cases (m : Node) (network : Network) (number : Nat) (remote : Remote) :
    ∃ outcome bytes hangsUp,
      m.reach network number remote = m.changeSubscriber number (·.meet 0 outcome bytes hangsUp) ∨
        ∃ target p listener, ∃ peer : Publisher → Endpoint, m.publishers[target]? = some p ∧
          p.free? = some listener ∧ m.reach network number remote =
            { (m.changeSubscriber number (·.meet 0 outcome bytes hangsUp)).changePublisher target
                (fun p => p.accept (peer p)) with
              pipes := m.pipes ++ [⟨target, number, ⟨p.nextLink, 0, 0, 0⟩⟩] } := by
  cases remote with
  | nobody => exact ⟨network.dial false, [], false, .inl rfl⟩
  | script bytes hangsUp => exact ⟨network.dial true, bytes, hangsUp, .inl rfl⟩
  | publisher target =>
    cases found : m.publishers[target]? with
    | none =>
      refine ⟨network.dial false, [], false, .inl ?_⟩
      simp only [reach, found]
    | some p =>
      refine ⟨network.dial p.free?.isSome, [], false, ?_⟩
      by_cases connected : network.dial p.free?.isSome = .connected
      · obtain ⟨listener, free⟩ : ∃ listener, p.free? = some listener := by
          refine Option.ne_none_iff_exists'.mp fun none => ?_
          rw [none, Network.dial] at connected
          split at connected <;> cases connected
        refine .inr ⟨target, p, listener, fun p => ⟨p.settings.host, number⟩, found, free, ?_⟩
        simp only [reach, found, if_pos connected, (changeSubscriber_others number _).2]
      · refine .inl ?_
        simp only [reach, found, if_neg connected]

theorem Trying.reach (trying : n.Trying opened o m) (network : Network) (remote : Remote) {c : Connection}
    (found : m.connection? n.subscribers.length 0 = some c)
    (fresh : ∀ route ∈ m.routes, route.2 ≠ (n.subscribers.length, 0)) :
    n.Trying opened o (m.reach network n.subscribers.length remote) ∧
      ∃ c', (m.reach network n.subscribers.length remote).connection? n.subscribers.length 0 = some c' ∧
        c'.stage ≠ .dialling := by
  obtain ⟨outcome, bytes, hangsUp, reached⟩ := m.reach_cases network n.subscribers.length remote
  have ordinary (s : Subscriber) : s.Ordinary (s.meet 0 outcome bytes hangsUp) :=
    s.meet_ordinary 0 outcome bytes hangsUp
  have met := trying.changeSubscriber ordinary
  have dialled : ∃ c', (m.changeSubscriber n.subscribers.length
      (·.meet 0 outcome bytes hangsUp)).connection? n.subscribers.length 0 = some c' ∧
        c'.stage ≠ .dialling := by
    obtain ⟨s, foundS, found⟩ := Option.bind_eq_some_iff.mp found
    obtain ⟨c', found', stage⟩ := Subscriber.connection?_meet found outcome bytes hangsUp
    exact ⟨c', (connection?_changeSubscriber _ foundS).trans found', stage⟩
  rcases reached with reached | ⟨target, p, listener, peer, foundP, free, reached⟩
  · rw [reached]
    exact ⟨met, dialled⟩
  · obtain ⟨publishers, pipes⟩ := changeSubscriber_others (n := m) n.subscribers.length
      (·.meet 0 outcome bytes hangsUp)
    obtain ⟨c', found', stage⟩ := dialled
    have follows := Follows.changeSubscriber ordinary m n.subscribers.length
    rw [reached, ← pipes]
    rw [← publishers] at foundP
    have wired := met.wired.join peer foundP free found' (follows.routes ▸ fresh)
    have accepts := Evolves.changePublisher (accept_serves peer)
      (m.changeSubscriber n.subscribers.length (·.meet 0 outcome bytes hangsUp)) target
    refine ⟨met.evolves ⟨accepts.publishers, accepts.subscribers, accepts.sessions⟩ wired
      (spares_join met.wired peer _ (Nat.lt_irrefl _)), c', ?_, stage⟩
    rw [connection?]
    change (Node.changePublisher _ target _).subscribers[_]?.bind _ = _
    rw [(changePublisher_others target _).1]
    exact found'

def tried (n : Node) (network : Network) (topic typeId : String) (type : MessageType) (remote : Remote) :
    Node :=
  let reached := ((n.begun topic typeId type).reach network n.subscribers.length remote).settle
  (reached.changeSubscriber n.subscribers.length fun s => s.step (.connection 0 .timeout)).settle

theorem Kept.tried (kept : n.Kept opened) (network : Network) (topic typeId : String) (type : MessageType)
    (remote : Remote) :
    let m := n.tried network topic typeId type remote
    n.Trying opened ⟨⟨n.sessions.nextId, .subscriber, topic, typeId⟩, n.subscribers.length⟩ m ∧ m.Still ∧
      ∃ s answer, m.subscribers[n.subscribers.length]? = some s ∧ s.result? 0 = some answer := by
  intro m
  have fresh : ∀ route ∈ (n.begun topic typeId type).routes, route.2 ≠ (n.subscribers.length, 0) := by
    intro route member same
    obtain ⟨-, c, found⟩ := kept.wired.joined route member
    rw [same] at found
    exact Nat.lt_irrefl _ (lt_of_connection? found)
  obtain ⟨reached, c₁, found₁, stage₁⟩ :=
    (kept.begun topic typeId type).reach network remote (n.connection?_begun topic typeId type) fresh
  -- The node comes to rest, and the time for the publisher's header runs out.
  obtain ⟨c₂, found₂, stage₂⟩ := (settle_follows reached.wired).evolves.connection_keeps
    (motive := fun c => c.stage ≠ .dialling) found₁ stage₁ fun change => change.reached
  have rests₂ := (settle_still reached.wired).connections _ _ _ found₂
  have timeout (s : Subscriber) : s.Ordinary (s.step (.connection 0 .timeout)) := .of_move s rfl
  have late := reached.settle.changeSubscriber timeout
  obtain ⟨s₂, foundS, found₂⟩ := Option.bind_eq_some_iff.mp found₂
  obtain ⟨c₃, found₃, stage₃⟩ := Subscriber.connection?_timeout found₂ rests₂ stage₂
  have found₃ := (connection?_changeSubscriber (fun s => s.step (.connection 0 .timeout)) foundS).trans found₃
  obtain ⟨c₄, found₄, stage₄⟩ := (settle_follows late.wired).evolves.connection_keeps
    (motive := fun c => c.stage.phase ≠ .connecting) found₃ stage₃ fun change => change.tried
  have rests₄ := (settle_still late.wired).connections _ _ _ found₄
  refine ⟨late.settle, settle_still late.wired, ?_⟩
  obtain ⟨s, foundS, held⟩ := (late.settle.tracks.held _ (List.mem_append_right _
    (List.mem_singleton_self _))).subscriber rfl
  obtain ⟨t, foundT, found₄⟩ := Option.bind_eq_some_iff.mp found₄
  obtain rfl := Option.some.inj (foundS.symm.trans foundT)
  obtain ⟨answer, result⟩ := (held.holds c₄ found₄).answered rests₄ stage₄
  refine ⟨s, answer, foundS, ?_⟩
  rw [Subscriber.result?, found₄]
  exact result

end Node

end TopicWire
