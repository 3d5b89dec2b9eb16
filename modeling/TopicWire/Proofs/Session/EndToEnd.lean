import TopicWire.Proofs.Session.Publication
import TopicWire.Proofs.Wire.FilledIn

/-!
# Every message once

A subscriber that is left alone tells the greeting and then the messages for it, in the order in which
they were published and each once. `Exchange.Untroubled` says what must not happen for that.
-/

namespace TopicWire

/-! ### What must not happen -/

namespace Exchange

/-- The publisher is not shut down and its links do not fail, and nor does the subscriber, which is
neither closed nor given up. -/
def quiet (number : Nat) : Move → Bool
  | .publisher .shutdown => false
  | .publisher (.link _ move) => !move.fails
  | .subscriber other (.connection _ move) => other != number || !move.fails
  | .subscriber other move => other != number || move.goesOn
  | _ => true

/-- A run that does not trouble a subscriber. -/
structure Untroubled (x : Exchange) (number : Nat) (moves : List Move) : Prop where
  quiet : ∀ move ∈ moves, quiet number move = true
  request : ∀ s, x.subscribers[number]? = some s → s.request.encodeFields.length ≤ Frame.maxSize
  greeting : x.publisher.greeting.encodeFields.length ≤ Frame.maxSize
  frames : ∀ frame ∈ x.publisher.publishedIn (x.publisherRun moves), frame.length ≤ 4 + Frame.maxSize
  /-- The queues of its links neither overflow nor evict a frame. -/
  queues : ∀ place m, (x.run moves).Joins place m → m.number = number →
    m.link.queue.overflowed = false ∧ m.link.queue.dropped = 0

variable {x : Exchange} {number : Nat} {moves : List Move}

theorem goesOn_of_quiet (still : ∀ move ∈ moves, quiet number move = true) :
    ∀ part ∈ x.subscriberRun number moves, part.goesOn = true := by
  intro part there
  obtain ⟨y, move, member, made⟩ := exists_of_mem_history there
  have calm := still move member
  rcases y.subscriberMoves_cases number move with
    none | ⟨own, yes, rfl, some⟩ | ⟨_, _, _, -, -, some⟩ | ⟨_, _, -, ⟨_, some⟩ | some⟩
  · rw [none] at made
    cases made
  · rw [some] at made
    obtain rfl := List.mem_singleton.mp made
    cases part <;> first | rfl | simpa [quiet] using calm
  · rw [some] at made
    obtain rfl := List.mem_singleton.mp made
    rfl
  · rw [some] at made
    obtain rfl := List.mem_singleton.mp made
    rfl
  · rw [some] at made
    obtain rfl := List.mem_singleton.mp made
    rfl

end Exchange

namespace Encounter

variable {e : Encounter} {after : List Exchange.Move}

theorem calm_of_quiet {move : Exchange.Move} (quiet : Exchange.quiet e.number move = true) :
    e.calm move = true := by
  unfold calm
  split
  · cases quiet
  · rename_i id move
    have still : move.fails = false := by simpa [Exchange.quiet] using quiet
    rw [still]
    exact Bool.or_true _
  · rename_i number id move
    rcases (Bool.or_eq_true _ _).mp quiet with other | still
    · rw [other]
      rfl
    · rw [still]
      exact Bool.or_true _
  · rfl

theorem fits (e : Encounter)
    (request : ∀ s, e.start.subscribers[e.number]? = some s → s.request.encodeFields.length ≤ Frame.maxSize)
    (greeting : e.start.publisher.greeting.encodeFields.length ≤ Frame.maxSize) : e.Fits := by
  refine ⟨request e.first e.there, ?_⟩
  rw [Encounter.greeting, e.met_alike.greeting]
  exact greeting

theorem agree_of_same (same : e.first.type = e.start.publisher.type) : e.Agree := by
  left
  rw [e.met_alike.2.2.1, same]

theorem steady_of_untroubled (same : e.first.type = e.start.publisher.type)
    (untroubled : e.start.Untroubled e.number (e.before ++ .join e.number :: after)) :
    ∃ m, e.Follows after m ∧ e.Orderly m ∧ Steady m :=
  steady_run (e.fits untroubled.request untroubled.greeting) (agree_of_same same)
    (e.offers untroubled.frames)
    (fun _ there => calm_of_quiet (untroubled.quiet _
      (List.mem_append_right _ (List.mem_cons_of_mem _ there))))
    (Exchange.goesOn_of_quiet untroubled.quiet)

end Encounter

/-! ### One connection for a subscriber -/

namespace Subscriber

variable {s : Subscriber}

/-- A subscriber that has not begun a connection is disconnected. -/
def Idle (s : Subscriber) : Prop :=
  s.nextConnection = 0 → s.phase = .disconnected

theorem Idle.step (idle : s.Idle) (numbered : s.Numbered) (move : Move) : (s.step move).Idle := by
  intro none
  by_cases connect : move = .connect
  · subst connect
    simp only [Subscriber.step, beginConnect] at none ⊢
    split at none
    · cases none
    · exact idle none
  · rw [step_nextConnection connect] at none
    by_cases own : ∃ id own, move = .connection id own
    · obtain ⟨id, own, rfl⟩ := own
      have absent : s.connection? id = .none :=
        numbered.connection?_eq_none_iff.mpr (none ▸ Nat.zero_le id)
      rw [step_connection_none absent]
      exact idle none
    · rw [step_phase connect fun id move same => own ⟨id, move, same⟩]
      exact idle none

theorem begun_of_connected {callerId topic : String} {type : MessageType} {settings : SubscriberSettings}
    {moves : List Move} (connected : ((new callerId topic type settings).run moves).phase = .connected) :
    ((new callerId topic type settings).run moves).nextConnection ≠ 0 := by
  have kept : ((new callerId topic type settings).run moves).Numbered ∧
      ((new callerId topic type settings).run moves).Idle :=
    run_induction (motive := fun _ (s : Subscriber) => s.Numbered ∧ s.Idle)
      ⟨(kept_new callerId topic type settings).1, fun _ => rfl⟩
      (fun _ move held => ⟨held.1.step move, held.2.step held.1 move⟩) moves
  intro none
  rw [kept.2 none] at connected
  cases connected

end Subscriber

namespace Exchange

variable {x : Exchange} {number place : Nat} {s : Subscriber} {moves : List Move} {m : Meeting}

theorem Wired.alone_or_joins (wired : x.Wired) (there : x.subscribers[number]? = some s) {id : Nat}
    {c : Connection} (found : s.connection? id = some c) :
    c.Alone ∨ ∃ place m, x.Joins place m ∧ m.number = number ∧ m.pipe.connection = id := by
  by_cases piped : ∃ (place : Nat) (pipe : Pipe),
      x.pipes[place]? = some (number, pipe) ∧ pipe.connection = id
  · obtain ⟨place, pipe, old, same⟩ := piped
    obtain ⟨m, joins, -⟩ := wired.joined place (List.getElem?_eq_some_iff.mp old).1
    rw [joins.pipe] at old
    obtain ⟨mine, rfl⟩ := Prod.mk.inj (Option.some.inj old)
    exact .inr ⟨place, m, joins, mine, same⟩
  · exact .inl (wired.alone number id s c there found fun place pipe old same =>
      piped ⟨place, pipe, old, same⟩)

theorem Wired.joins_of_connected (wired : x.Wired) (there : x.subscribers[number]? = some s)
    (begun : s.nextConnection ≠ 0) (connected : s.phase = .connected) :
    ∃ place m, x.Joins place m ∧ m.number = number := by
  obtain ⟨numbered, phased⟩ := wired.subscribers number s there
  obtain ⟨last, next⟩ := Nat.exists_eq_succ_of_ne_zero begun
  obtain ⟨c, found⟩ : ∃ c, s.connection? last = some c := by
    refine Option.ne_none_iff_exists'.mp fun none => ?_
    have outside := numbered.connection?_eq_none_iff.mp none
    omega
  have phase := phased.last last c found next.symm
  rw [connected] at phase
  rcases wired.alone_or_joins there found with alone | ⟨place, m, joins, mine, -⟩
  · rcases alone.stage with dialling | ⟨done, -⟩
    · rw [dialling] at phase
      cases phase
    · rw [done] at phase
      cases phase
  · exact ⟨place, m, joins, mine⟩

theorem Untroubled.steady (fresh : x.Fresh) (there : x.subscribers[number]? = some s)
    (same : s.type = x.publisher.type) (untroubled : x.Untroubled number moves)
    (joins : (x.run moves).Joins place m) (mine : m.number = number) :
    ∃ (e : Encounter) (after : List Move), e.start = x ∧ e.number = number ∧
      e.before ++ .join number :: after = moves ∧ e.Follows after m ∧ e.Orderly m ∧ Encounter.Steady m := by
  obtain ⟨e, after, rfl, rfl, rfl⟩ := Encounter.exists_of_pipe fresh moves
    (List.getElem?_eq_some_iff.mp joins.pipe).1
  rw [Encounter.later_eq] at joins
  obtain ⟨m', follows⟩ := e.follows after
  obtain rfl := follows.unique joins
  obtain rfl : e.number = number := follows.number.symm.trans mine
  obtain rfl : e.first = s := Option.some.inj (e.there.symm.trans there)
  obtain ⟨m'', follows', orderly, steady⟩ := Encounter.steady_of_untroubled same untroubled
  obtain rfl := follows.unique follows'.joins
  exact ⟨e, after, rfl, rfl, rfl, follows, orderly, steady⟩

theorem Untroubled.last (fresh : x.Fresh) (there : x.subscribers[number]? = some s)
    (same : s.type = x.publisher.type) (untroubled : x.Untroubled number moves)
    (joins : (x.run moves).Joins place m) (mine : m.number = number) :
    m.pipe.connection + 1 = m.subscriber.nextConnection := by
  obtain ⟨_, _, -, -, -, -, -, steady⟩ := untroubled.steady fresh there same joins mine
  obtain ⟨-, -, used⟩ := steady (untroubled.queues place m joins mine).1
  obtain ⟨-, phased⟩ := (fresh.wired moves).subscribers m.number m.subscriber joins.subscriber
  refine Classical.byContradiction fun earlier => ?_
  have past := phased.earlier _ _ joins.connection earlier
  revert used past
  cases stage : m.connection.stage <;> simp [Connection.isOpen, ConnectionStage.phase, stage]

end Exchange

theorem Connection.Account.silent_of_alone {c : Connection} {request arrived : Bytes} {type : MessageType}
    {told : List (SubscriberEvent × Bool)} (account : c.Account request type arrived told)
    (alone : c.Alone) : told = [] := by
  rcases alone.stage with dialling | ⟨done, cause, failed⟩
  · rw [Connection.Account, dialling] at account
    exact account.2.2.1
  · rw [Connection.Account, done] at account
    rcases account with ⟨_, -, silent⟩ | ⟨-, _, _, ⟨_, _, _, _, _, result⟩, -⟩
    · exact silent
    · cases failed.symm.trans result

namespace Exchange

variable {x : Exchange} {number place : Nat} {s : Subscriber} {moves : List Move} {m : Meeting}

theorem Untroubled.silent (fresh : x.Fresh) (there : x.subscribers[number]? = some s)
    (same : s.type = x.publisher.type) (untroubled : x.Untroubled number moves)
    (joins : (x.run moves).Joins place m) (mine : m.number = number) {id : Nat}
    (other : id ≠ m.pipe.connection) :
    Connection.toldBy id (s.toldIn (x.subscriberRun number moves)) = [] := by
  have running := run_subscriber there moves
  cases found : (s.run (x.subscriberRun number moves)).connection? id with
  | none => exact (s.quiet_run id _ found).2.2
  | some c =>
    rcases (fresh.wired moves).alone_or_joins running found with alone | ⟨_, m', joins', mine', rfl⟩
    · obtain ⟨callerId, topic, type, settings, rfl⟩ := fresh.subscribers s (List.mem_of_getElem? there)
      exact (Subscriber.account_run callerId topic type settings _ found).silent_of_alone alone
    · -- Both connections would be the last one.
      have last := untroubled.last fresh there same joins mine
      have last' := untroubled.last fresh there same joins' mine'
      have one : m.subscriber = m'.subscriber :=
        Option.some.inj ((mine ▸ joins.subscriber).symm.trans (mine' ▸ joins'.subscriber))
      rw [one] at last
      omega

end Exchange

/-! ### What is heard of one connection -/

theorem Subscriber.heardOf_of_only {tellings : List Telling} {id : Nat}
    (only : ∀ other, other ≠ id → Connection.toldBy other tellings = []) :
    heardOf tellings = ((Connection.toldBy id tellings).filter (·.2)).map (·.1) := by
  have all : ∀ t ∈ tellings, t.connection = id := by
    intro t there
    refine Classical.byContradiction fun other => ?_
    have told : (t.event, t.heard) ∈ Connection.toldBy t.connection tellings :=
      List.mem_map_of_mem (List.mem_filter.mpr ⟨there, decide_eq_true rfl⟩)
    rw [only _ other] at told
    cases told
  have whole : tellings.filter (·.connection = id) = tellings :=
    List.filter_eq_self.mpr fun t there => decide_eq_true (all t there)
  rw [heardOf, Connection.toldBy, whole, List.filter_map, List.map_map]
  rfl

theorem Connection.heard_opened (type : MessageType) (header : Header) (bodies : List Bytes) :
    ((opened type header bodies).filter (·.2)).map (·.1) =
      .connected header :: bodies.map (Subscriber.eventOf type) := by
  have whole : (opened type header bodies).filter (·.2) = opened type header bodies := by
    refine List.filter_eq_self.mpr fun told there => ?_
    rcases List.mem_cons.mp there with rfl | later
    · rfl
    · obtain ⟨_, -, rfl⟩ := List.mem_map.mp later
      rfl
  rw [whole, opened, List.map_cons, List.map_map]
  rfl

theorem MessageType.Sendable.eventOf {type : MessageType} {m : Message} (sendable : type.Sendable m)
    (bodies : type.ItemsHaveBodies) :
    Subscriber.eventOf type (type.bodyOf m) = .message (type.normalized m) := by
  rw [Subscriber.eventOf, decodeBody_written sendable.complete (admits_of_itemsHaveBodies bodies m 0)]

/-! ### What is received -/

namespace Exchange

/-- A subscriber that is connected has received, or has in its channel, the greeting of the publisher and
then the message that was latched when its link was registered and all messages published since, in this
order, each once and with what was left out filled in. -/
theorem receives_each_once {x : Exchange} (fresh : x.Fresh) {number : Nat} {s : Subscriber}
    (there : x.subscribers[number]? = some s) (same : s.type = x.publisher.type)
    (made : x.publisher.type.Compiled) (bodies : x.publisher.type.ItemsHaveBodies) {moves : List Move}
    (untroubled : x.Untroubled number moves)
    (rest : ∀ place m, (x.run moves).Joins place m → m.number = number → m.AtRest)
    (connected : (s.run (x.subscriberRun number moves)).phase = .connected) :
    ∃ (e : Encounter) (after : List Move), e.start = x ∧ e.number = number ∧
      e.before ++ .join number :: after = moves ∧
      s.heardIn (x.subscriberRun number moves) ++ (s.run (x.subscriberRun number moves)).events.items =
        .connected x.publisher.greeting ::
          (e.messages after).map (fun m => .message (x.publisher.type.normalized m)) ∧
      ∀ m ∈ e.messages after, x.publisher.type.Fills m (x.publisher.type.normalized m) := by
  obtain ⟨callerId, topic, type, settings, first⟩ := fresh.subscribers s (List.mem_of_getElem? there)
  have begun : (s.run (x.subscriberRun number moves)).nextConnection ≠ 0 := by
    rw [first] at connected ⊢
    exact Subscriber.begun_of_connected connected
  obtain ⟨place, m, joins, mine⟩ :=
    (fresh.wired moves).joins_of_connected (run_subscriber there moves) begun connected
  have silent (id : Nat) (other : id ≠ m.pipe.connection) :=
    untroubled.silent fresh there same joins mine other
  obtain ⟨room, kept⟩ := untroubled.queues place m joins mine
  obtain ⟨e, after, rfl, rfl, rfl, follows, orderly, steady⟩ :=
    untroubled.steady fresh there same joins mine
  obtain rfl : e.first = s := Option.some.inj (e.there.symm.trans there)
  have fits := e.fits untroubled.request untroubled.greeting
  have told := follows.told_at_rest orderly steady fits (rest place m joins mine) room kept
    (e.offers untroubled.frames)
  refine ⟨e, after, rfl, rfl, rfl, ?_, fun m there => ?_⟩
  · have nothing : e.first.events.items = [] := by rw [first]; rfl
    rw [Subscriber.heardIn_append_items, nothing, List.nil_append, Subscriber.heardOf_of_only silent,
      follows.connection]
    show ((e.told after).filter (·.2)).map (·.1) = _
    rw [told, Connection.heard_opened, Encounter.greeting, e.met_alike.greeting, List.map_map, same]
    refine congrArg _ (List.map_congr_left fun m there => ?_)
    exact (e.messages_sendable after m there).eventOf bodies
  · have sendable := e.messages_sendable after m there
    exact MessageType.fills_normalized made.accessors_nodup sendable.valid sendable.complete

/-! ### A subscriber that comes late -/

def chatter : Exchange where
  publisher := .new "/talker" "/points" MessageType.pointType { latching := true }
  subscribers :=
    [.new "/early" "/points" MessageType.pointType {}, .new "/late" "/points" MessageType.pointType {}]

/-- The second subscriber joins between two points, and is served before the first one has asked. -/
def talk : List Move :=
  [.publisher .beginStart, .publisher (.finishStart (.ok ⟨"127.0.0.1", 9000⟩)),
    .subscriber 0 .connect, .join 0, .publisher (.publish (Publisher.pointAt 1)),
    .subscriber 1 .connect, .join 1, .publisher (.publish (Publisher.pointAt 2)),
    .subscriber 1 (.connection 0 (.write 1000)), .carry 1 (.up 1000), .publisher (.link 1 .readHeader),
    .publisher (.link 1 (.write 1000)), .publisher (.link 1 .next), .publisher (.link 1 (.write 1000)),
    .carry 1 (.down 1000), .subscriber 1 (.connection 0 .readHeader), .subscriber 1 (.connection 0 .tell),
    .subscriber 1 (.connection 0 .readFrame), .subscriber 1 (.connection 0 .tell), .subscriber 1 .receive,
    .publisher (.link 1 .next), .publisher (.link 1 (.write 1000)), .carry 1 (.down 1000),
    .subscriber 1 (.connection 0 .readFrame), .subscriber 1 (.connection 0 .tell)]

theorem late_received :
    chatter.Untroubled 1 talk ∧ ∃ (s : Subscriber) (e : Encounter) (after : List Move),
      chatter.subscribers[1]? = some s ∧ (s.run (chatter.subscriberRun 1 talk)).phase = .connected ∧
      e.start = chatter ∧ e.number = 1 ∧ e.before ++ .join 1 :: after = talk ∧
      s.heardIn (chatter.subscriberRun 1 talk) ++
          (s.run (chatter.subscriberRun 1 talk)).events.items =
        .connected chatter.publisher.greeting :: (e.messages after).map (fun m =>
          .message (chatter.publisher.type.normalized m)) ∧
      (e.messages after).length = 2 := by
  have fresh : chatter.Fresh := by
    refine ⟨⟨_, _, _, _, rfl⟩, fun s there => ?_, rfl⟩
    rcases List.mem_cons.mp there with rfl | there
    · exact ⟨_, _, _, _, rfl⟩
    · exact ⟨_, _, _, _, List.mem_singleton.mp there⟩
  have settled {place : Nat} {m : Meeting} (joins : (chatter.run talk).Joins place m) :
      m.number = 1 → m.link.queue.overflowed = false ∧ m.link.queue.dropped = 0 ∧ m.AtRest := by
    have all : ∀ place < 2, ((chatter.run talk).meeting? place).all (fun m => decide (m.number = 1 →
        m.link.queue.overflowed = false ∧ m.link.queue.dropped = 0 ∧ m.AtRest)) = true := by
      decide +kernel
    have pipes : (chatter.run talk).pipes.length = 2 := by decide +kernel
    have one := all place (pipes ▸ (List.getElem?_eq_some_iff.mp joins.pipe).1)
    rw [joins.meeting?_eq, Option.all_some] at one
    exact of_decide_eq_true one
  have untroubled : chatter.Untroubled 1 talk := by
    refine ⟨by decide +kernel, fun s there => ?_, by decide +kernel, by decide +kernel,
      fun place m joins mine => ?_⟩
    · obtain rfl := Option.some.inj there
      decide +kernel
    · obtain ⟨room, kept, -⟩ := settled joins mine
      exact ⟨room, kept⟩
  have there : chatter.subscribers[1]? = some (.new "/late" "/points" MessageType.pointType {}) := rfl
  have bodies : MessageType.pointType.ItemsHaveBodies :=
    MessageType.pathType_itemsHaveBodies.inside List.mem_cons_self rfl
  obtain ⟨e, after, start, number, split, heard, -⟩ := receives_each_once fresh there rfl
    MessageType.pointType_compiled bodies untroubled
    (fun place m joins mine => (settled joins mine).2.2) (by decide +kernel)
  refine ⟨untroubled, _, e, after, there, by decide +kernel, start, number, split, heard, ?_⟩
  have three : ((Subscriber.new "/late" "/points" MessageType.pointType {}).heardIn
      (chatter.subscriberRun 1 talk) ++ ((Subscriber.new "/late" "/points" MessageType.pointType {}).run
        (chatter.subscriberRun 1 talk)).events.items).length = 3 := by decide +kernel
  rw [heard, List.length_cons, List.length_map] at three
  omega

end Exchange

end TopicWire
