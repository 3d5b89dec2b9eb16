import TopicWire.Proofs.Session.Handshake

/-!
# What a handshake comes to

While nothing fails, both sides of a handshake find the same: the publisher tells that the subscriber is
connected, and the call to connect succeeds, if and only if the digests agree. This holds of every run,
up to a queue that overflows before the publisher has answered.
-/

namespace TopicWire

/-! ### Connections at rest -/

/-- Nothing is left to do at the two ends of a pipe, and nothing is on its way. -/
structure Meeting.AtRest (m : Meeting) : Prop where
  link : Publisher.Link.ownMove? m.link = none
  connection : Subscriber.Connection.ownMove? m.connection = none
  up : m.connection.sent.length ≤ m.pipe.up
  down : m.link.sent.length ≤ m.pipe.down
  endUp : m.connection.isOpen = false → m.link.inboxEnded = true
  endDown : m.link.stage.isOpen = false → m.connection.inboxEnded = true

instance (m : Meeting) : Decidable m.AtRest :=
  decidable_of_iff (Publisher.Link.ownMove? m.link = none ∧
      Subscriber.Connection.ownMove? m.connection = none ∧ m.connection.sent.length ≤ m.pipe.up ∧
      m.link.sent.length ≤ m.pipe.down ∧ (m.connection.isOpen = false → m.link.inboxEnded = true) ∧
      (m.link.stage.isOpen = false → m.connection.inboxEnded = true))
    ⟨fun h => ⟨h.1, h.2.1, h.2.2.1, h.2.2.2.1, h.2.2.2.2.1, h.2.2.2.2.2⟩,
      fun h => ⟨h.link, h.connection, h.up, h.down, h.endUp, h.endDown⟩⟩

theorem Link.rest_cases {l : Link} (rest : Publisher.Link.ownMove? l = none) :
    l.stage = .handshake ∧ l.headerReady = false ∨
    l.stage = .serving [] ∧ l.queue.frames = [] ∧ l.queue.announced = false ∧ l.inboxEnded = false ∨
    l.stage = .done := by
  unfold Publisher.Link.ownMove? at rest
  split at rest
  · cases rest
  · rename_i uncut
    split at rest
    · rename_i stage
      split at rest
      · cases rest
      · rename_i waits
        exact .inl ⟨stage, Bool.eq_false_iff.mpr waits⟩
    · cases rest
    · rename_i stage
      rw [stage] at uncut
      split at rest
      · cases rest
      · rename_i empty
        split at rest
        · cases rest
        · rename_i lasting
          refine .inr (.inl ⟨stage, ?_, ?_, Bool.eq_false_iff.mpr lasting⟩)
          · simpa using empty
          · simpa [LinkStage.isOpen] using uncut
    · cases rest
    · rename_i stage
      exact .inr (.inr stage)
    · cases rest

theorem Connection.rest_cases {c : Connection} (rest : Subscriber.Connection.ownMove? c = none) :
    c.stage = .dialling ∨ c.stage = .handshake ∧ c.frameReady = false ∨
    c.stage = .reading ∧ c.frameReady = false ∧ c.stopped = false ∨ c.stage = .done := by
  unfold Subscriber.Connection.ownMove? at rest
  split at rest
  · rename_i stage
    exact .inl stage
  · cases rest
  · rename_i stage
    split at rest
    · cases rest
    · rename_i waits
      exact .inr (.inl ⟨stage, Bool.eq_false_iff.mpr waits⟩)
  · cases rest
  · cases rest
  · rename_i stage
    split at rest
    · cases rest
    · rename_i waits
      split at rest
      · cases rest
      · rename_i goesOn
        exact .inr (.inr (.inl ⟨stage, Bool.eq_false_iff.mpr waits, Bool.eq_false_iff.mpr goesOn⟩))
  · rename_i stage
    exact .inr (.inr (.inr stage))
  · cases rest

namespace Connection

variable {c : Connection} {request arrived : Bytes} {type : MessageType}
  {told : List (SubscriberEvent × Bool)} {header : Header}

end Connection

namespace Encounter

variable {e : Encounter} {after : List Exchange.Move} {m : Meeting}

theorem Follows.read_greeting (follows : e.Follows after m) (fits : e.Fits) {header : Header}
    {bodies : List Bytes} {rest : Bytes}
    (read : Connection.Read e.first.type (e.down after) header bodies rest) :
    header = e.greeting ∧ e.Greeted m.link := by
  obtain ⟨first, all, small, decoded⟩ := read.parts
  have limit : Frame.maxSize < 0x100000000 := by decide
  obtain ⟨more, along⟩ := follows.flow.downAlong.trans follows.account.written.along
  rw [all, List.append_assoc] at along
  obtain ⟨rfl, -⟩ := Frame.framed_append_inj (Nat.lt_of_le_of_lt small limit)
    (Nat.lt_of_le_of_lt fits.greeting limit) along
  rw [Header.decodeFields_encodeFields _ (Nat.lt_of_le_of_lt fits.greeting limit)] at decoded
  refine ⟨(Except.ok.inj decoded).symm, ?_⟩
  refine List.IsPrefix.trans ?_ follows.flow.downAlong
  rw [all]
  exact List.prefix_append _ _

theorem Follows.link_at_rest (follows : e.Follows after m) (asks : e.Asks m.connection) (fits : e.Fits)
    (rest : m.AtRest) : m.link.stage = .serving [] ∧ m.link.inboxEnded = false ∨ m.link.stage = .done := by
  rcases Link.rest_cases rest.link with ⟨stage, waits⟩ | ⟨stage, -, -, lasting⟩ | stage
  · have all : e.up after = m.connection.sent :=
      Meeting.eq_of_length_le follows.flow.upAlong (follows.flow.upLength ▸ rest.up)
    have written := follows.account.written
    rw [Link.Written, stage] at written
    have asked : m.connection.sent = e.request.encode := by
      refine asks.resolve_left ?_
      rintro ⟨left, requesting⟩
      have rest := rest.connection
      rw [Subscriber.Connection.ownMove?, requesting] at rest
      cases rest
    have whole := Frame.ready_framed fits.request []
    rw [List.append_nil] at whole
    have ready : m.link.headerReady = true :=
      m.link.headerReady_iff.mpr (.inr (by rw [written.2.1, all, asked]; exact whole))
    rw [ready] at waits
    cases waits
  · exact .inl ⟨stage, lasting⟩
  · exact .inr stage

theorem Follows.ungreeted_at_rest (follows : e.Follows after m) (fits : e.Fits) (rest : m.AtRest)
    (stage : m.connection.stage = .handshake) (waits : m.connection.frameReady = false) :
    ¬ e.Greeted m.link := by
  rintro ⟨more, greeted⟩
  have all : e.down after = m.link.sent :=
    Meeting.eq_of_length_le follows.flow.downAlong (follows.flow.downLength ▸ rest.down)
  have told := follows.told
  rw [Connection.Account, stage] at told
  have whole := Frame.ready_framed fits.greeting more
  have ready : m.connection.frameReady = true :=
    m.connection.frameReady_iff.mpr (.inr (by rw [told.2.1, all, ← greeted]; exact whole))
  rw [ready] at waits
  cases waits

def ofPoints (settings : PublisherSettings) : Encounter where
  start :=
    { publisher := .new "/talker" "/points" MessageType.pointType settings
      subscribers := [.new "/listener" "/points" MessageType.pointType {}] }
  fresh := ⟨⟨_, _, _, _, rfl⟩, fun _ there => ⟨_, _, _, _, List.mem_singleton.mp there⟩, rfl⟩
  number := 0
  first := .new "/listener" "/points" MessageType.pointType {}
  there := rfl
  before := [.publisher .beginStart, .publisher (.finishStart (.ok ⟨"127.0.0.1", 9000⟩)),
    .subscriber 0 .connect]
  connection := 0
  listener := { id := 0, endpoint := ⟨"127.0.0.1", 9000⟩ }
  dials := ⟨rfl, rfl, rfl⟩

def strict : Encounter := ofPoints { queueCapacity := 1, overflow := .disconnect }

end Encounter

end TopicWire
