import TopicWire.Proofs.Header.RoundTrip
import TopicWire.Proofs.Session.Encounter

/-!
# The two sides of a handshake

Each side checks the header of the other by itself. As long as nothing fails, both come to the same
result: `Encounter.Orderly` is kept by every calm move, and from it follows what both sides know when
the call to connect has returned, and when nothing is left to do.
-/

namespace TopicWire

/-! ### Reading a header -/

theorem Link.headerReady_iff (l : Link) :
    l.headerReady = true ↔ l.inboxEnded = true ∨ Frame.Ready l.inbox := by
  simp [Link.headerReady, Frame.Ready]

theorem Connection.frameReady_iff (c : Connection) :
    c.frameReady = true ↔ c.inboxEnded = true ∨ Frame.Ready c.inbox := by
  simp [Connection.frameReady, Frame.Ready]

theorem Header.agrees_iff {h : Header} {own digest : String} (sent : h.digest = some digest) :
    h.agrees own = true ↔ own = digest ∨ own = Header.wildcard ∨ digest = Header.wildcard := by
  simp only [Header.agrees, sent, Bool.or_eq_true, beq_iff_eq]
  constructor
  · rintro ((theirs | ours) | same)
    · exact .inr (.inr theirs)
    · exact .inr (.inl ours)
    · exact .inl same.symm
  · rintro (same | ours | theirs)
    · exact .inr same.symm
    · exact .inl (.inr ours)
    · exact .inl (.inl theirs)

theorem Link.header_framed {l : Link} {h : Header} (whole : h.encode <+: l.inbox)
    (small : h.encodeFields.length ≤ Frame.maxSize) : l.header = .ok h := by
  obtain ⟨rest, all⟩ := whole
  have decoded := h.decodeFields_encodeFields (Nat.lt_of_le_of_lt small (by decide))
  have held := Frame.holds_bytes l.inbox
  rw [← all] at held
  rw [Link.header, ← all]
  exact held.readHeader_framed small (by decide) decoded

theorem Connection.frame_framed {c : Connection} {body : Bytes} (whole : Frame.framed body <+: c.inbox)
    (small : body.length ≤ Frame.maxSize) : c.frame.1 = .ok (some body) := by
  obtain ⟨rest, all⟩ := whole
  have held := Frame.holds_unless_empty c.inbox
  rw [← all] at held
  obtain ⟨s, read, -⟩ := held.read_framed small (by decide)
  rw [Connection.frame, ← all]
  simp only [read]

theorem Connection.header_framed {c : Connection} {h : Header} (whole : h.encode <+: c.inbox)
    (small : h.encodeFields.length ≤ Frame.maxSize) : c.header = .ok h := by
  have decoded := h.decodeFields_encodeFields (Nat.lt_of_le_of_lt small (by decide))
  rw [Connection.header, c.frame_framed whole small]
  exact decoded

theorem Connection.Own.sent_eq {s : Subscriber} {c c' : Connection} {move : Subscriber.ConnectionMove}
    (own : c.Own s move c') (other : ∀ left, c.stage ≠ .requesting left) : c'.sent = c.sent := by
  cases own with
  | requests stage => exact absurd stage (other _)
  | requested stage => exact absurd stage (other _)
  | _ => rfl

/-- The link has been taken off the registered ones at its end. -/
def LinkStage.isRemoved : LinkStage → Bool
  | .removed _ => true
  | .shut _ => true
  | .reported => true
  | .done => true
  | _ => false

namespace Link

variable {p : Publisher} {l l' : Link} {move : Publisher.Move}

theorem Change.overflowed (change : l.Change p move l') (overflowed : l.queue.overflowed = true) :
    l'.queue.overflowed = true := by
  cases change with
  | @pushed m frame made =>
    rw [Publisher.pushTo]
    split
    · rcases l.queue.push_closes frame with ⟨-, same⟩ | now
      · exact same.trans overflowed
      · exact now
    · exact overflowed
  | dismissed =>
    rw [Publisher.dismiss]
    split <;> exact overflowed
  | own moved => cases moved <;> exact overflowed
  | _ => exact overflowed

theorem Change.removed (change : l.Change p move l')
    (held : l.stage.isRemoved = true → l.registered = false) :
    l'.stage.isRemoved = true → l'.registered = false := by
  cases change with
  | @pushed m frame made =>
    obtain ⟨queue, eq⟩ := Publisher.pushTo_eq frame l
    rw [eq]
    exact held
  | dismissed =>
    rw [Publisher.dismiss]
    split
    · exact fun _ => rfl
    · exact held
  | own moved =>
    cases moved with
    | rests => exact held
    | deregisters => exact fun _ => rfl
    | shuts stage => exact fun _ => held (by rw [stage]; rfl)
    | reports stage => exact fun _ => held (by rw [stage]; rfl)
    | finishes stage => exact fun _ => held (by rw [stage]; rfl)
    | _ => exact fun no => by cases no
  | _ => exact held

/-- Unless the publisher is shut down, only an overflow closes the queue of a link that is used. -/
theorem Change.closed (change : l.Change p move l') (calm : move ≠ .shutdown)
    (held : l.queue.closed = true → l.queue.overflowed = true ∨ l.stage.isOpen = false) :
    l'.queue.closed = true → l'.queue.overflowed = true ∨ l'.stage.isOpen = false := by
  cases change with
  | @pushed m frame made =>
    rw [Publisher.pushTo]
    split
    · rcases l.queue.push_closes frame with ⟨closed, overflowed⟩ | now
      · rw [closed, overflowed]
        exact held
      · exact fun _ => .inl now
    · exact held
  | dismissed => exact absurd rfl calm
  | own moved =>
    cases moved with
    | rests => exact held
    | greets stage =>
      rw [stage] at held
      exact held
    | greetsOn stage =>
      rw [stage] at held
      exact held
    | connects stage =>
      rw [stage] at held
      exact held
    | serves stage =>
      rw [stage] at held
      exact held
    | takes stage =>
      rw [stage] at held
      exact held
    | _ => exact fun _ => .inr rfl
  | _ => exact held

end Link

/-! ### Moves that are not calm -/

/-- Something takes too long, or breaks. -/
def Publisher.LinkMove.fails : Publisher.LinkMove → Bool
  | .timeout => true
  | .readFails _ => true
  | .writeFails _ => true
  | _ => false

def Subscriber.ConnectionMove.fails : Subscriber.ConnectionMove → Bool
  | .dialTimeout => true
  | .timeout => true
  | .readFails _ => true
  | .writeFails _ => true
  | _ => false

namespace Encounter

/-- The publisher is not shut down, and nothing fails at the two ends of the pipe. -/
def calm (e : Encounter) : Exchange.Move → Bool
  | .publisher .shutdown => false
  | .publisher (.link id move) => id != e.link || !move.fails
  | .subscriber number (.connection id move) => number != e.number || id != e.connection || !move.fails
  | _ => true

/-- The digests of the two sides are equal, or one of them agrees with every other. -/
def Agree (e : Encounter) : Prop :=
  e.met.publisher.type.digest = e.first.type.digest ∨
    e.met.publisher.type.digest = Header.wildcard ∨ e.first.type.digest = Header.wildcard

/-- Both headers fit into a frame. -/
structure Fits (e : Encounter) : Prop where
  request : e.request.encodeFields.length ≤ Frame.maxSize
  greeting : e.greeting.encodeFields.length ≤ Frame.maxSize

variable {e : Encounter} {after : List Exchange.Move} {m m' : Meeting}

theorem request_digest (e : Encounter) : e.request.digest = some e.first.type.digest := by
  rw [request, Subscriber.request]
  split <;> rfl

theorem greeting_digest (e : Encounter) : e.greeting.digest = some e.met.publisher.type.digest := by
  rw [greeting, Publisher.greeting]
  split <;> rfl

theorem request_agrees_iff (e : Encounter) :
    e.request.agrees e.met.publisher.type.digest = true ↔ e.Agree :=
  Header.agrees_iff e.request_digest

theorem greeting_agrees_iff (e : Encounter) :
    e.greeting.agrees e.first.type.digest = true ↔ e.Agree :=
  (Header.agrees_iff e.greeting_digest).trans (or_congr eq_comm or_comm)

/-! ### What holds while nothing fails -/

/-- The subscriber has asked, or is asking. -/
def Asks (e : Encounter) (c : Connection) : Prop :=
  (∃ left, c.stage = .requesting left) ∨ c.sent = e.request.encode

def Greeted (e : Encounter) (l : Link) : Prop :=
  e.greeting.encode <+: l.sent

/-- What holds of the two ends of the pipe while nothing fails. -/
structure Orderly (e : Encounter) (m : Meeting) : Prop where
  asks : e.Asks m.connection
  /-- The queue of a link that is used is closed by an overflow only. -/
  closed : m.link.queue.closed = true →
    m.link.queue.overflowed = true ∨ m.link.stage.isOpen = false
  removed : m.link.stage.isRemoved = true → m.link.registered = false
  /-- If the digests agree, the publisher does not leave first, unless the queue overflows. -/
  stays : e.Agree → m.link.stage.isOpen = false →
    m.connection.isOpen = false ∨ e.Greeted m.link ∨ m.link.queue.overflowed = true
  /-- If the digests agree, connecting fails only if the queue overflows during the handshake. -/
  fails : e.Agree → ∀ cause, m.connection.result = some (.error cause) →
    m.link.stage.isOpen = false ∧ m.link.queue.overflowed = true ∧ ¬ e.Greeted m.link

theorem Follows.sent_along (follows : e.Follows after m) (asks : e.Asks m.connection) :
    m.connection.sent <+: e.request.encode := by
  rcases asks with ⟨left, stage⟩ | all
  · have told := follows.told
    rw [Connection.Account, stage] at told
    rw [← told.1]
    exact List.prefix_append _ _
  · exact all ▸ List.prefix_rfl

theorem Follows.link_header (follows : e.Follows after m) (asks : e.Asks m.connection) (fits : e.Fits)
    (stage : m.link.stage = .handshake) (ready : m.link.headerReady = true) :
    m.link.header = .ok e.request := by
  have written := follows.account.written
  rw [Link.Written, stage] at written
  have inbox : m.link.inbox = e.up after := written.2.1
  have along : m.link.inbox <+: e.request.encode := by
    rw [inbox]
    exact follows.flow.upAlong.trans (follows.sent_along asks)
  refine Link.header_framed ?_ fits.request
  rcases m.link.headerReady_iff.mp ready with ended | enough
  · obtain ⟨past, all⟩ := follows.flow.endUp ended
    rcases asks with ⟨left, requesting⟩ | asked
    · rw [Connection.isOpen, requesting] at past
      cases past
    · have same : m.link.inbox = e.request.encode := by rw [inbox, all, asked]
      exact same ▸ List.prefix_rfl
  · have whole : m.link.inbox <+: e.request.encode ++ [] := by
      rw [List.append_nil]
      exact along
    exact enough.whole whole fits.request

/-- A connection that waits for the header of a publisher reads the greeting, or the publisher has left
before that was written. -/
theorem Follows.connection_header (follows : e.Follows after m) (fits : e.Fits)
    (stage : m.connection.stage = .handshake) (ready : m.connection.frameReady = true)
    (greets : m.link.stage.isOpen = false → e.Greeted m.link) : m.connection.header = .ok e.greeting := by
  have told := follows.told
  rw [Connection.Account, stage] at told
  have inbox : m.connection.inbox = e.down after := told.2.1
  have along := follows.flow.downAlong.trans follows.account.written.along
  rw [← inbox] at along
  refine Connection.header_framed ?_ fits.greeting
  rcases m.connection.frameReady_iff.mp ready with ended | enough
  · obtain ⟨past, all⟩ := follows.flow.endDown ended
    rw [inbox, all]
    exact greets past
  · exact enough.whole along fits.greeting

theorem publisher_type (e : Encounter) (after : List Exchange.Move) :
    (e.later after).publisher.type = e.met.publisher.type := by
  rw [later_publisher]
  exact (e.accepting.trans (e.accepted.run_alike _)).2.2.1

theorem Follows.subscriber_type (follows : e.Follows after m) : m.subscriber.type = e.first.type := by
  rw [follows.subscriber]
  exact (e.first.run_alike _).2.2.1

/-- A link that is used goes on until the subscriber leaves or the queue overflows. -/
theorem Follows.link_goes_on (follows : e.Follows after m) (orderly : e.Orderly m) (fits : e.Fits)
    (agree : e.Agree) {p : Publisher} (type : p.type = e.met.publisher.type)
    {move : Publisher.LinkMove} (calm : move.fails = false) {l : Link} (own : m.link.Own p move l)
    (opened : m.link.stage.isOpen = true) (past : l.stage.isOpen = false) :
    m.connection.isOpen = false ∨ l.queue.overflowed = true := by
  cases own with
  | rests => rw [opened] at past; cases past
  | greets => cases past
  | greetsOn => cases past
  | connects => cases past
  | serves => cases past
  | takes => cases past
  | refuses stage ready wrong =>
    have agrees := wrong _ (follows.link_header orderly.asks fits stage ready)
    rw [type, e.request_agrees_iff.mpr agree] at agrees
    cases agrees
  | stops working still silent reason =>
    have closes (closed : m.link.queue.closed = true) :
        m.connection.isOpen = false ∨ m.link.queue.overflowed = true := by
      rcases orderly.closed closed with overflowed | past
      · exact .inr overflowed
      · rw [opened] at past
        cases past
    rcases reason with closed | told | ⟨-, ended⟩
    · exact closes closed
    · exact closes (follows.account.told ▸ told)
    · exact .inl (follows.flow.endUp ended).1
  | fails working still silent reason =>
    rcases reason with rfl | ⟨cause, rfl⟩ | ⟨cause, rfl⟩ <;> cases calm
  | judges stage => rw [stage] at opened; cases opened
  | deregisters stage => rw [stage] at opened; cases opened
  | shuts stage => rw [stage] at opened; cases opened
  | reports stage => rw [stage] at opened; cases opened
  | finishes stage => rw [stage] at opened; cases opened

/-- Connecting fails only if the publisher has left before it has written its header. -/
theorem Follows.connection_goes_on (follows : e.Follows after m) (orderly : e.Orderly m) (fits : e.Fits)
    (agree : e.Agree) {move : Subscriber.ConnectionMove} (calm : move.fails = false) {c : Connection}
    (own : m.connection.Own m.subscriber move c) :
    ∀ cause, c.result = some (.error cause) →
      m.link.stage.isOpen = false ∧ m.link.queue.overflowed = true ∧ ¬ e.Greeted m.link := by
  cases own with
  | refuses stage ready wrong =>
    have unheard : ¬ (m.link.stage.isOpen = false → e.Greeted m.link) := by
      intro greets
      have agrees := wrong _ (follows.connection_header fits stage ready greets)
      rw [follows.subscriber_type, e.greeting_agrees_iff.mpr agree] at agrees
      cases agrees
    have opened : m.connection.isOpen = true := by rw [Connection.isOpen, stage]
    intro _ _
    obtain ⟨past, ungreeted⟩ := Classical.not_imp.mp unheard
    rcases orderly.stays agree past with gone | greeted | overflowed
    · rw [opened] at gone
      cases gone
    · exact absurd greeted ungreeted
    · exact ⟨past, overflowed, ungreeted⟩
  | unreached stage => exact absurd stage follows.flow.reached
  | breaks stage silent reason =>
    rcases reason with rfl | ⟨cause, rfl⟩ | ⟨cause, rfl⟩ <;> cases calm
  | connects stage room => exact fun _ no => by cases no
  | _ => exact orderly.fails agree

theorem Asks.own (asks : e.Asks m.connection) (follows : e.Follows after m)
    {move : Subscriber.ConnectionMove} (calm : move.fails = false) {c : Connection}
    (own : m.connection.Own m.subscriber move c) : e.Asks c := by
  by_cases requesting : ∃ left, m.connection.stage = .requesting left
  · obtain ⟨left, stage⟩ := requesting
    cases own with
    | rests => exact asks
    | requests => exact .inl ⟨_, rfl⟩
    | @requested count left stage all =>
      have told := follows.told
      rw [Connection.Account, stage] at told
      have whole := List.take_of_length_le (List.drop_eq_nil_iff.mp all)
      refine .inr ?_
      rw [whole]
      exact told.1
    | breaks stage silent reason =>
      rcases reason with rfl | ⟨cause, rfl⟩ | ⟨cause, rfl⟩ <;> cases calm
    | _ => simp_all
  · rw [Asks, own.sent_eq fun left stage => requesting ⟨left, stage⟩]
    exact .inr (asks.resolve_left requesting)

theorem Follows.link_id (follows : e.Follows after m) : m.link.id = e.link :=
  (Publisher.id_of_link? follows.joins.link).trans follows.link

theorem Follows.calm_link (follows : e.Follows after m) {move : Publisher.LinkMove}
    (calm : e.calm (.publisher (.link m.link.id move)) = true) : move.fails = false := by
  simpa [Encounter.calm, follows.link_id] using calm

theorem Follows.calm_connection (follows : e.Follows after m) {move : Subscriber.ConnectionMove}
    (calm : e.calm (.subscriber m.number (.connection m.connection.id move)) = true) :
    move.fails = false := by
  have id : m.connection.id = e.connection :=
    (Subscriber.id_of_connection? follows.joins.connection).trans follows.connection
  simpa [Encounter.calm, id, follows.number] using calm

theorem Orderly.change (orderly : e.Orderly m) (follows : e.Follows after m) (fits : e.Fits)
    {move : Exchange.Move} (calm : e.calm move = true) {up down : Bytes}
    (change : m.Change (e.later after) e.met.pipes.length move up down m') : e.Orderly m' := by
  obtain ⟨asks, closed, removed, stays, fails⟩ := orderly
  have orderly : e.Orderly m := ⟨asks, closed, removed, stays, fails⟩
  cases change with
  | apart => exact ⟨asks, closed, removed, stays, fails⟩
  | up => exact ⟨asks, closed, removed, stays, fails⟩
  | down => exact ⟨asks, closed, removed, stays, fails⟩
  | endUp => exact ⟨asks, closed, removed, stays, fails⟩
  | endDown => exact ⟨asks, closed, removed, stays, fails⟩
  | @publisher move l own change =>
    have undisturbed : move ≠ .shutdown := by
      rintro rfl
      cases calm
    refine ⟨asks, change.closed undisturbed closed, change.removed removed, fun agree past => ?_,
      fun agree cause failed => ?_⟩
    · cases opened : m.link.stage.isOpen with
      | false =>
        rcases stays agree opened with gone | greeted | overflowed
        · exact .inl gone
        · exact .inr (.inl (greeted.trans change.sent))
        · exact .inr (.inr (change.overflowed overflowed))
      | true =>
        have past : l.stage.isOpen = false := past
        rcases change.own_or_kept with ⟨move, rfl, moved⟩ | ⟨-, -, -, same, -⟩
        · rcases follows.link_goes_on orderly fits agree (e.publisher_type after)
            (follows.calm_link calm) moved opened past with gone | overflowed
          · exact .inl gone
          · exact .inr (.inr overflowed)
        · rw [same, opened] at past
          cases past
    · obtain ⟨past, overflowed, ungreeted⟩ := fails agree cause failed
      obtain ⟨past', sent⟩ := change.over past
      refine ⟨past', change.overflowed overflowed, fun greeted => ungreeted ?_⟩
      rw [Greeted, ← sent]
      exact greeted
  | @subscriber move s c own change =>
    refine ⟨?_, closed, removed, fun agree past => ?_, fun agree => ?_⟩
    · cases change with
      | own moved => exact asks.own follows (follows.calm_connection calm) moved
      | _ => exact asks
    · rcases stays agree past with gone | rest
      · exact .inl (change.over follows.flow.reached gone).1
      · exact .inr rest
    · cases change with
      | own moved =>
        exact follows.connection_goes_on orderly fits agree (follows.calm_connection calm) moved
      | _ => exact fails agree

theorem orderly_nil (follows : e.Follows [] m) : e.Orderly m := by
  have wired : e.met.Wired := e.fresh.wired e.before
  obtain ⟨c, peer, found, id, stage, joins⟩ := wired.joins_new e.dials
  obtain rfl := follows.unique joins
  have result : c.result = none := follows.told.2.2.2
  refine ⟨.inl ⟨_, rfl⟩, fun no => (by cases no), fun no => (by cases no), fun _ no => (by cases no),
    fun _ cause failed => ?_⟩
  rw [show c.result = some (.error cause) from failed] at result
  cases result

end Encounter

end TopicWire
