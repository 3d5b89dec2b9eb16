import TopicWire.Proofs.Session.Agreement

/-!
# Connections that last

If the digests agree, nothing fails, nobody is asked to stop and no queue overflows, both ends of a pipe
stay open (`Encounter.steady_run`). When nothing is left to do then, the connection has told every frame
that was offered to its link (`Encounter.Follows.told_at_rest`).
-/

namespace TopicWire

/-! ### Frames that were read -/

/-- What has been read is the first of what was sent. -/
theorem Connection.Read.of_sent {type : MessageType} {arrived tail rest first : Bytes} {header : Header}
    {bodies sent : List Bytes} (read : Read type arrived header bodies rest)
    (small : ∀ body ∈ first :: sent, body.length ≤ Frame.maxSize)
    (along : arrived ++ tail = Frame.framedAll (first :: sent)) :
    Header.decodeFields first = .ok header ∧ arrived = Frame.framedAll (first :: bodies) ++ rest ∧
      ∃ later, sent = bodies ++ later ∧ rest ++ tail = Frame.framedAll later := by
  obtain ⟨first', all, short, decoded⟩ := read.parts
  have limit : Frame.maxSize < 0x100000000 := by decide
  have fits : ∀ body ∈ first' :: bodies, body.length ≤ Frame.maxSize :=
    List.forall_mem_cons.mpr ⟨short, read.small⟩
  have all : arrived = Frame.framedAll (first' :: bodies) ++ rest := by
    rw [all, Frame.framedAll_cons, List.append_assoc]
  have frames : Frame.framedAll (first' :: bodies) ++ (rest ++ tail) = Frame.framedAll (first :: sent) := by
    rw [← along, all, List.append_assoc]
  obtain ⟨later, same, left⟩ := Frame.framedAll_append_eq
    (fun body there => Nat.lt_of_le_of_lt (fits body there) limit)
    (fun body there => Nat.lt_of_le_of_lt (small body there) limit) frames
  obtain ⟨rfl, rfl⟩ := List.cons_eq_cons.mp same
  exact ⟨decoded, all, later, rfl, left⟩

theorem Connection.Read.left_over {type : MessageType} {arrived tail rest : Bytes} {header sent : Header}
    {bodies payloads : List Bytes} (read : Read type arrived header bodies rest)
    (fits : sent.encodeFields.length ≤ Frame.maxSize) (small : ∀ b ∈ payloads, b.length ≤ Frame.maxSize)
    (along : arrived ++ tail = sent.encode ++ Frame.framedAll payloads) :
    ∃ more, payloads = bodies ++ more ∧ rest ++ tail = Frame.framedAll more := by
  have along : arrived ++ tail = Frame.framedAll (sent.encodeFields :: payloads) := along
  obtain ⟨-, -, left⟩ := read.of_sent (List.forall_mem_cons.mpr ⟨fits, small⟩) along
  exact left

/-! ### What a link and a connection keep -/

theorem Link.Change.registered {p : Publisher} {l l' : Link} {move : Publisher.Move}
    (change : l.Change p move l') (calm : move ≠ .shutdown) (opened : l.stage.isOpen = true) :
    l'.registered = l.registered := by
  cases change with
  | pushed made =>
    obtain ⟨queue, eq⟩ := Publisher.pushTo_eq _ l
    rw [eq]
  | dismissed => exact absurd rfl calm
  | own moved =>
    cases moved with
    | deregisters stage =>
      rw [stage] at opened
      cases opened
    | _ => rfl
  | _ => rfl

/-- Nobody asks a connection to stop. -/
def Subscriber.Move.goesOn : Subscriber.Move → Bool
  | .close => false
  | .drop => false
  | _ => true

theorem Connection.Change.stopped {s : Subscriber} {c c' : Connection} {move : Subscriber.Move}
    (change : c.Change s move c') (goesOn : move.goesOn = true) : c'.stopped = c.stopped := by
  cases change with
  | asked closing => rcases closing with rfl | rfl <;> cases goesOn
  | own moved => cases moved <;> rfl
  | _ => rfl

theorem Subscriber.unasked_run {s : Subscriber} {moves : List Move} (numbered : s.Numbered)
    (unasked : ∀ id c, s.connection? id = some c → c.stopped = false)
    (goesOn : ∀ move ∈ moves, move.goesOn = true) {id : Nat} {c : Connection}
    (found : (s.run moves).connection? id = some c) : c.stopped = false := by
  induction moves generalizing s with
  | nil => exact unasked id c found
  | cons move moves ih =>
    refine ih (numbered.step move) (fun id c' found' => ?_)
      (fun move there => goesOn move (List.mem_cons_of_mem _ there)) found
    rcases connection?_of_step numbered found' with ⟨c, before, change⟩ | ⟨-, -, -, rfl⟩
    · rw [change.stopped (goesOn move List.mem_cons_self)]
      exact unasked id c before
    · rfl

namespace Encounter

variable {e : Encounter} {after : List Exchange.Move} {m m' : Meeting}

/-- The frames for the subscriber have these payloads, none of which is too long. -/
def Offers (e : Encounter) (after : List Exchange.Move) (payloads : List Bytes) : Prop :=
  e.offered after = payloads.map Frame.framed ∧ ∀ body ∈ payloads, body.length ≤ Frame.maxSize

/-- Unless the queue overflows, both ends of the pipe stay open. -/
def Steady (m : Meeting) : Prop :=
  m.link.queue.overflowed = false →
    m.link.stage.isOpen = true ∧ m.link.registered = true ∧ m.connection.isOpen = true

/-! ### What is read is a frame -/

theorem Follows.taken (follows : e.Follows after m) {payloads : List Bytes}
    (offers : e.Offers after payloads) :
    ∃ taken : List Bytes, (e.departed after).filterMap Departure.taken? = taken.map Frame.framed ∧
      ∀ body ∈ taken, body.length ≤ Frame.maxSize := by
  have along := follows.account.along
  rw [offers.1] at along
  have sub := (Departure.taken_sublist (e.departed after)).trans along.sublist
  obtain ⟨taken, sublist, same⟩ := List.sublist_map_iff.mp sub
  exact ⟨taken, same, fun body there => offers.2 body (sublist.subset there)⟩

theorem Follows.frame_whole (follows : e.Follows after m) (fits : e.Fits) {payloads : List Bytes}
    (offers : e.Offers after payloads) (stage : m.connection.stage = .reading)
    (ready : Frame.Ready m.connection.inbox) : ∃ body, m.connection.frame.1 = .ok (some body) := by
  have told := follows.told
  rw [Connection.Account, stage] at told
  obtain ⟨header, bodies, read, -⟩ := told
  obtain ⟨taken, same, small⟩ := follows.taken offers
  obtain ⟨tail, along⟩ := follows.flow.downAlong.trans follows.account.written.along
  rw [same] at along
  obtain ⟨more, rfl, left⟩ := read.left_over fits.greeting small along
  cases more with
  | nil =>
    have none := (List.append_eq_nil_iff.mp left).1
    rw [none] at ready
    exact absurd ready.1 (by decide)
  | cons body more =>
    have short := small body (List.mem_append_right _ List.mem_cons_self)
    rw [Frame.framedAll_cons] at left
    exact ⟨body, Connection.frame_framed (ready.whole ⟨tail, left⟩ short) short⟩

/-! ### Both ends stay open -/

theorem Follows.unasked (follows : e.Follows after m)
    (goesOn : ∀ move ∈ e.subscriberMoves after, move.goesOn = true) : m.connection.stopped = false := by
  have found := follows.joins.connection
  rw [follows.subscriber] at found
  obtain ⟨callerId, topic, type, settings, first⟩ :=
    e.fresh.subscribers e.first (List.mem_of_getElem? e.there)
  rw [first] at found
  exact Subscriber.unasked_run (Subscriber.kept_new callerId topic type settings).1
    (fun _ _ none => by cases none) goesOn found

/-- A connection goes on while the publisher does. -/
theorem Follows.connection_stays (follows : e.Follows after m) (orderly : e.Orderly m) (fits : e.Fits)
    (agree : e.Agree) {payloads : List Bytes} (offers : e.Offers after payloads)
    (opened : m.link.stage.isOpen = true) (used : m.connection.isOpen = true)
    (unasked : m.connection.stopped = false) {move : Subscriber.ConnectionMove}
    (calm : move.fails = false) {c : Connection} (own : m.connection.Own m.subscriber move c) :
    c.isOpen = true := by
  have lasting : m.connection.inboxEnded = false := by
    cases ended : m.connection.inboxEnded with
    | false => rfl
    | true => rw [(follows.flow.endDown ended).1] at opened; cases opened
  have enough (ready : m.connection.frameReady = true) : Frame.Ready m.connection.inbox := by
    refine (m.connection.frameReady_iff.mp ready).resolve_left ?_
    rw [lasting]
    exact Bool.false_ne_true
  have unbroken {cause : SessionError} (failed : c.result = some (.error cause)) : False := by
    obtain ⟨past, -⟩ := follows.connection_goes_on orderly fits agree calm own cause failed
    rw [opened] at past
    cases past
  cases own with
  | rests => exact used
  | unreached stage => exact absurd stage follows.flow.reached
  | refuses => exact (unbroken rfl).elim
  | breaks => exact (unbroken rfl).elim
  | runsOut stage ready read =>
    have short := (enough ready).1
    rw [Connection.frame_none read] at short
    exact absurd short (by decide)
  | misreads stage ready read =>
    obtain ⟨body, whole⟩ := follows.frame_whole fits offers stage (enough ready)
    rw [read] at whole
    cases whole
  | stops stage asked =>
    rw [unasked] at asked
    cases asked
  | fails => cases calm
  | releases stage =>
    rw [Connection.isOpen, stage] at used
    cases used
  | unhooks stage =>
    rw [Connection.isOpen, stage] at used
    cases used
  | finishes stage =>
    rw [Connection.isOpen, stage] at used
    cases used
  | _ => rfl

theorem Steady.change (steady : Steady m) (follows : e.Follows after m) (orderly : e.Orderly m)
    (fits : e.Fits) (agree : e.Agree) {payloads : List Bytes} (offers : e.Offers after payloads)
    (unasked : m.connection.stopped = false) {move : Exchange.Move} (calm : e.calm move = true)
    {up down : Bytes} (change : m.Change (e.later after) e.met.pipes.length move up down m') :
    Steady m' := by
  cases change with
  | apart => exact steady
  | up => exact steady
  | down => exact steady
  | endUp => exact steady
  | endDown => exact steady
  | @publisher move l own change =>
    have undisturbed : move ≠ .shutdown := by
      rintro rfl
      cases calm
    intro room
    have before : m.link.queue.overflowed = false := by
      cases overflowed : m.link.queue.overflowed with
      | false => rfl
      | true => rw [change.overflowed overflowed] at room; cases room
    obtain ⟨opened, registered, used⟩ := steady before
    refine ⟨?_, (change.registered undisturbed opened).trans registered, used⟩
    rcases change.own_or_kept with ⟨move, rfl, moved⟩ | ⟨-, -, -, same, -⟩
    · cases past : l.stage.isOpen with
      | true => rfl
      | false =>
        rcases follows.link_goes_on orderly fits agree (e.publisher_type after)
          (follows.calm_link calm) moved opened past with gone | overflowed
        · rw [used] at gone
          cases gone
        · rw [overflowed] at room
          cases room
    · rw [same]
      exact opened
  | @subscriber move s c own change =>
    intro room
    obtain ⟨opened, registered, used⟩ := steady room
    refine ⟨opened, registered, ?_⟩
    cases change with
    | own moved =>
      exact follows.connection_stays orderly fits agree offers opened used unasked
        (follows.calm_connection calm) moved
    | _ => exact used

theorem steady_nil (follows : e.Follows [] m) : Steady m := by
  obtain ⟨c, peer, -, -, -, joins⟩ := (e.fresh.wired e.before).joins_new e.dials
  obtain rfl := follows.unique joins
  exact fun _ => ⟨rfl, rfl, rfl⟩

theorem offered_snoc (move : Exchange.Move) : e.offered (after ++ [move]) = e.offered after ++
    (e.accepted.run (e.publisherMoves after)).publishedIn ((e.later after).publisherMoves move) := by
  rw [offered, publisherMoves_snoc, Publisher.publishedIn, history_append, ← List.append_assoc]
  rfl

theorem Offers.earlier {move : Exchange.Move} {payloads : List Bytes}
    (offers : e.Offers (after ++ [move]) payloads) : ∃ payloads, e.Offers after payloads := by
  obtain ⟨all, small⟩ := offers
  rw [offered_snoc] at all
  obtain ⟨first, second, rfl, same, -⟩ := List.map_eq_append_iff.mp all.symm
  exact ⟨first, same.symm, fun body there => small body (List.mem_append_left _ there)⟩

theorem steady_run (fits : e.Fits) (agree : e.Agree) {payloads : List Bytes}
    (offers : e.Offers after payloads) (calm : ∀ move ∈ after, e.calm move = true)
    (goesOn : ∀ move ∈ e.subscriberMoves after, move.goesOn = true) :
    ∃ m, e.Follows after m ∧ e.Orderly m ∧ Steady m := by
  obtain ⟨m, follows, held⟩ := e.induction
    (motive := fun moves m => (∀ move ∈ moves, e.calm move = true) →
      (∀ move ∈ e.subscriberMoves moves, move.goesOn = true) → (∃ payloads, e.Offers moves payloads) →
      e.Orderly m ∧ Steady m)
    (fun m follows _ _ _ => ⟨orderly_nil follows, steady_nil follows⟩)
    (fun moves move m m' up down follows held follows' change calm goesOn offers => by
      rw [subscriberMoves_snoc] at goesOn
      have goesOn := fun part there => goesOn part (List.mem_append_left _ there)
      obtain ⟨payloads, offers⟩ := offers
      obtain ⟨earlier, before⟩ := offers.earlier
      obtain ⟨orderly, steady⟩ := held (fun move there => calm move (List.mem_append_left _ there))
        goesOn ⟨earlier, before⟩
      have last := calm move (List.mem_append_right _ (.head _))
      exact ⟨orderly.change follows fits last change,
        steady.change follows orderly fits agree before (follows.unasked goesOn) last change⟩) after
  exact ⟨m, follows, held calm goesOn ⟨payloads, offers⟩⟩

/-! ### At rest -/

/-- A link at rest has written the greeting and every offered frame, if it has evicted none. -/
theorem Follows.written_at_rest (follows : e.Follows after m) (orderly : e.Orderly m) (fits : e.Fits)
    (rest : m.AtRest) (opened : m.link.stage.isOpen = true) (registered : m.link.registered = true)
    (kept : m.link.queue.dropped = 0) {payloads : List Bytes} (offers : e.Offers after payloads) :
    m.link.sent = e.greeting.encode ++ Frame.framedAll payloads := by
  have serving : m.link.stage = .serving [] := by
    rcases follows.link_at_rest orderly.asks fits rest with ⟨serving, -⟩ | done
    · exact serving
    · rw [done] at opened
      cases opened
  rcases Link.rest_cases rest.link with ⟨stage, -⟩ | ⟨-, empty, unannounced, -⟩ | stage
  · rw [serving] at stage
    cases stage
  · have all := follows.account.whole registered (follows.account.told ▸ unannounced)
    have counted := follows.account.counted
    have written := follows.account.written
    rw [kept, Nat.add_zero] at counted
    rw [empty, List.append_nil] at all
    simp only [Link.Written, serving, List.append_nil] at written
    rw [written, Departure.taken_eq_of_length counted, all, offers.1]
    rfl
  · rw [serving] at stage
    cases stage

/-- At rest a connection that has lasted has told the greeting and every offered frame. -/
theorem Follows.told_at_rest (follows : e.Follows after m) (orderly : e.Orderly m) (steady : Steady m)
    (fits : e.Fits) (rest : m.AtRest) (room : m.link.queue.overflowed = false)
    (kept : m.link.queue.dropped = 0) {payloads : List Bytes} (offers : e.Offers after payloads) :
    e.told after = Connection.opened e.first.type e.greeting payloads := by
  obtain ⟨opened, registered, used⟩ := steady room
  have written := follows.written_at_rest orderly fits rest opened registered kept offers
  have all : e.down after = m.link.sent :=
    Meeting.eq_of_length_le follows.flow.downAlong (follows.flow.downLength ▸ rest.down)
  have along : e.down after ++ [] = e.greeting.encode ++ Frame.framedAll payloads := by
    rw [List.append_nil, all, written]
  have told := follows.told
  rcases Connection.rest_cases rest.connection with stage | ⟨stage, waits⟩ | ⟨stage, waits, -⟩ | stage
  · exact absurd stage follows.flow.reached
  · have greeted : e.Greeted m.link := by
      rw [Greeted, written]
      exact List.prefix_append _ _
    exact absurd greeted (follows.ungreeted_at_rest fits rest stage waits)
  · rw [Connection.Account, stage] at told
    obtain ⟨header, bodies, read, -, told, -⟩ := told
    obtain ⟨rfl, -⟩ := follows.read_greeting fits read
    obtain ⟨more, rfl, left⟩ := read.left_over fits.greeting offers.2 along
    cases more with
    | nil => rw [told, List.append_nil]
    | cons body more =>
      -- A frame that has not been read would be ready.
      have short := offers.2 body (List.mem_append_right _ List.mem_cons_self)
      rw [List.append_nil, Frame.framedAll_cons] at left
      have ready : m.connection.frameReady = true :=
        m.connection.frameReady_iff.mpr (.inr (left ▸ Frame.ready_framed short _))
      rw [waits] at ready
      cases ready
  · rw [Connection.isOpen, stage] at used
    cases used

end Encounter

end TopicWire
