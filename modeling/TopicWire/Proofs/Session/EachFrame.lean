import Mathlib.Data.List.Infix
import TopicWire.Proofs.Session.Settling
import TopicWire.Proofs.Session.Steady

/-!
# One event for each frame

A publisher sends a header and then frames, in any pieces. Whatever else happens to the subscriber, a
connection that nobody closes tells an event for each frame, in order: its message, or why it is none. It
does not end because of a frame that is no message. It ends when there is no further frame, or because
reading fails (`Connection.Ceased`); while it waits it has told all frames that have arrived
(`Subscriber.tells_each_frame`).
-/

namespace TopicWire

/-! ### What a publisher sends -/

/-- The publisher of a connection sends these bytes, in any pieces, and closes its side only after the
last of them. -/
structure Subscriber.Supplied (start : Subscriber) (id : Nat) (bytes : Bytes)
    (moves : List Subscriber.Move) : Prop where
  along : start.arrived id moves <+: bytes
  whole : ∀ before, before <+: moves → ((start.run before).connection? id).any (·.inboxEnded) = true →
    start.arrived id before = bytes

theorem Subscriber.Supplied.earlier {start : Subscriber} {id : Nat} {bytes : Bytes}
    {moves later : List Subscriber.Move} (supplied : start.Supplied id bytes (moves ++ later)) :
    start.Supplied id bytes moves := by
  refine ⟨?_, fun before earlier => supplied.whole before (earlier.trans (List.prefix_append _ _))⟩
  have part : start.arrived id moves <+: start.arrived id (moves ++ later) := by
    rw [Subscriber.arrived, Subscriber.arrived, history_append]
    exact List.prefix_append _ _
  exact part.trans supplied.along

namespace Connection

variable {s : Subscriber} {c c' : Connection} {type : MessageType} {request arrived tail : Bytes}
  {told : List (SubscriberEvent × Bool)} {header : Header} {first : Bytes} {sent bodies : List Bytes}
  {rest : Bytes}

/-- Of frames that follow each other, one is read whenever one can be. -/
theorem frame_of_sent (small : ∀ body ∈ sent, body.length ≤ Frame.maxSize)
    (along : c.inbox ++ tail = Frame.framedAll sent) (ready : c.frameReady = true)
    (ended : c.inboxEnded = true → tail = []) :
    sent = [] ∧ c.frame.1 = .ok none ∨ ∃ body, c.frame.1 = .ok (some body) := by
  cases sent with
  | nil =>
    have empty : c.inbox = [] := (List.append_eq_nil_iff.mp along).1
    refine .inl ⟨rfl, ?_⟩
    rw [Connection.frame, empty]
    rfl
  | cons body sent =>
    have short := small body List.mem_cons_self
    rw [Frame.framedAll_cons] at along
    refine .inr ⟨body, frame_framed ?_ short⟩
    rcases c.frameReady_iff.mp ready with past | ready
    · rw [ended past, List.append_nil] at along
      rw [along]
      exact List.prefix_append _ _
    · exact ready.whole ⟨tail, along⟩ short

/-- What an accepted connection has read. While it still reads it has told all frames but the one that it
hands over. -/
theorem Account.of_accepted (account : c.Account request type arrived told)
    (accepted : c.result = some (.ok header)) :
    ∃ bodies rest, Read type arrived header bodies rest ∧
      (c.stage.lives = true → ∃ delivered pending, bodies = delivered ++ pending ∧
        told = opened type header delivered ∧ (c.stage = .reading → pending = [] ∧ rest = c.inbox)) := by
  have connecting (result : c.result = none) : False := by
    rw [accepted] at result
    cases result
  have same {header' : Header} (result : c.result = some (.ok header')) : header' = header := by
    rw [accepted] at result
    exact (Except.ok.inj (Option.some.inj result)).symm
  have past {told : List (SubscriberEvent × Bool)} (past : c.Over type arrived told) :
      ∃ bodies rest, Read type arrived header bodies rest := by
    obtain ⟨header', bodies, rest, read, -, result⟩ := past
    exact ⟨bodies, rest, same result ▸ read⟩
  unfold Account at account
  cases stage : c.stage with
  | reading =>
    simp only [stage] at account
    obtain ⟨header', bodies, read, -, told, result⟩ := account
    obtain rfl := same result
    exact ⟨bodies, _, read, fun _ => ⟨bodies, [], (List.append_nil _).symm, told, fun _ => ⟨rfl, rfl⟩⟩⟩
  | delivering event =>
    simp only [stage] at account
    obtain ⟨header', bodies, body, read, -, -, told, result⟩ := account
    obtain rfl := same result
    exact ⟨_, _, read, fun _ => ⟨bodies, [body], rfl, told, ConnectionStage.noConfusion⟩⟩
  | dialling => simp only [stage] at account; exact (connecting account.2.2.2).elim
  | requesting left => simp only [stage] at account; exact (connecting account.2.2.2).elim
  | handshake => simp only [stage] at account; exact (connecting account.2.2.2).elim
  | accepted header' => simp only [stage] at account; exact (connecting account.2.2.2).elim
  | done =>
    simp only [stage] at account
    rcases account with ⟨e, failed, -⟩ | ⟨-, earlier, room, finished, -⟩
    · rw [accepted] at failed
      cases failed
    · obtain ⟨bodies, rest, read⟩ := past finished
      exact ⟨bodies, rest, read, Bool.noConfusion⟩
  | _ =>
    simp only [stage] at account
    obtain ⟨bodies, rest, read⟩ := past account.1
    exact ⟨bodies, rest, read, Bool.noConfusion⟩

theorem Account.decoded (account : c.Account request type arrived told)
    (accepted : c.result = some (.ok header))
    (small : ∀ body ∈ first :: sent, body.length ≤ Frame.maxSize)
    (along : arrived ++ tail = Frame.framedAll (first :: sent)) : Header.decodeFields first = .ok header := by
  obtain ⟨bodies, rest, read, -⟩ := account.of_accepted accepted
  exact (read.of_sent small along).1

/-- A connection that still reads has told the first frames, and the next ones have not been read. -/
theorem Account.live (account : c.Account request type arrived told) (lives : c.stage.lives = true)
    (accepted : c.result = some (.ok header))
    (small : ∀ body ∈ first :: sent, body.length ≤ Frame.maxSize)
    (along : arrived ++ tail = Frame.framedAll (first :: sent)) :
    ∃ delivered left, sent = delivered ++ left ∧ told = opened type header delivered ∧
      (c.stage = .reading → arrived = Frame.framedAll (first :: delivered) ++ c.inbox) := by
  obtain ⟨bodies, rest, read, alive⟩ := account.of_accepted accepted
  obtain ⟨delivered, pending, rfl, told, reading⟩ := alive lives
  obtain ⟨-, all, left, split, -⟩ := read.of_sent small along
  refine ⟨delivered, pending ++ left, by rw [split, List.append_assoc], told, fun stage => ?_⟩
  obtain ⟨rfl, rfl⟩ := reading stage
  rwa [List.append_nil] at all

/-- A connection that waits has told all frames that have arrived. -/
theorem Account.at_rest (account : c.Account request type arrived told)
    (rest : Subscriber.Connection.ownMove? c = none) (lives : c.stage.lives = true)
    (accepted : c.result = some (.ok header))
    (small : ∀ body ∈ first :: sent, body.length ≤ Frame.maxSize) {delivered left whole : List Bytes}
    (split : sent = delivered ++ left)
    (reading : c.stage = .reading → arrived = Frame.framedAll (first :: delivered) ++ c.inbox)
    (part : whole <+: sent) (there : Frame.framedAll (first :: whole) <+: arrived) : whole <+: delivered := by
  have connecting (result : c.result = none) : False := by
    rw [accepted] at result
    cases result
  rw [Account] at account
  rcases rest_cases rest with stage | ⟨stage, -⟩ | ⟨stage, waits, -⟩ | stage
  · rw [stage] at account
    exact (connecting account.2.2.2).elim
  · rw [stage] at account
    exact (connecting account.2.2.2).elim
  · have before : delivered <+: sent := split ▸ List.prefix_append _ _
    rcases List.prefix_or_prefix_of_prefix part before with short | ⟨more, rfl⟩
    · exact short
    · cases more with
      | nil => rw [List.append_nil]
      | cons body more =>
        -- The frame that comes next is in the inbox, so the connection would not wait.
        have fits := small body (List.mem_cons_of_mem _ (part.subset
          (List.mem_append_right _ List.mem_cons_self)))
        rw [reading stage, ← List.cons_append, Frame.framedAll_append, List.prefix_append_right_inj,
          Frame.framedAll_cons] at there
        obtain ⟨behind, inbox⟩ := there
        have ready : c.frameReady = true := by
          rw [c.frameReady_iff, ← inbox, List.append_assoc]
          exact .inr (Frame.ready_framed fits _)
        rw [waits] at ready
        cases ready
  · rw [stage] at lives
    cases lives

/-! ### How a connection ends -/

/-- Why a connection reads no further frame when these are left, and what it tells of that. -/
inductive Ceased (moves : List Subscriber.Move) (id : Nat) (left : List Bytes) :
    List (SubscriberEvent × Bool) → Prop
  /-- There is no further frame. -/
  | ranOut (none : left = []) : Ceased moves id left []
  /-- Reading has failed. -/
  | failed {cause room} (made : .connection id (.readFails cause) ∈ moves) :
      Ceased moves id left [(.failed (.failed cause), room)]

/-- What a connection has told that reads no further frame. -/
def Finished (type : MessageType) (header : Header) (sent : List Bytes) (moves : List Subscriber.Move)
    (id : Nat) (told : List (SubscriberEvent × Bool)) (c : Connection) : Prop :=
  ∃ delivered left failure last, sent = delivered ++ left ∧
    told = opened type header delivered ++ failure ++ last ∧ Ceased moves id left failure ∧ c.Last last

variable {moves : List Subscriber.Move} {id : Nat}

theorem Ceased.later {left : List Bytes} {failure : List (SubscriberEvent × Bool)}
    (ceased : Ceased moves id left failure) (move : Subscriber.Move) :
    Ceased (moves ++ [move]) id left failure := by
  cases ceased with
  | ranOut none => exact .ranOut none
  | failed made => exact .failed (List.mem_append_left _ made)

theorem Finished.keep (finished : Finished type header sent moves id told c) (stage : c'.stage = c.stage)
    (move : Subscriber.Move) : Finished type header sent (moves ++ [move]) id told c' := by
  obtain ⟨delivered, left, failure, last, split, all, ceased, ends⟩ := finished
  refine ⟨delivered, left, failure, last, split, all, ceased.later move, ?_⟩
  rwa [Last, stage]

theorem Own.stopped_eq {move : Subscriber.ConnectionMove} (own : c.Own s move c') :
    c'.stopped = c.stopped := by
  cases own <;> rfl

theorem Finished.own {move : Subscriber.ConnectionMove} (finished : Finished type header sent moves id told c)
    (own : c.Own s move c') (past : c.stage.lives = false) :
    Finished type header sent (moves ++ [.connection id move]) id (told ++ c.adds s.events.hasRoom move)
      c' := by
  obtain ⟨delivered, left, failure, last, split, rfl, ceased, ends⟩ := finished
  exact ⟨delivered, left, failure, _, split, List.append_assoc _ _ _, ceased.later _, own.last past ends⟩

/-- A connection that nobody has asked to stop reads on until there is no further frame, or reading
fails. A frame that is no message does not end it. -/
theorem Own.ceases {move : Subscriber.ConnectionMove} (own : c.Own s move c')
    (lives : c.stage.lives = true) (past : c'.stage.lives = false) (unasked : c'.stopped = false)
    (accepted : c'.result = some (.ok header)) (account : c.Account request s.type arrived told)
    (small : ∀ body ∈ first :: sent, body.length ≤ Frame.maxSize)
    (along : arrived ++ tail = Frame.framedAll (first :: sent)) (ended : c.inboxEnded = true → tail = []) :
    Finished s.type header sent (moves ++ [.connection id move]) id
      (told ++ c.adds s.events.hasRoom move) c' := by
  have later : ∀ body ∈ sent, body.length ≤ Frame.maxSize :=
    fun body there => small body (List.mem_cons_of_mem _ there)
  have refused {e : SessionError} (failed : some (.error e) = some (Except.ok header)) : False := by
    cases failed
  -- What is known of a connection that reads.
  have reading (stage : c.stage = .reading) (same : c'.result = c.result) : ∃ bodies left,
      sent = bodies ++ left ∧ c.inbox ++ tail = Frame.framedAll left ∧ told = opened s.type header bodies := by
    rw [Account, stage] at account
    obtain ⟨header', bodies, read, -, told, result⟩ := account
    obtain ⟨-, -, left, split, frames⟩ := read.of_sent small along
    rw [← same, accepted] at result
    obtain rfl := Except.ok.inj (Option.some.inj result)
    exact ⟨bodies, left, split, frames, told⟩
  cases own with
  | rests => rw [lives] at past; cases past
  | dials => cases past
  | unreached => exact (refused accepted).elim
  | requests => cases past
  | requested => cases past
  | accepts => cases past
  | refuses => exact (refused accepted).elim
  | breaks => exact (refused accepted).elim
  | connects => cases past
  | delivers => cases past
  | reads => cases past
  | runsOut stage ready frame =>
    obtain ⟨bodies, left, rfl, frames, rfl⟩ := reading stage rfl
    have small := fun body there => later body (List.mem_append_right _ there)
    have silent : c.tells s.events.hasRoom .readFrame = none := by simp only [tells, stage, ready, frame]
    rcases frame_of_sent small frames ready ended with ⟨rfl, -⟩ | ⟨body, other⟩
    · refine ⟨bodies, [], [], [], rfl, ?_, .ranOut rfl, rfl⟩
      rw [adds, silent, List.append_nil, List.append_nil]
      exact List.append_nil _
    · rw [frame] at other
      cases other
  | misreads stage ready frame =>
    obtain ⟨bodies, left, rfl, frames, rfl⟩ := reading stage rfl
    have small := fun body there => later body (List.mem_append_right _ there)
    rcases frame_of_sent small frames ready ended with ⟨-, other⟩ | ⟨body, other⟩ <;>
      rw [frame] at other <;> cases other
  | stops stage asked =>
    rw [asked] at unasked
    cases unasked
  | @fails cause stage =>
    obtain ⟨bodies, left, rfl, frames, rfl⟩ := reading stage rfl
    refine ⟨bodies, left, [(.failed (.failed cause), s.events.hasRoom)], [], rfl, ?_,
      .failed (List.mem_append_right _ List.mem_cons_self), rfl⟩
    simp only [adds, tells, stage]
    exact (List.append_nil _).symm
  | releases stage => rw [stage] at lives; cases lives
  | unhooks stage => rw [stage] at lives; cases lives
  | finishes stage => rw [stage] at lives; cases lives

end Connection

/-! ### Room for events -/

namespace Channel

variable {α : Type} {channel : Channel α}

/-- A channel that can hold an event and does not hold more than it can. -/
def Sound (channel : Channel α) : Prop :=
  channel.items.length ≤ channel.capacity ∧ 0 < channel.capacity

theorem Sound.offer (sound : channel.Sound) (event : α) : (channel.offer event).Sound := by
  unfold Channel.offer
  split
  · rename_i room
    have less : channel.items.length < channel.capacity := of_decide_eq_true room
    refine ⟨?_, sound.2⟩
    rw [List.length_append]
    exact less
  · exact sound

theorem Sound.receive (sound : channel.Sound) : channel.receive.2.Sound := by
  unfold Channel.receive
  split
  · exact sound
  · rename_i event rest items
    have fits := sound.1
    rw [items, List.length_cons] at fits
    exact ⟨by dsimp only; omega, sound.2⟩

theorem Sound.room (sound : channel.Sound) (full : channel.hasRoom = false) :
    channel.receive.2.hasRoom = true := by
  have filled : ¬ channel.items.length < channel.capacity := of_decide_eq_false full
  obtain ⟨fits, positive⟩ := sound
  unfold Channel.receive
  split
  · rename_i items
    rw [items] at filled
    exact absurd positive filled
  · rename_i event rest items
    rw [items, List.length_cons] at fits
    exact decide_eq_true (by dsimp only; omega)

end Channel

namespace Subscriber

theorem foldl_offer_sound {channel : Channel SubscriberEvent} (sound : channel.Sound)
    (events : List SubscriberEvent) : (events.foldl Channel.offer channel).Sound := by
  induction events generalizing channel with
  | nil => exact sound
  | cons event events ih => exact ih (sound.offer event)

theorem sound_run (callerId topic : String) (type : MessageType) (settings : SubscriberSettings)
    (moves : List Move) : ((new callerId topic type settings).run moves).events.Sound := by
  have start : (new callerId topic type settings).events.Sound :=
    ⟨Nat.zero_le _, Nat.le_max_right settings.eventCapacity 1⟩
  refine run_induction (motive := fun _ (s : Subscriber) => s.events.Sound) start
    (fun moves move sound => ?_) moves
  have change := (((new callerId topic type settings).run moves)).step_change move
  change Channel.Sound (((new callerId topic type settings).run moves).step move).events
  generalize ((new callerId topic type settings).run moves).step move = t at change ⊢
  cases change with
  | acts => exact foldl_offer_sound sound _
  | receives => exact sound.receive
  | _ => exact sound

/-! ### Each frame once -/

theorem finished_run (callerId topic : String) (type : MessageType) (settings : SubscriberSettings)
    (moves : List Move) {id : Nat} {c : Connection} {header : Header} {first : Bytes} {sent : List Bytes}
    (small : ∀ body ∈ first :: sent, body.length ≤ Frame.maxSize)
    (supplied : (new callerId topic type settings).Supplied id (Frame.framedAll (first :: sent)) moves)
    (found : ((new callerId topic type settings).run moves).connection? id = some c)
    (unasked : c.stopped = false) (accepted : c.result = some (.ok header))
    (past : c.stage.lives = false) :
    Connection.Finished type header sent moves id
      (Connection.toldBy id ((new callerId topic type settings).toldIn moves)) c := by
  generalize start_eq : new callerId topic type settings = start at supplied found ⊢
  refine run_induction (motive := fun moves (s : Subscriber) =>
    start.Supplied id (Frame.framedAll (first :: sent)) moves → ∀ c : Connection,
      s.connection? id = some c → c.stopped = false → c.result = some (.ok header) →
        c.stage.lives = false →
          Connection.Finished type header sent moves id (Connection.toldBy id (start.toldIn moves)) c) ?_
    (fun moves move held supplied c' found unasked accepted past => ?_) moves supplied c found unasked
    accepted past
  · subst start_eq
    intro _ c found
    cases found
  · have numbered : (start.run moves).Numbered := start_eq ▸ (run_new callerId topic type settings moves).1
    have sameType : (start.run moves).type = type := start_eq ▸ (start.run_alike moves).2.2.1
    have before := supplied.earlier
    rw [toldIn_snoc, Connection.toldBy_append]
    rcases connection?_of_step numbered found with ⟨c, there, change⟩ | ⟨-, -, -, rfl⟩
    · have same := id_of_connection? there
      rcases change.own_or_still with ⟨own, rfl, moved⟩ | ⟨silent, stage, result, still, -⟩
      · subst same
        rw [Connection.toldBy_tells there]
        cases lives : c.stage.lives with
        | false =>
          rw [moved.stopped_eq] at unasked
          rw [moved.result_eq lives] at accepted
          exact (held before c there unasked accepted lives).own moved lives
        | true =>
          have account := account_run callerId topic type settings moves (start_eq ▸ there)
          obtain ⟨tail, along⟩ := before.along
          have ended (ended : c.inboxEnded = true) : tail = [] := by
            have whole := before.whole moves List.prefix_rfl (by rwa [there])
            rw [whole] at along
            exact List.append_cancel_left (along.trans (List.append_nil _).symm)
          rw [start_eq, ← sameType] at account
          rw [← sameType]
          exact moved.ceases lives past unasked accepted account small along ended
      · rw [same] at silent
        rw [silent, List.append_nil]
        exact (held before c there (still unasked) (result ▸ accepted) (stage ▸ past)).keep stage move
    · cases past

/-- What a connection has told of the frames sent to it. -/
structure TellsEach (start : Subscriber) (moves : List Move) (id : Nat) (first : Bytes) (sent : List Bytes)
    (c : Connection) (header : Header) (delivered left : List Bytes)
    (ending : List (SubscriberEvent × Bool)) : Prop where
  decoded : Header.decodeFields first = .ok header
  split : sent = delivered ++ left
  /-- All these events have found room. -/
  told : Connection.toldBy id (start.toldIn moves) = (.connected header, true) ::
    delivered.map (fun body => (eventOf start.type body, true)) ++ ending
  /-- A frame is told as its message, or as the text of the reason why it is none. -/
  event : ∀ body, match start.type.decodeBody body with
    | .ok m => eventOf start.type body = .message m
    | .error e => ∃ cause, eventOf start.type body = .failed cause ∧ cause.message = e.message
  heard : start.heardIn moves ++ (start.run moves).events.items = heardOf (start.toldIn moves)
  live : c.stage.lives = true → ending = []
  past : c.stage.lives = false →
    ∃ failure last, ending = failure ++ last ∧ Connection.Ceased moves id left failure ∧ c.Last last
  /-- With nothing left to do all frames are told that have arrived. -/
  rests : Connection.ownMove? c = none → c.stage.lives = true → ∀ whole, whole <+: sent →
    Frame.framedAll (first :: whole) <+: start.arrived id moves → whole <+: delivered
  /-- Otherwise there is less to do after the next move, for which at most a place in the channel is
  missing. -/
  eases : ∀ move, Connection.ownMove? c = some move →
    (move = .tell → (start.run moves).events.hasRoom = true) → (start.run moves).Eases c move
  frees : (start.run moves).events.hasRoom = false →
    ((start.run moves).step .receive).events.hasRoom = true

theorem event_spec (type : MessageType) (body : Bytes) : match type.decodeBody body with
    | .ok m => eventOf type body = .message m
    | .error e => ∃ cause, eventOf type body = .failed cause ∧ cause.message = e.message := by
  unfold eventOf
  cases type.decodeBody body with
  | ok m => rfl
  | error e => exact ⟨_, rfl, rfl⟩

/-- If nobody closes a connection that was accepted, it tells an event for each frame that its publisher
sends, in order, and then, when there is no further frame or reading has failed, that it is over. -/
theorem tells_each_frame (callerId topic : String) (type : MessageType) (settings : SubscriberSettings)
    (moves : List Move) (id : Nat) (c : Connection) (header : Header) (first : Bytes) (sent : List Bytes)
    (small : ∀ body ∈ first :: sent, body.length ≤ Frame.maxSize)
    (supplied : (new callerId topic type settings).Supplied id (Frame.framedAll (first :: sent)) moves)
    (found : ((new callerId topic type settings).run moves).connection? id = some c)
    (accepted : c.result = some (.ok header)) (unasked : c.stopped = false) :
    ∃ delivered left ending, (new callerId topic type settings).TellsEach moves id first sent c header
      delivered left ending := by
  have account := account_run callerId topic type settings moves found
  have sound := sound_run callerId topic type settings moves
  obtain ⟨tail, along⟩ := supplied.along
  have decoded := account.decoded accepted small along
  have heard := (new callerId topic type settings).heardIn_append_items moves
  have eases {move : ConnectionMove} (own : Connection.ownMove? c = some move)
      (free : move = .tell → ((new callerId topic type settings).run moves).events.hasRoom = true) :
      ((new callerId topic type settings).run moves).Eases c move := by
    obtain rfl := id_of_connection? found
    exact work_step found own free
  cases lives : c.stage.lives with
  | true =>
    obtain ⟨delivered, left, split, told, reading⟩ := account.live lives accepted small along
    refine ⟨delivered, left, [], decoded, split, by rw [told, List.append_nil]; rfl, event_spec type, heard,
      fun _ => rfl, fun past => ?_, fun rest _ whole part there => ?_, fun _ => eases, sound.room⟩
    · rw [lives] at past
      cases past
    · exact account.at_rest rest lives accepted small split reading part there
  | false =>
    obtain ⟨delivered, left, failure, last, split, told, ceased, ends⟩ :=
      finished_run callerId topic type settings moves small supplied found unasked accepted lives
    refine ⟨delivered, left, failure ++ last, decoded, split, ?_, event_spec type, heard, fun alive => ?_,
      fun _ => ⟨failure, last, rfl, ceased, ends⟩, fun _ alive => ?_, fun _ => eases, sound.room⟩
    · rw [told, List.append_assoc]
      rfl
    · rw [lives] at alive
      cases alive
    · rw [lives] at alive
      cases alive

/-- The publisher sends a point, half of a number and another point in three pieces and closes its side.
The subscriber has room for one event, and receives one whenever it has none. -/
def halting : List Move :=
  [.connect, .connection 0 (.dialled .connected), .connection 0 (.write 1000),
    .arrive 0 anyHeader.encode, .connection 0 .readHeader, .connection 0 .tell,
    .arrive 0 [4, 0, 0, 0, 1, 0], .arrive 0 [0, 0, 2, 0, 0, 0, 7, 7, 4, 0], .connection 0 .readFrame,
    .receive, .connection 0 .tell, .connection 0 .readFrame, .connection 0 .tell, .receive,
    .connection 0 .tell, .arrive 0 [0, 0, 2, 0, 0, 0], .hangUp 0, .receive, .connection 0 .readFrame,
    .connection 0 .tell, .receive, .connection 0 .readFrame, .connection 0 .leave, .connection 0 .leave,
    .connection 0 .leave]

theorem halting_told :
    let sent : List Bytes := [[1, 0, 0, 0], [7, 7], [2, 0, 0, 0]]
    (∀ body ∈ anyHeader.encodeFields :: sent, body.length ≤ Frame.maxSize) ∧
      cramped.Supplied 0 (Frame.framedAll (anyHeader.encodeFields :: sent)) halting ∧
      ∃ c, (cramped.run halting).connection? 0 = some c ∧ c.stage = .done ∧
        c.result = some (.ok anyHeader) ∧ c.stopped = false ∧ ∃ room,
          Connection.toldBy 0 (cramped.toldIn halting) = (.connected anyHeader, true) ::
            sent.map (fun body => (eventOf MessageType.pointType body, true)) ++ [(.disconnected, room)] := by
  intro sent
  have small : ∀ body ∈ anyHeader.encodeFields :: sent, body.length ≤ Frame.maxSize := by decide
  have whole : ∀ before ∈ halting.inits,
      ((cramped.run before).connection? 0).any (·.inboxEnded) = true →
        cramped.arrived 0 before = Frame.framedAll (anyHeader.encodeFields :: sent) := by
    decide +kernel
  have supplied : cramped.Supplied 0 (Frame.framedAll (anyHeader.encodeFields :: sent)) halting :=
    ⟨by decide +kernel, fun before earlier => whole before ((List.mem_inits _ _).mpr earlier)⟩
  have ended : ((cramped.run halting).connection? 0).any
      (fun c => c.returned? = some anyHeader ∧ c.stopped = false) = true := by
    decide +kernel
  obtain ⟨c, found, ended⟩ := (Option.any_eq_true _ _).mp ended
  obtain ⟨returned, unasked⟩ := of_decide_eq_true ended
  obtain ⟨stage, accepted⟩ := Connection.of_returned? returned
  obtain ⟨delivered, left, ending, each⟩ := tells_each_frame "/listener" "/points" MessageType.pointType
    { eventCapacity := 1 } halting 0 c anyHeader anyHeader.encodeFields sent small supplied found accepted
    unasked
  refine ⟨small, supplied, c, found, stage, accepted, unasked, ?_⟩
  obtain ⟨failure, last, rfl, ceased, ends⟩ := each.past (by rw [stage]; rfl)
  rw [Connection.Last, stage] at ends
  obtain ⟨room, rfl⟩ := ends
  cases ceased with
  | ranOut none =>
    subst none
    have all : sent = delivered := each.split.trans (List.append_nil _)
    exact ⟨room, all ▸ each.told⟩
  | @failed cause room made => exact absurd made (by simp [halting])

end Subscriber

end TopicWire
