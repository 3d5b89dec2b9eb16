import TopicWire.Proofs.History
import TopicWire.Proofs.Session.Numbering
import TopicWire.Session.Subscriber

/-!
# What a move of a subscriber does to a connection

`Subscriber.acts` says once what a connection can do by itself, `Subscriber.connection?_step` what any
move of the subscriber does to a connection, and `Subscriber.step_change` what it does to the subscriber.
The phase of a subscriber is that of its last connection (`Subscriber.Phased`).
-/

namespace TopicWire

/-! ### What moves give -/

/-- An event that a connection tells, and whether the channel has room for it. -/
structure Telling where
  connection : Nat
  event : SubscriberEvent
  heard : Bool

namespace Connection

def header (c : Connection) : Except LinkError Header :=
  c.frame.1 >>= Frame.headerOf

def due? (c : Connection) : Option SubscriberEvent :=
  match c.stage with
  | .accepted header => some (.connected header)
  | .delivering event => some event
  | _ => none

/-- The event that a move of the connection tells. A connected header and a frame wait for room, the
end of the connection does not. -/
def tells (c : Connection) (room : Bool) : Subscriber.ConnectionMove → Option SubscriberEvent
  | .tell => if room then c.due? else none
  | .readFrame =>
    match c.stage, c.frameReady, c.frame.1 with
    | .reading, true, .error e => some (.failed e)
    | _, _, _ => none
  | .readFails cause =>
    match c.stage with
    | .reading => some (.failed (.failed cause))
    | _ => none
  | .leave =>
    match c.stage with
    | .unhooked => some .disconnected
    | _ => none
  | _ => none

/-- How a connection comes to read no further frame. -/
inductive Halt where
  /-- The stream is at its end. -/
  | ranOut
  | failed (cause : LinkError)
  /-- The connection stops as it was asked to. -/
  | stopped

/-- What is told of it: a failure, and nothing else. -/
def Halt.event? : Halt → Option SubscriberEvent
  | .failed cause => some (.failed cause)
  | _ => none

/-- How the move ends reading, if it does. -/
def halts (c : Connection) : Subscriber.ConnectionMove → Option Halt
  | .readFrame =>
    match c.stage, c.frameReady, c.frame.1 with
    | .reading, true, .ok none => some .ranOut
    | .reading, true, .error e => some (.failed e)
    | _, _, _ => none
  | .readFails cause =>
    match c.stage with
    | .reading => some (.failed (.failed cause))
    | _ => none
  | .stop =>
    match c.stage, c.stopped with
    | .reading, true => some .stopped
    | _, _ => none
  | _ => none

theorem halts_eq_none {c : Connection} (stage : c.stage ≠ .reading) (move : Subscriber.ConnectionMove) :
    c.halts move = none := by
  cases move <;> simp [halts, stage]

end Connection

namespace Subscriber

def eventOf (type : MessageType) (body : Bytes) : SubscriberEvent :=
  match type.decodeBody body with
  | .ok m => .message m
  | .error e => .failed (.wire e)

def tells (s : Subscriber) : Move → List Telling
  | .connection id move =>
    match s.connection? id with
    | some c => ((c.tells s.events.hasRoom move).map (⟨id, ·, s.events.hasRoom⟩)).toList
    | none => []
  | _ => []

def toldIn (s : Subscriber) (moves : List Move) : List Telling :=
  history step tells s moves

def hears (s : Subscriber) : Move → List SubscriberEvent
  | .receive => s.events.receive.1.toList
  | _ => []

def heardIn (s : Subscriber) (moves : List Move) : List SubscriberEvent :=
  history step hears s moves

def haltsBy (s : Subscriber) (id : Nat) : Move → List Connection.Halt
  | .connection other move =>
    if other = id then ((s.connection? id).bind (·.halts move)).toList else []
  | _ => []

def haltsIn (s : Subscriber) (id : Nat) (moves : List Move) : List Connection.Halt :=
  history step (haltsBy · id) s moves

def brings (s : Subscriber) (id : Nat) : Move → Bytes
  | .arrive other bytes => if other = id ∧ (s.connection? id).isSome then bytes else []
  | _ => []

def arrived (s : Subscriber) (id : Nat) (moves : List Move) : Bytes :=
  history step (brings · id) s moves

theorem toldIn_snoc (s : Subscriber) (moves : List Move) (move : Move) :
    s.toldIn (moves ++ [move]) = s.toldIn moves ++ (s.run moves).tells move :=
  history_snoc s moves move

theorem heardIn_snoc (s : Subscriber) (moves : List Move) (move : Move) :
    s.heardIn (moves ++ [move]) = s.heardIn moves ++ (s.run moves).hears move :=
  history_snoc s moves move

theorem arrived_snoc (s : Subscriber) (id : Nat) (moves : List Move) (move : Move) :
    s.arrived id (moves ++ [move]) = s.arrived id moves ++ (s.run moves).brings id move :=
  history_snoc s moves move

theorem haltsIn_snoc (s : Subscriber) (id : Nat) (moves : List Move) (move : Move) :
    s.haltsIn id (moves ++ [move]) = s.haltsIn id moves ++ (s.run moves).haltsBy id move :=
  history_snoc s moves move

theorem run_append (s : Subscriber) (moves later : List Move) :
    s.run (moves ++ later) = (s.run moves).run later :=
  List.foldl_append

end Subscriber

/-! ### What can happen to a connection -/

/-- The phase of a subscriber with a connection in this stage. -/
def ConnectionStage.phase : ConnectionStage → SubscriberPhase
  | .dialling => .connecting
  | .requesting _ => .connecting
  | .handshake => .connecting
  | .accepted _ => .connected
  | .reading => .connected
  | .delivering _ => .connected
  | .ended => .connected
  | .released => .disconnected
  | .unhooked => .disconnected
  | .done => .disconnected

/-- A connection in this stage has not begun to end. -/
def ConnectionStage.lives : ConnectionStage → Bool
  | .ended => false
  | stage => stage.phase != .disconnected

/-- What a connection can do by itself, and what it is afterwards. -/
inductive Connection.Own (s : Subscriber) (c : Connection) :
    Subscriber.ConnectionMove → Connection → Prop
  | rests {move} (silent : c.tells s.events.hasRoom move = none) (goesOn : c.halts move = none) :
      Own s c move c
  | dials (stage : c.stage = .dialling) :
      Own s c (.dialled .connected) { c with stage := .requesting s.request.encode }
  | unreached {move e} (stage : c.stage = .dialling) (silent : c.tells s.events.hasRoom move = none)
      (reason : (∃ cause, move = .dialled (.failed cause)) ∨ move = .dialTimeout) :
      Own s c move { c with stage := .done, result := some (.error e) }
  | requests {count left} (stage : c.stage = .requesting left) (more : left.drop count ≠ []) :
      Own s c (.write count)
        { c with stage := .requesting (left.drop count), sent := c.sent ++ left.take count }
  | requested {count left} (stage : c.stage = .requesting left) (all : left.drop count = []) :
      Own s c (.write count) { c with stage := .handshake, sent := c.sent ++ left.take count }
  | accepts {header} (stage : c.stage = .handshake) (ready : c.frameReady = true)
      (read : c.header = .ok header) (agrees : header.agrees s.type.digest = true) :
      Own s c .readHeader { c with stage := .accepted header, inbox := c.frame.2 }
  | refuses {e} (stage : c.stage = .handshake) (ready : c.frameReady = true)
      (wrong : ∀ header, c.header = .ok header → header.agrees s.type.digest = false) :
      Own s c .readHeader { c with stage := .done, result := some (.error e) }
  | breaks {move e} (stage : c.stage = .handshake ∨ ∃ left, c.stage = .requesting left)
      (silent : c.tells s.events.hasRoom move = none)
      (reason : move = .timeout ∨ (∃ cause, move = .readFails cause) ∨
        ∃ cause, move = .writeFails cause) :
      Own s c move { c with stage := .done, result := some (.error e) }
  | connects {header} (stage : c.stage = .accepted header) (room : s.events.hasRoom = true) :
      Own s c .tell { c with stage := .reading, result := some (.ok header) }
  | delivers {event} (stage : c.stage = .delivering event) (room : s.events.hasRoom = true) :
      Own s c .tell { c with stage := .reading }
  | reads {body} (stage : c.stage = .reading) (ready : c.frameReady = true)
      (read : c.frame.1 = .ok (some body)) :
      Own s c .readFrame
        { c with stage := .delivering (Subscriber.eventOf s.type body), inbox := c.frame.2 }
  | runsOut (stage : c.stage = .reading) (ready : c.frameReady = true) (read : c.frame.1 = .ok none) :
      Own s c .readFrame { c with stage := .ended }
  | misreads {e} (stage : c.stage = .reading) (ready : c.frameReady = true)
      (read : c.frame.1 = .error e) :
      Own s c .readFrame { c with stage := .ended, inbox := c.frame.2 }
  | stops (stage : c.stage = .reading) (asked : c.stopped = true) :
      Own s c .stop { c with stage := .ended }
  | fails {cause} (stage : c.stage = .reading) : Own s c (.readFails cause) { c with stage := .ended }
  | releases (stage : c.stage = .ended) : Own s c .leave { c with stage := .released }
  | unhooks (stage : c.stage = .released) : Own s c .leave { c with stage := .unhooked }
  | finishes (stage : c.stage = .unhooked) : Own s c .leave { c with stage := .done }

def Subscriber.Move.leaves (id : Nat) : Subscriber.Move → Bool
  | .close => false
  | .drop => false
  | .arrive other _ => other != id
  | .hangUp other => other != id
  | .connection other _ => other != id
  | _ => true

/-- What a move of the subscriber does to a connection. -/
inductive Connection.Change (s : Subscriber) (c : Connection) : Subscriber.Move → Connection → Prop
  | left {move : Subscriber.Move} (other : move.leaves c.id = true) : Change s c move c
  | spared {move} (closing : move = .close ∨ move = .drop) : Change s c move c
  | asked {move} (closing : move = .close ∨ move = .drop) : Change s c move { c with stopped := true }
  | arrives {bytes} : Change s c (.arrive c.id bytes) { c with inbox := c.inbox ++ bytes }
  | hangsUp : Change s c (.hangUp c.id) { c with inboxEnded := true }
  | own {move c'} (moved : c.Own s move c') : Change s c (.connection c.id move) c'

namespace Subscriber

variable {s : Subscriber} {c : Connection} {id : Nat}

theorem id_of_connection? (found : s.connection? id = some c) : c.id = id :=
  Numbering.number_of_find? found

/-! ### Changing one connection -/

theorem connection?_changeConnection {change : Connection → Connection}
    (keeps : ∀ c, (change c).id = c.id) (other : Nat) :
    (s.changeConnection other change).connection? id =
      if other = id then (s.connection? id).map change else s.connection? id :=
  Numbering.find?_mapAt keeps s.connections other id

theorem connection?_arrive (found : s.connection? id = some c) (bytes : Bytes) :
    (s.step (.arrive id bytes)).connection? id = some { c with inbox := c.inbox ++ bytes } := by
  rw [step, connection?_changeConnection (by exact fun _ => rfl), if_pos rfl, found, Option.map_some]

theorem connection?_hangUp (found : s.connection? id = some c) :
    (s.step (.hangUp id)).connection? id = some { c with inboxEnded := true } := by
  rw [step, connection?_changeConnection (by exact fun _ => rfl), if_pos rfl, found, Option.map_some]

theorem changeConnection_id (s : Subscriber) (id : Nat) : s.changeConnection id (fun c => c) = s := by
  rw [changeConnection]
  simp

/-- The move of a connection is this change of it and what it tells, and at most the phase, the
current connection and the hooks of the subscriber change with it. -/
def Acts (s : Subscriber) (c : Connection) (move : ConnectionMove) : Prop :=
  ∃ (change : Connection → Connection) (current : Option Nat) (hook : Option CloseHook)
    (ran : List CloseHook), (∀ c, (change c).id = c.id) ∧ c.Own s move (change c) ∧
    s.connectionStep c move =
      { s.changeConnection c.id change with
        phase := if c.stage.phase = (change c).stage.phase then s.phase else (change c).stage.phase
        current := current
        hook := hook
        ran := ran
        events := (c.tells s.events.hasRoom move).toList.foldl Channel.offer s.events }

theorem acts_rests {move : ConnectionMove} (silent : c.tells s.events.hasRoom move = none)
    (goesOn : c.halts move = none) (none : s.connectionStep c move = s) : s.Acts c move := by
  refine ⟨fun c => c, s.current, s.hook, s.ran, fun _ => rfl, .rests silent goesOn, ?_⟩
  rw [none, changeConnection_id, silent, if_pos rfl]
  rfl

theorem acts_fails {move : ConnectionMove} {e : SessionError} (connecting : c.stage.phase = .connecting)
    (silent : c.tells s.events.hasRoom move = none)
    (own : c.Own s move { c with stage := .done, result := some (.error e) })
    (fails : s.connectionStep c move = s.failConnect c.id e) : s.Acts c move := by
  refine ⟨fun c => { c with stage := .done, result := some (.error e) }, none, s.hook, s.ran,
    fun _ => rfl, own, ?_⟩
  rw [fails, silent, connecting]
  rfl

theorem acts_dialled (s : Subscriber) (c : Connection) (outcome : Dialling) :
    s.Acts c (.dialled outcome) := by
  cases stage : c.stage with
  | dialling =>
    have connecting : c.stage.phase = .connecting := by rw [stage]; rfl
    cases outcome with
    | connected =>
      refine ⟨fun c => { c with stage := .requesting s.request.encode }, s.current, s.hook, s.ran,
        fun _ => rfl, .dials stage, ?_⟩
      simp only [connectionStep, stage, enter, Connection.tells]
      rfl
    | failed cause =>
      exact acts_fails connecting rfl (.unreached stage rfl (.inl ⟨cause, rfl⟩))
        (by simp only [connectionStep, stage]; rfl)
  | _ => exact acts_rests rfl rfl (by simp only [connectionStep, stage])

theorem acts_dialTimeout (s : Subscriber) (c : Connection) : s.Acts c .dialTimeout := by
  cases stage : c.stage with
  | dialling =>
    have connecting : c.stage.phase = .connecting := by rw [stage]; rfl
    exact acts_fails connecting rfl (.unreached stage rfl (.inr rfl))
      (by simp only [connectionStep, stage]; rfl)
  | _ => exact acts_rests rfl rfl (by simp only [connectionStep, stage])

theorem acts_write (s : Subscriber) (c : Connection) (count : Nat) : s.Acts c (.write count) := by
  cases stage : c.stage with
  | requesting left =>
    by_cases all : left.drop count = []
    · refine ⟨fun c => { c with stage := .handshake, sent := c.sent ++ left.take count }, s.current,
        s.hook, s.ran, fun _ => rfl, .requested stage all, ?_⟩
      simp only [connectionStep, stage, all, Connection.tells]
      rfl
    · refine ⟨fun c =>
          { c with stage := .requesting (left.drop count), sent := c.sent ++ left.take count },
        s.current, s.hook, s.ran, fun _ => rfl, .requests stage all, ?_⟩
      obtain ⟨b, bs, more⟩ := List.exists_cons_of_ne_nil all
      simp only [connectionStep, stage, more, Connection.tells]
      rfl
  | _ => exact acts_rests rfl rfl (by simp only [connectionStep, stage])

theorem acts_readHeader (s : Subscriber) (c : Connection) : s.Acts c .readHeader := by
  cases stage : c.stage with
  | handshake =>
    have connecting : c.stage.phase = .connecting := by rw [stage]; rfl
    cases ready : c.frameReady with
    | false =>
      exact acts_rests rfl rfl (by simp only [connectionStep, stage, ready, Bool.false_eq_true, if_false])
    | true =>
      have step : s.connectionStep c .readHeader = s.readHeader c := by
        simp only [connectionStep, stage, ready, if_true]
      have same : (c.frame.1 >>= Frame.headerOf) = c.header := rfl
      rw [readHeader] at step
      simp only [same] at step
      cases read : c.header with
      | error e =>
        simp only [read] at step
        refine acts_fails connecting rfl (.refuses stage ready fun header other => ?_) step
        rw [read] at other
        cases other
      | ok header =>
        cases agrees : header.agrees s.type.digest with
        | true =>
          simp only [read, agrees, if_true] at step
          refine ⟨fun other => { other with stage := .accepted header, inbox := c.frame.2 }, s.current,
            s.hook, s.ran, fun _ => rfl, .accepts stage ready read agrees, ?_⟩
          rw [step, connecting]
          rfl
        | false =>
          simp only [read, agrees, Bool.false_eq_true, if_false] at step
          refine acts_fails connecting rfl (.refuses stage ready fun other same => ?_) step
          rw [read] at same
          obtain rfl := Except.ok.inj same
          exact agrees
  | _ => exact acts_rests rfl rfl (by simp only [connectionStep, stage])

theorem acts_tell (s : Subscriber) (c : Connection) : s.Acts c .tell := by
  cases room : s.events.hasRoom with
  | false =>
    refine acts_rests ?_ rfl ?_
    · rw [room]
      rfl
    · rw [connectionStep, tell, room]
      rfl
  | true =>
    have step : s.connectionStep c .tell = match c.stage with
        | .accepted header =>
          { s.changeConnection c.id fun c => { c with stage := .reading, result := some (.ok header) } with
            events := s.events.offer (.connected header) }
        | .delivering event => { s.enter c.id .reading with events := s.events.offer event }
        | _ => s := by
      rw [connectionStep, tell, room]
      rfl
    cases stage : c.stage with
    | accepted header =>
      simp only [stage] at step
      refine ⟨fun c => { c with stage := .reading, result := some (.ok header) }, s.current, s.hook,
        s.ran, fun _ => rfl, .connects stage room, ?_⟩
      rw [step, room, Connection.tells, if_pos rfl, Connection.due?, stage]
      rfl
    | delivering event =>
      simp only [stage] at step
      refine ⟨fun c => { c with stage := .reading }, s.current, s.hook, s.ran, fun _ => rfl,
        .delivers stage room, ?_⟩
      rw [step, room, Connection.tells, if_pos rfl, Connection.due?, stage]
      rfl
    | _ =>
      simp only [stage] at step
      refine acts_rests ?_ rfl step
      simp only [Connection.tells, Connection.due?, stage, ite_self]

theorem acts_readFrame (s : Subscriber) (c : Connection) : s.Acts c .readFrame := by
  cases stage : c.stage with
  | reading =>
    have connected : c.stage.phase = .connected := by rw [stage]; rfl
    cases ready : c.frameReady with
    | false =>
      have silent : c.tells s.events.hasRoom .readFrame = none := by
        simp only [Connection.tells, stage, ready]
      exact acts_rests silent (by simp only [Connection.halts, stage, ready])
        (by simp only [connectionStep, stage, ready, Bool.false_eq_true, if_false])
    | true =>
      have step : s.connectionStep c .readFrame = s.readFrame c := by
        simp only [connectionStep, stage, ready, if_true]
      cases frame : c.frame with
      | mk read rest =>
        have first : c.frame.1 = read := by rw [frame]
        have second : c.frame.2 = rest := by rw [frame]
        rw [readFrame, frame] at step
        cases read with
        | error e =>
          refine ⟨fun other => { other with stage := .ended, inbox := c.frame.2 }, s.current, s.hook,
            s.ran, fun _ => rfl, .misreads stage ready first, ?_⟩
          rw [step, Connection.tells, stage, ready, frame]
          rfl
        | ok read =>
          cases read with
          | none =>
            refine ⟨fun c => { c with stage := .ended }, s.current, s.hook, s.ran, fun _ => rfl,
              .runsOut stage ready first, ?_⟩
            rw [step, Connection.tells, stage, ready, frame]
            rfl
          | some body =>
            refine ⟨fun other =>
                { other with stage := .delivering (eventOf s.type body), inbox := c.frame.2 },
              s.current, s.hook, s.ran, fun _ => rfl, .reads stage ready first, ?_⟩
            rw [step, Connection.tells, stage, ready, frame]
            rfl
  | _ =>
    have silent : c.tells s.events.hasRoom .readFrame = none := by
      simp only [Connection.tells, stage]
    exact acts_rests silent (by simp only [Connection.halts, stage])
      (by simp only [connectionStep, stage])

theorem acts_breaks (s : Subscriber) (c : Connection) {move : ConnectionMove} {e : SessionError}
    (stage : c.stage = .handshake ∨ ∃ left, c.stage = .requesting left)
    (silent : c.tells s.events.hasRoom move = none)
    (reason : move = .timeout ∨ (∃ cause, move = .readFails cause) ∨ ∃ cause, move = .writeFails cause)
    (fails : s.connectionStep c move = s.failConnect c.id e) : s.Acts c move := by
  have connecting : c.stage.phase = .connecting := by
    rcases stage with stage | ⟨left, stage⟩ <;> rw [stage] <;> rfl
  exact acts_fails connecting silent (.breaks stage silent reason) fails

theorem acts_readFails (s : Subscriber) (c : Connection) (cause : String) :
    s.Acts c (.readFails cause) := by
  cases stage : c.stage with
  | handshake =>
    have silent : c.tells s.events.hasRoom (.readFails cause) = none := by
      simp only [Connection.tells, stage]
    exact acts_breaks s c (.inl stage) silent (.inr (.inl ⟨cause, rfl⟩))
      (by simp only [connectionStep, stage]; rfl)
  | reading =>
    refine ⟨fun c => { c with stage := .ended }, s.current, s.hook, s.ran, fun _ => rfl,
      .fails stage, ?_⟩
    simp only [connectionStep, stage, Connection.tells]
    rfl
  | _ =>
    have silent : c.tells s.events.hasRoom (.readFails cause) = none := by
      simp only [Connection.tells, stage]
    exact acts_rests silent (by simp only [Connection.halts, stage])
      (by simp only [connectionStep, stage])

theorem acts_leave (s : Subscriber) (c : Connection) : s.Acts c .leave := by
  cases stage : c.stage with
  | ended =>
    refine ⟨fun c => { c with stage := .released }, s.current, s.hook, s.ran, fun _ => rfl,
      .releases stage, ?_⟩
    simp only [connectionStep, leave, stage, Connection.tells]
    rfl
  | released =>
    refine ⟨fun c => { c with stage := .unhooked }, s.current, none, s.ran ++ s.hook.toList,
      fun _ => rfl, .unhooks stage, ?_⟩
    simp only [connectionStep, leave, stage, Connection.tells]
    rfl
  | unhooked =>
    refine ⟨fun c => { c with stage := .done }, s.current, s.hook, s.ran, fun _ => rfl,
      .finishes stage, ?_⟩
    simp only [connectionStep, leave, stage, Connection.tells]
    rfl
  | _ =>
    have silent : c.tells s.events.hasRoom .leave = none := by simp only [Connection.tells, stage]
    exact acts_rests silent rfl (by simp only [connectionStep, leave, stage])

theorem acts (s : Subscriber) (c : Connection) (move : ConnectionMove) : s.Acts c move := by
  cases move with
  | dialled outcome => exact acts_dialled s c outcome
  | dialTimeout => exact acts_dialTimeout s c
  | write count => exact acts_write s c count
  | readHeader => exact acts_readHeader s c
  | timeout =>
    cases stage : c.stage with
    | handshake =>
      exact acts_breaks s c (.inl stage) rfl (.inl rfl) (by simp only [connectionStep, stage]; rfl)
    | _ => exact acts_rests rfl rfl (by simp only [connectionStep, stage])
  | tell => exact acts_tell s c
  | readFrame => exact acts_readFrame s c
  | stop =>
    cases stage : c.stage with
    | reading =>
      cases asked : c.stopped with
      | true =>
        refine ⟨fun c => { c with stage := .ended }, s.current, s.hook, s.ran, fun _ => rfl,
          .stops stage asked, ?_⟩
        simp only [connectionStep, stage, asked, Connection.tells]
        rfl
      | false =>
        exact acts_rests rfl (by simp only [Connection.halts, stage, asked])
          (by simp [connectionStep, stage, asked])
    | _ =>
      exact acts_rests rfl (by simp only [Connection.halts, stage])
        (by simp only [connectionStep, stage])
  | readFails cause => exact acts_readFails s c cause
  | writeFails cause =>
    cases stage : c.stage with
    | requesting left =>
      exact acts_breaks s c (.inr ⟨left, stage⟩) rfl (.inr (.inr ⟨cause, rfl⟩))
        (by simp only [connectionStep, stage]; rfl)
    | _ => exact acts_rests rfl rfl (by simp only [connectionStep, stage])
  | leave => exact acts_leave s c

/-! ### What a move does to a connection -/

theorem step_connection (found : s.connection? id = some c) (move : ConnectionMove) :
    ∃ (change : Connection → Connection) (current : Option Nat) (hook : Option CloseHook)
      (ran : List CloseHook), (∀ c, (change c).id = c.id) ∧ c.Own s move (change c) ∧
      s.step (.connection id move) =
        { s.changeConnection id change with
          phase := if c.stage.phase = (change c).stage.phase then s.phase else (change c).stage.phase
          current := current
          hook := hook
          ran := ran
          events := (c.tells s.events.hasRoom move).toList.foldl Channel.offer s.events } := by
  obtain ⟨change, current, hook, ran, keeps, own, eq⟩ := s.acts c move
  rw [id_of_connection? found] at eq
  refine ⟨change, current, hook, ran, keeps, own, ?_⟩
  rw [← eq]
  simp only [step, found]

theorem step_connection_none (none : s.connection? id = none) (move : ConnectionMove) :
    s.step (.connection id move) = s := by
  simp only [step, none]

theorem close_eq (s : Subscriber) :
    ∃ change : Connection → Connection, (∀ c, (change c).id = c.id) ∧
      (∀ c, change c = c ∨ change c = { c with stopped := true }) ∧
      s.close = { s with connections := s.connections.map change } := by
  unfold close
  split
  · rename_i current _
    refine ⟨fun c => if c.id = current then { c with stopped := true } else c, ?_, ?_, rfl⟩
    · intro c
      dsimp only
      split <;> rfl
    · intro c
      dsimp only
      split
      · exact .inr rfl
      · exact .inl rfl
  · exact ⟨fun c => c, fun _ => rfl, fun _ => .inl rfl, by rw [List.map_id']⟩

theorem drop_eq (s : Subscriber) :
    ∃ hook ran, s.drop = { s.close with hook := hook, ran := ran } := by
  unfold drop
  dsimp only
  split
  · exact ⟨_, _, rfl⟩
  · exact ⟨s.close.hook, s.close.ran, rfl⟩

theorem connection?_close (found : s.connection? id = some c) {move : Move}
    (closing : move = .close ∨ move = .drop) :
    ∃ c', s.close.connection? id = some c' ∧ c.Change s move c' := by
  obtain ⟨change, keeps, either, eq⟩ := s.close_eq
  refine ⟨change c, ?_, ?_⟩
  · rw [eq]
    exact (Numbering.find?_map keeps s.connections id).trans (congrArg (Option.map change) found)
  · rcases either c with same | asked
    · rw [same]
      exact .spared closing
    · rw [asked]
      exact .asked closing

theorem connection?_step (found : s.connection? id = some c) (move : Move) :
    ∃ c', (s.step move).connection? id = some c' ∧ c.Change s move c' := by
  have same := id_of_connection? found
  cases move with
  | connect =>
    refine ⟨c, ?_, .left rfl⟩
    simp only [step, beginConnect]
    split
    · exact List.find?_append.trans (by rw [show s.connections.find? _ = some c from found]; rfl)
    · exact found
  | close => exact connection?_close found (.inl rfl)
  | onClose hook => exact ⟨c, found, .left rfl⟩
  | drop =>
    obtain ⟨c', found', change⟩ := connection?_close found (.inr rfl)
    obtain ⟨hook, ran, eq⟩ := s.drop_eq
    refine ⟨c', ?_, change⟩
    rw [step, eq]
    exact found'
  | arrive other bytes =>
    by_cases here : other = id
    · subst here
      exact ⟨_, connection?_arrive found bytes, same ▸ .arrives⟩
    · refine ⟨c, ?_, .left (by simpa [Move.leaves, same] using here)⟩
      rw [step, connection?_changeConnection (by exact fun _ => rfl), if_neg here, found]
  | hangUp other =>
    by_cases here : other = id
    · subst here
      exact ⟨_, connection?_hangUp found, same ▸ .hangsUp⟩
    · refine ⟨c, ?_, .left (by simpa [Move.leaves, same] using here)⟩
      rw [step, connection?_changeConnection (by exact fun _ => rfl), if_neg here, found]
  | connection other move =>
    by_cases here : other = id
    · subst here
      obtain ⟨change, _, _, _, keeps, own, eq⟩ := step_connection found move
      refine ⟨change c, ?_, same ▸ .own own⟩
      rw [eq]
      exact (connection?_changeConnection keeps other).trans
        (by rw [if_pos rfl, found, Option.map_some])
    · refine ⟨c, ?_, .left (by simpa [Move.leaves, same] using here)⟩
      cases there : s.connection? other with
      | none => rw [step_connection_none there, found]
      | some acting =>
        obtain ⟨change, _, _, _, keeps, -, eq⟩ := step_connection there move
        rw [eq]
        exact (connection?_changeConnection keeps other).trans (by rw [if_neg here, found])
  | receive => exact ⟨c, found, .left rfl⟩

/-! ### What a move does to the rest of the subscriber -/

/-- What a move does to a subscriber. -/
inductive Change (s : Subscriber) : Move → Subscriber → Prop
  | begins (free : s.phase = .disconnected) :
      Change s .connect
        { s with
          phase := .connecting
          connections := s.connections ++ [{ id := s.nextConnection }]
          nextConnection := s.nextConnection + 1
          current := some s.nextConnection }
  | refused (taken : s.phase ≠ .disconnected) : Change s .connect s
  /-- A move from outside, or one that only asks for something. -/
  | reaches {move change hook ran} (keeps : ∀ c, (change c).id = c.id) (silent : s.tells move = [])
      (deaf : s.hears move = []) :
      Change s move { s with connections := s.connections.map change, hook := hook, ran := ran }
  | acts {id move change phase current hook ran} (keeps : ∀ c, (change c).id = c.id) :
      Change s (.connection id move)
        { s with
          connections := s.connections.map change, phase := phase, current := current
          hook := hook, ran := ran
          events := ((s.tells (.connection id move)).map (·.event)).foldl Channel.offer s.events }
  | receives : Change s .receive { s with events := s.events.receive.2 }

theorem step_connect (free : s.phase = .disconnected) :
    s.step .connect = { s with
      phase := .connecting
      connections := s.connections ++ [{ id := s.nextConnection }]
      nextConnection := s.nextConnection + 1
      current := some s.nextConnection } := by
  simp only [step, beginConnect, free]

theorem step_connect_of_ne (taken : s.phase ≠ .disconnected) : s.step .connect = s := by
  cases phase : s.phase with
  | disconnected => exact absurd phase taken
  | _ => simp only [step, beginConnect, phase]

theorem Change.unmoved {move : Move} (silent : s.tells move = []) (deaf : s.hears move = []) :
    s.Change move s := by
  have none : s.connections.map (fun c => c) = s.connections := List.map_id' _
  have change : s.Change move { s with connections := s.connections.map fun c => c } :=
    .reaches (fun _ => rfl) silent deaf
  rwa [none] at change

theorem step_change (s : Subscriber) (move : Move) : s.Change move (s.step move) := by
  cases move with
  | connect =>
    by_cases free : s.phase = .disconnected
    · rw [step_connect free]
      exact .begins free
    · rw [step_connect_of_ne free]
      exact .refused free
  | close =>
    obtain ⟨change, keeps, -, eq⟩ := s.close_eq
    rw [step, eq]
    exact .reaches keeps rfl rfl
  | onClose hook =>
    have change : s.Change (.onClose hook) { s with
        connections := s.connections.map fun c => c, hook := some hook } :=
      .reaches (fun _ => rfl) rfl rfl
    rwa [List.map_id'] at change
  | drop =>
    obtain ⟨change, keeps, -, eq⟩ := s.close_eq
    obtain ⟨hook, ran, dropped⟩ := s.drop_eq
    rw [step, dropped, eq]
    exact .reaches keeps rfl rfl
  | arrive other bytes =>
    exact .reaches (Numbering.number_mapAt (by exact fun _ => rfl) other) rfl rfl
  | hangUp other => exact .reaches (Numbering.number_mapAt (by exact fun _ => rfl) other) rfl rfl
  | connection id move =>
    cases found : s.connection? id with
    | none =>
      rw [step_connection_none found]
      exact .unmoved (by rw [tells, found]) rfl
    | some c =>
      obtain ⟨change, current, hook, ran, keeps, -, eq⟩ := step_connection found move
      have told : (s.tells (.connection id move)).map (·.event) =
          (c.tells s.events.hasRoom move).toList := by
        simp only [tells, found]
        cases c.tells s.events.hasRoom move <;> rfl
      rw [eq, ← told]
      exact .acts (Numbering.number_mapAt keeps id)
  | receive => exact .receives

def Alike (s t : Subscriber) : Prop :=
  t.callerId = s.callerId ∧ t.topic = s.topic ∧ t.type = s.type ∧ t.settings = s.settings

theorem Alike.refl (s : Subscriber) : s.Alike s := ⟨rfl, rfl, rfl, rfl⟩

theorem Alike.trans {t u : Subscriber} (first : s.Alike t) (second : t.Alike u) : s.Alike u := by
  obtain ⟨a, b, c, d⟩ := first
  obtain ⟨a', b', c', d'⟩ := second
  exact ⟨a'.trans a, b'.trans b, c'.trans c, d'.trans d⟩

theorem Alike.request {t : Subscriber} (alike : s.Alike t) : t.request = s.request := by
  obtain ⟨caller, topic, type, -⟩ := alike
  rw [Subscriber.request, Subscriber.request, caller, topic, type]

theorem Change.alike {move : Move} {t : Subscriber} (change : s.Change move t) : s.Alike t := by
  cases change <;> exact .refl s

theorem step_alike (s : Subscriber) (move : Move) : s.Alike (s.step move) :=
  (s.step_change move).alike

theorem run_alike (s : Subscriber) (moves : List Move) : s.Alike (s.run moves) := by
  induction moves generalizing s with
  | nil => exact .refl s
  | cons move moves ih => exact (s.step_alike move).trans (ih _)

/-! ### What is heard -/

def heardOf (tellings : List Telling) : List SubscriberEvent :=
  (tellings.filter (·.heard)).map (·.event)

theorem heardOf_append (tellings later : List Telling) :
    heardOf (tellings ++ later) = heardOf tellings ++ heardOf later := by
  rw [heardOf, List.filter_append, List.map_append, heardOf, heardOf]

theorem Change.items {move : Move} {t : Subscriber} (change : s.Change move t) :
    s.hears move ++ t.events.items = s.events.items ++ heardOf (s.tells move) := by
  have still (silent : s.tells move = []) (deaf : s.hears move = []) :
      s.hears move ++ s.events.items = s.events.items ++ heardOf (s.tells move) := by
    rw [silent, deaf]
    exact (List.append_nil _).symm
  cases change with
  | begins free => exact still rfl rfl
  | refused taken => exact still rfl rfl
  | reaches keeps silent deaf => exact still silent deaf
  | receives =>
    simp only [hears, tells, Channel.receive]
    cases items : s.events.items with
    | nil => simp [items, heardOf]
    | cons e rest => simp [heardOf]
  | @acts id move =>
    simp only [hears, List.nil_append, tells]
    cases found : s.connection? id with
    | none => simp [heardOf]
    | some c =>
      dsimp only
      generalize c.tells s.events.hasRoom move = told
      cases told with
      | none => simp [heardOf]
      | some e => cases room : s.events.hasRoom <;> simp [heardOf, Channel.offer, room]

/-- The events received and those in the channel are the ones told that have found room. -/
theorem heardIn_append_items (s : Subscriber) (moves : List Move) :
    s.heardIn moves ++ (s.run moves).events.items = s.events.items ++ heardOf (s.toldIn moves) := by
  refine run_induction (motive := fun moves (t : Subscriber) =>
    s.heardIn moves ++ t.events.items = s.events.items ++ heardOf (s.toldIn moves))
    (List.append_nil _).symm (fun moves move held => ?_) moves
  rw [heardIn_snoc, toldIn_snoc, heardOf_append, ← List.append_assoc, ← held, List.append_assoc,
    List.append_assoc]
  exact congrArg (s.heardIn moves ++ ·) ((s.run moves).step_change move).items

/-! ### The connections that there are -/

/-- The connections are numbered in the order in which they were begun. -/
def Numbered (s : Subscriber) : Prop :=
  s.connections.map (·.id) = List.range s.nextConnection

theorem Change.numbered {move : Move} {t : Subscriber} (change : s.Change move t)
    (numbered : s.Numbered) : t.Numbered := by
  have changed {change : Connection → Connection} (keeps : ∀ c, (change c).id = c.id) :
      (s.connections.map change).map (·.id) = List.range s.nextConnection := by
    rw [List.map_map, ← numbered]
    exact List.map_congr_left fun c _ => keeps c
  cases change with
  | begins free =>
    rw [Numbered, List.map_append, numbered]
    exact List.range_succ.symm
  | refused taken => exact numbered
  | reaches keeps => exact changed keeps
  | acts keeps => exact changed keeps
  | receives => exact numbered

theorem Numbered.step (numbered : s.Numbered) (move : Move) : (s.step move).Numbered :=
  (s.step_change move).numbered numbered

theorem Numbered.connection?_eq_none_iff (numbered : s.Numbered) :
    s.connection? id = none ↔ s.nextConnection ≤ id :=
  Numbering.find?_eq_none_iff numbered

theorem step_nextConnection {move : Move} (other : move ≠ .connect) :
    (s.step move).nextConnection = s.nextConnection := by
  have change := s.step_change move
  generalize s.step move = t at change ⊢
  cases change with
  | begins free => exact absurd rfl other
  | _ => rfl

theorem connection?_of_step (numbered : s.Numbered) {move : Move} {c' : Connection}
    (found : (s.step move).connection? id = some c') :
    (∃ c, s.connection? id = some c ∧ c.Change s move c') ∨
      move = .connect ∧ s.phase = .disconnected ∧ id = s.nextConnection ∧ c' = { id := id } := by
  cases before : s.connection? id with
  | some c =>
    obtain ⟨c'', found', change⟩ := connection?_step before move
    obtain rfl := Option.some.inj (found.symm.trans found')
    exact .inl ⟨c, rfl, change⟩
  | none =>
    have outside := numbered.connection?_eq_none_iff.mp before
    have inside : id < (s.step move).nextConnection := by
      rw [← Nat.not_le, ← (numbered.step move).connection?_eq_none_iff, found]
      exact Option.some_ne_none c'
    by_cases connect : move = .connect
    · subst connect
      by_cases free : s.phase = .disconnected
      · rw [step_connect free] at found inside
        obtain rfl : id = s.nextConnection := Nat.le_antisymm (Nat.le_of_lt_succ inside) outside
        have last : s.connections.find? (·.id == s.nextConnection) = none := before
        rw [connection?, List.find?_append, last] at found
        have same : c' = { id := s.nextConnection } := by simpa using found.symm
        exact .inr ⟨rfl, free, rfl, same⟩
      · rw [step_connect_of_ne free, before] at found
        cases found
    · rw [step_nextConnection connect] at inside
      omega

/-- The last connection decides on the phase, and all others are over. -/
structure Phased (s : Subscriber) : Prop where
  last : ∀ id c, s.connection? id = some c → id + 1 = s.nextConnection → s.phase = c.stage.phase
  earlier : ∀ id c, s.connection? id = some c → id + 1 ≠ s.nextConnection →
    c.stage.phase = .disconnected

end Subscriber

theorem Connection.Own.over {s : Subscriber} {c c' : Connection} {move : Subscriber.ConnectionMove}
    (own : c.Own s move c') (past : c.stage.phase = .disconnected) :
    c'.stage.phase = .disconnected := by
  cases own with
  | rests silent => exact past
  | releases stage => rfl
  | unhooks stage => rfl
  | finishes stage => rfl
  | unreached stage => rfl
  | refuses stage => rfl
  | breaks stage => rfl
  | dials stage => rw [stage] at past; cases past
  | requests stage => rw [stage] at past; cases past
  | requested stage => rw [stage] at past; cases past
  | accepts stage => rw [stage] at past; cases past
  | connects stage => rw [stage] at past; cases past
  | delivers stage => rw [stage] at past; cases past
  | reads stage => rw [stage] at past; cases past
  | runsOut stage => rw [stage] at past; cases past
  | misreads stage => rw [stage] at past; cases past
  | stops stage => rw [stage] at past; cases past
  | fails stage => rw [stage] at past; cases past

theorem Connection.Change.stage_eq {s : Subscriber} {c c' : Connection}
    {move : Subscriber.Move} (change : c.Change s move c') :
    c'.stage = c.stage ∨ ∃ own, move = .connection c.id own ∧ c.Own s own c' := by
  cases change with
  | @own move c' moved => exact .inr ⟨move, rfl, moved⟩
  | _ => exact .inl rfl

namespace Subscriber

variable {s : Subscriber}

theorem step_phase {move : Move} (connect : move ≠ .connect)
    (still : ∀ id own, move ≠ .connection id own) : (s.step move).phase = s.phase := by
  have change := s.step_change move
  generalize s.step move = t at change ⊢
  cases change with
  | begins free => exact absurd rfl connect
  | acts keeps => exact absurd rfl (still _ _)
  | _ => rfl

theorem Phased.connect (phased : s.Phased) (numbered : s.Numbered) : (s.step .connect).Phased := by
  by_cases free : s.phase = .disconnected
  · have begun := step_connect free
    have old {id : Nat} {c : Connection} (found : s.connection? id = some c) :
        c.stage.phase = .disconnected := by
      by_cases last : id + 1 = s.nextConnection
      · rw [← phased.last id c found last, free]
      · exact phased.earlier id c found last
    refine ⟨fun id c' found last => ?_, fun id c' found earlier => ?_⟩
    · rcases connection?_of_step numbered found with ⟨c, before, -⟩ | ⟨-, -, -, rfl⟩
      · have inside : ¬ s.nextConnection ≤ id := by
          rw [← numbered.connection?_eq_none_iff, before]
          exact Option.some_ne_none c
        rw [begun] at last
        have last : id + 1 = s.nextConnection + 1 := last
        omega
      · rw [begun]
        rfl
    · rcases connection?_of_step numbered found with ⟨c, before, change⟩ | ⟨-, -, rfl, -⟩
      · rcases change.stage_eq with same | ⟨own, other, -⟩
        · rw [same]
          exact old before
        · cases other
      · rw [begun] at earlier
        exact absurd rfl earlier
  · rw [step_connect_of_ne free]
    exact phased

theorem Phased.own (phased : s.Phased) (i : Nat) (move : ConnectionMove) :
    (s.step (.connection i move)).Phased := by
  have next : (s.step (.connection i move)).nextConnection = s.nextConnection :=
    step_nextConnection Move.noConfusion
  cases acting : s.connection? i with
  | none =>
    rw [step_connection_none acting]
    exact phased
  | some c₀ =>
    obtain ⟨change, _, _, _, keeps, own, eq⟩ := step_connection acting move
    have phase : (s.step (.connection i move)).phase =
        if c₀.stage.phase = (change c₀).stage.phase then s.phase else (change c₀).stage.phase := by
      rw [eq]
    have find (id : Nat) : (s.step (.connection i move)).connection? id =
        if i = id then (s.connection? id).map change else s.connection? id := by
      rw [eq]
      exact connection?_changeConnection keeps i
    refine ⟨fun id c' found last => ?_, fun id c' found earlier => ?_⟩
    · rw [next] at last
      rw [find] at found
      split at found
      · rename_i here
        subst here
        rw [acting, Option.map_some] at found
        obtain rfl := Option.some.inj found
        rw [phase]
        split
        · rename_i same
          exact (phased.last i c₀ acting last).trans same
        · rfl
      · -- A connection that is not the last one is over, and the phase does not heed it.
        rename_i other
        have past := phased.earlier i c₀ acting (by omega)
        rw [phase, if_pos (by rw [past, own.over past])]
        exact phased.last id c' found last
    · rw [next] at earlier
      rw [find] at found
      split at found
      · rename_i here
        subst here
        rw [acting, Option.map_some] at found
        obtain rfl := Option.some.inj found
        exact own.over (phased.earlier i c₀ acting earlier)
      · exact phased.earlier id c' found earlier

theorem Phased.step (phased : s.Phased) (numbered : s.Numbered) (move : Move) :
    (s.step move).Phased := by
  have still (connect : move ≠ .connect) (own : ∀ id own, move ≠ .connection id own) :
      (s.step move).Phased := by
    have same {id : Nat} {c' : Connection} (found : (s.step move).connection? id = some c') :
        ∃ c, s.connection? id = some c ∧ c'.stage = c.stage := by
      rcases connection?_of_step numbered found with ⟨c, before, change⟩ | ⟨begun, -⟩
      · rcases change.stage_eq with same | ⟨move, other, -⟩
        · exact ⟨c, before, same⟩
        · exact absurd other (own _ move)
      · exact absurd begun connect
    refine ⟨fun id c' found last => ?_, fun id c' found earlier => ?_⟩
    · obtain ⟨c, before, stage⟩ := same found
      rw [step_nextConnection connect] at last
      rw [step_phase connect own, stage]
      exact phased.last id c before last
    · obtain ⟨c, before, stage⟩ := same found
      rw [step_nextConnection connect] at earlier
      rw [stage]
      exact phased.earlier id c before earlier
  cases move with
  | connect => exact phased.connect numbered
  | connection id move => exact phased.own id move
  | _ => exact still Move.noConfusion (fun _ _ => Move.noConfusion)

theorem kept_run (kept : s.Numbered ∧ s.Phased) (moves : List Move) :
    (s.run moves).Numbered ∧ (s.run moves).Phased :=
  run_induction (motive := fun _ (s : Subscriber) => s.Numbered ∧ s.Phased) kept
    (fun _ move held => ⟨held.1.step move, held.2.step held.1 move⟩) moves

theorem kept_new (callerId topic : String) (type : MessageType) (settings : SubscriberSettings) :
    (new callerId topic type settings).Numbered ∧ (new callerId topic type settings).Phased := by
  refine ⟨by unfold Numbered; rfl, fun _ _ found => ?_, fun _ _ found => ?_⟩ <;> cases found

theorem run_new (callerId topic : String) (type : MessageType) (settings : SubscriberSettings)
    (moves : List Move) :
    ((new callerId topic type settings).run moves).Numbered ∧
      ((new callerId topic type settings).run moves).Phased :=
  kept_run (kept_new callerId topic type settings) moves

end Subscriber

end TopicWire
