import TopicWire.Proofs.Frame.Reading
import TopicWire.Proofs.Session.Connection
import TopicWire.Proofs.Wire.Codec

/-!
# What a connection tells

A connection tells that it is connected, then an event for every frame that has arrived, in order and
each once, and at its end the failure, if one ended it, and that it is over. All events but the last two
wait for room. `Connection.Account` and `Connection.Halted` are kept by every move of the subscriber, so
`Subscriber.account_run` and `Subscriber.halted_run` give them for every run.
-/

namespace TopicWire

/-! ### Reading from what has arrived -/

namespace Connection

variable {c : Connection} {body : Bytes}

theorem leftOver_holds {s : Stream} {bs : Bytes} (held : Frame.Holds s bs) : leftOver s = bs := by
  rcases held with rfl | ⟨rfl, rfl⟩
  · exact List.append_nil bs
  · rfl

theorem frame_eq (c : Connection) {read : Except LinkError (Option Bytes)} (got : c.frame.1 = read) :
    ∃ s s', Frame.Holds s c.inbox ∧ Frame.read Frame.maxSize s = (read, s') ∧ c.frame.2 = leftOver s' := by
  refine ⟨_, _, Frame.holds_unless_empty c.inbox, Prod.ext got rfl, rfl⟩

theorem frame_some (got : c.frame.1 = .ok (some body)) :
    c.inbox = Frame.framed body ++ c.frame.2 ∧ body.length ≤ Frame.maxSize := by
  obtain ⟨s, s', held, read, left⟩ := c.frame_eq got
  obtain ⟨rest, all, after, small⟩ := held.read_some read
  rw [left, leftOver_holds after]
  exact ⟨all, small⟩

theorem frame_none (got : c.frame.1 = .ok none) : c.inbox = [] := by
  obtain ⟨s, s', held, read, -⟩ := c.frame_eq got
  exact held.read_none read

theorem header_ok {header : Header} (got : c.header = .ok header) :
    ∃ body, c.inbox = Frame.framed body ++ c.frame.2 ∧ body.length ≤ Frame.maxSize ∧
      Header.decodeFields body = .ok header := by
  obtain ⟨frame, read, header⟩ := Result.bind_ok_iff.mp got
  obtain ⟨body, rfl, decoded⟩ := Frame.headerOf_ok header
  obtain ⟨all, small⟩ := frame_some read
  exact ⟨body, all, small, decoded⟩

/-! ### The account of a connection -/

/-- What has arrived begins with a header that agrees and with these frames. -/
structure Read (type : MessageType) (arrived : Bytes) (header : Header) (bodies : List Bytes)
    (rest : Bytes) : Prop where
  parts : ∃ first, arrived = Frame.framed first ++ (Frame.framedAll bodies ++ rest) ∧
    first.length ≤ Frame.maxSize ∧ Header.decodeFields first = .ok header
  small : ∀ body ∈ bodies, body.length ≤ Frame.maxSize
  agrees : header.agrees type.digest = true

variable {type : MessageType} {arrived rest : Bytes} {header : Header} {bodies : List Bytes}

theorem Read.arrives (read : Read type arrived header bodies rest) (bytes : Bytes) :
    Read type (arrived ++ bytes) header bodies (rest ++ bytes) := by
  obtain ⟨⟨first, rfl, fits, decoded⟩, small, agrees⟩ := read
  refine ⟨⟨first, ?_, fits, decoded⟩, small, agrees⟩
  rw [List.append_assoc, List.append_assoc]

theorem Read.frame (read : Read type arrived header bodies (Frame.framed body ++ rest))
    (fits : body.length ≤ Frame.maxSize) : Read type arrived header (bodies ++ [body]) rest := by
  obtain ⟨parts, small, agrees⟩ := read
  refine ⟨?_, ?_, agrees⟩
  · rw [Frame.framedAll_snoc, List.append_assoc]
    exact parts
  · intro b there
    rcases List.mem_append.mp there with earlier | last
    · exact small b earlier
    · rw [List.mem_singleton.mp last]
      exact fits

/-- What is told of a header and frames. It has all found room. -/
def opened (type : MessageType) (header : Header) (bodies : List Bytes) :
    List (SubscriberEvent × Bool) :=
  (.connected header, true) :: bodies.map fun body => (Subscriber.eventOf type body, true)

theorem opened_snoc (type : MessageType) (header : Header) (bodies : List Bytes) (body : Bytes) :
    opened type header (bodies ++ [body]) =
      opened type header bodies ++ [(Subscriber.eventOf type body, true)] := by
  rw [opened, List.map_append, opened]
  rfl

/-- A connection that was open is over. What it has told of that is in `Halted`. -/
def Over (type : MessageType) (arrived : Bytes) (told : List (SubscriberEvent × Bool))
    (c : Connection) : Prop :=
  ∃ header bodies rest, Read type arrived header bodies rest ∧ opened type header bodies <+: told ∧
    c.result = some (.ok header)

/-- What was written, read and told, given all that has arrived. -/
def Account (request : Bytes) (type : MessageType) (arrived : Bytes)
    (told : List (SubscriberEvent × Bool)) (c : Connection) : Prop :=
  match c.stage with
  | .dialling => c.sent = [] ∧ c.inbox = arrived ∧ told = [] ∧ c.result = none
  | .requesting left => c.sent ++ left = request ∧ c.inbox = arrived ∧ told = [] ∧ c.result = none
  | .handshake => c.sent = request ∧ c.inbox = arrived ∧ told = [] ∧ c.result = none
  | .accepted header =>
    Read type arrived header [] c.inbox ∧ c.sent = request ∧ told = [] ∧ c.result = none
  | .reading => ∃ header bodies, Read type arrived header bodies c.inbox ∧ c.sent = request ∧
      told = opened type header bodies ∧ c.result = some (.ok header)
  | .delivering event => ∃ header bodies body,
      Read type arrived header (bodies ++ [body]) c.inbox ∧ c.sent = request ∧
      event = Subscriber.eventOf type body ∧ told = opened type header bodies ∧
      c.result = some (.ok header)
  | .ended => c.Over type arrived told ∧ c.sent = request
  | .released => c.Over type arrived told ∧ c.sent = request
  | .unhooked => c.Over type arrived told ∧ c.sent = request
  | .done => (∃ e, c.result = some (.error e) ∧ told = []) ∨
      c.sent = request ∧ ∃ earlier room, c.Over type arrived earlier ∧
        told = earlier ++ [(.disconnected, room)]

variable {request : Bytes} {told : List (SubscriberEvent × Bool)}

theorem Over.arrives (past : c.Over type arrived told) (bytes : Bytes) :
    c.Over type (arrived ++ bytes) told := by
  obtain ⟨header, bodies, rest, read, others⟩ := past
  exact ⟨header, bodies, _, read.arrives bytes, others⟩

theorem Account.arrives (account : c.Account request type arrived told) (bytes : Bytes) :
    { c with inbox := c.inbox ++ bytes }.Account request type (arrived ++ bytes) told := by
  unfold Account at account ⊢
  cases stage : c.stage with
  | dialling =>
    simp only [stage] at account ⊢
    exact ⟨account.1, by rw [account.2.1], account.2.2⟩
  | requesting left =>
    simp only [stage] at account ⊢
    exact ⟨account.1, by rw [account.2.1], account.2.2⟩
  | handshake =>
    simp only [stage] at account ⊢
    exact ⟨account.1, by rw [account.2.1], account.2.2⟩
  | accepted header =>
    simp only [stage] at account ⊢
    exact ⟨account.1.arrives bytes, account.2⟩
  | reading =>
    simp only [stage] at account ⊢
    obtain ⟨header, bodies, read, others⟩ := account
    exact ⟨header, bodies, read.arrives bytes, others⟩
  | delivering event =>
    simp only [stage] at account ⊢
    obtain ⟨header, bodies, body, read, others⟩ := account
    exact ⟨header, bodies, body, read.arrives bytes, others⟩
  | ended =>
    simp only [stage] at account ⊢
    exact ⟨account.1.arrives bytes, account.2⟩
  | released =>
    simp only [stage] at account ⊢
    exact ⟨account.1.arrives bytes, account.2⟩
  | unhooked =>
    simp only [stage] at account ⊢
    exact ⟨account.1.arrives bytes, account.2⟩
  | done =>
    simp only [stage] at account ⊢
    rcases account with failed | ⟨sent, earlier, room, past, all⟩
    · exact .inl failed
    · exact .inr ⟨sent, earlier, room, past.arrives bytes, all⟩

/-- What a move of the connection adds to what it has told. -/
def adds (c : Connection) (room : Bool) (move : Subscriber.ConnectionMove) :
    List (SubscriberEvent × Bool) :=
  (c.tells room move).toList.map (·, room)

theorem Account.own {s : Subscriber} {c' : Connection} {move : Subscriber.ConnectionMove}
    (account : c.Account s.request.encode s.type arrived told) (own : c.Own s move c') :
    c'.Account s.request.encode s.type arrived (told ++ c.adds s.events.hasRoom move) := by
  have quiet (silent : c.tells s.events.hasRoom move = none)
      (account : c'.Account s.request.encode s.type arrived told) :
      c'.Account s.request.encode s.type arrived (told ++ c.adds s.events.hasRoom move) := by
    rw [adds, silent, Option.toList_none, List.map_nil, List.append_nil]
    exact account
  have before := account
  unfold Account at before
  cases own with
  | rests silent => exact quiet silent account
  | dials stage =>
    simp only [stage] at before
    refine quiet rfl ?_
    simp only [Account, before, List.nil_append, and_self]
  | unreached stage silent reason =>
    simp only [stage] at before
    refine quiet silent ?_
    exact .inl ⟨_, rfl, before.2.2.1⟩
  | requests stage more =>
    simp only [stage] at before
    refine quiet rfl ?_
    simp only [Account, List.append_assoc, List.take_append_drop, before, and_self]
  | @requested count left stage all =>
    simp only [stage] at before
    have whole := List.take_of_length_le (List.drop_eq_nil_iff.mp all)
    refine quiet rfl ?_
    simp only [Account, whole, before, and_self]
  | accepts stage ready read agrees =>
    simp only [stage] at before
    obtain ⟨first, all, small, decoded⟩ := header_ok read
    refine quiet rfl ⟨⟨⟨first, ?_, small, decoded⟩, List.forall_mem_nil _, agrees⟩, before.1, before.2.2⟩
    rw [← before.2.1, all]
    rfl
  | refuses stage ready wrong =>
    simp only [stage] at before
    exact quiet rfl (.inl ⟨_, rfl, before.2.2.1⟩)
  | breaks stage silent reason =>
    refine quiet silent (.inl ⟨_, rfl, ?_⟩)
    rcases stage with stage | ⟨left, stage⟩
    · simp only [stage] at before
      exact before.2.2.1
    · simp only [stage] at before
      exact before.2.2.1
  | @connects header stage room =>
    simp only [stage] at before
    have tells : c.adds s.events.hasRoom .tell = [(.connected header, true)] := by
      simp only [adds, Connection.tells, room, if_true, due?, stage]
      rfl
    rw [tells, before.2.2.1]
    exact ⟨header, [], before.1, before.2.1, rfl, rfl⟩
  | @delivers event stage room =>
    simp only [stage] at before
    have tells : c.adds s.events.hasRoom .tell = [(event, true)] := by
      simp only [adds, Connection.tells, room, if_true, due?, stage]
      rfl
    obtain ⟨header, bodies, body, read, sent, rfl, rfl, result⟩ := before
    rw [tells, ← opened_snoc]
    exact ⟨header, bodies ++ [body], read, sent, rfl, result⟩
  | @reads body stage ready frame =>
    simp only [stage] at before
    obtain ⟨header, bodies, read, sent, told, result⟩ := before
    obtain ⟨all, small⟩ := frame_some frame
    have silent : c.tells s.events.hasRoom .readFrame = none := by
      simp only [Connection.tells, stage, ready, frame]
    rw [all] at read
    exact quiet silent ⟨header, bodies, body, read.frame small, sent, rfl, told, result⟩
  | runsOut stage ready frame =>
    simp only [stage] at before
    obtain ⟨header, bodies, read, sent, told, result⟩ := before
    have silent : c.tells s.events.hasRoom .readFrame = none := by
      simp only [Connection.tells, stage, ready, frame]
    exact quiet silent ⟨⟨header, bodies, _, read, told ▸ List.prefix_rfl, result⟩, sent⟩
  | @misreads e stage ready frame =>
    simp only [stage] at before
    obtain ⟨header, bodies, read, sent, told, result⟩ := before
    exact ⟨⟨header, bodies, _, read, told ▸ List.prefix_append _ _, result⟩, sent⟩
  | stops stage asked =>
    simp only [stage] at before
    obtain ⟨header, bodies, read, sent, told, result⟩ := before
    exact quiet rfl ⟨⟨header, bodies, _, read, told ▸ List.prefix_rfl, result⟩, sent⟩
  | @fails cause stage =>
    simp only [stage] at before
    obtain ⟨header, bodies, read, sent, told, result⟩ := before
    exact ⟨⟨header, bodies, _, read, told ▸ List.prefix_append _ _, result⟩, sent⟩
  | releases stage =>
    simp only [stage] at before
    exact quiet (by simp only [Connection.tells, stage]) before
  | unhooks stage =>
    simp only [stage] at before
    exact quiet (by simp only [Connection.tells, stage]) before
  | finishes stage =>
    simp only [stage] at before
    have tells : c.adds s.events.hasRoom .leave = [(.disconnected, s.events.hasRoom)] := by
      simp only [adds, Connection.tells, stage]
      rfl
    rw [tells]
    exact .inr ⟨before.2, told, _, before.1, rfl⟩

def toldBy (id : Nat) (tellings : List Telling) : List (SubscriberEvent × Bool) :=
  (tellings.filter (·.connection = id)).map fun t => (t.event, t.heard)

theorem toldBy_append (id : Nat) (tellings later : List Telling) :
    toldBy id (tellings ++ later) = toldBy id tellings ++ toldBy id later := by
  rw [toldBy, List.filter_append, List.map_append, toldBy, toldBy]

theorem toldBy_tells {s : Subscriber} {id : Nat} (found : s.connection? id = some c)
    (move : Subscriber.ConnectionMove) :
    toldBy id (s.tells (.connection id move)) = c.adds s.events.hasRoom move := by
  simp only [Subscriber.tells, found, adds]
  cases c.tells s.events.hasRoom move <;> simp [toldBy]

theorem toldBy_tells_of_other {s : Subscriber} {id : Nat} {move : Subscriber.Move}
    (other : ∀ own, move = .connection id own → s.connection? id = none) :
    toldBy id (s.tells move) = [] := by
  cases move with
  | connection acting own =>
    simp only [Subscriber.tells]
    cases there : s.connection? acting with
    | none => rfl
    | some c =>
      have here : acting ≠ id := by
        rintro rfl
        rw [other own rfl] at there
        cases there
      dsimp only
      cases c.tells s.events.hasRoom own <;> simp [toldBy, here]
  | _ => rfl

theorem Account.change {s : Subscriber} {c' : Connection} {move : Subscriber.Move}
    (account : c.Account s.request.encode s.type arrived told) (found : s.connection? c.id = some c)
    (change : c.Change s move c') :
    c'.Account s.request.encode s.type (arrived ++ s.brings c.id move)
      (told ++ toldBy c.id (s.tells move)) := by
  have quiet (brings : s.brings c.id move = []) (silent : toldBy c.id (s.tells move) = [])
      (account : c'.Account s.request.encode s.type arrived told) :
      c'.Account s.request.encode s.type (arrived ++ s.brings c.id move)
        (told ++ toldBy c.id (s.tells move)) := by
    rw [brings, silent, List.append_nil, List.append_nil]
    exact account
  cases change with
  | left other =>
    refine quiet ?_ ?_ account
    · cases move <;> simp_all [Subscriber.Move.leaves, Subscriber.brings]
    · refine toldBy_tells_of_other ?_
      rintro own rfl
      exact absurd other (by simp [Subscriber.Move.leaves])
  | spared closing => rcases closing with rfl | rfl <;> exact quiet rfl rfl account
  | asked closing => rcases closing with rfl | rfl <;> exact quiet rfl rfl account
  | @arrives bytes =>
    have brings : s.brings c.id (.arrive c.id bytes) = bytes := by
      simp [Subscriber.brings, found]
    rw [brings, toldBy_tells_of_other (by rintro own ⟨⟩), List.append_nil]
    exact account.arrives bytes
  | hangsUp => exact quiet rfl rfl account
  | own own =>
    rw [toldBy_tells found, show s.brings c.id (.connection c.id _) = [] from rfl, List.append_nil]
    exact account.own own

/-! ### How reading ends -/

variable {s : Subscriber} {c' : Connection} {halts : List Halt}

theorem haltsBy_eq (found : s.connection? c.id = some c) (move : Subscriber.ConnectionMove) :
    s.haltsBy c.id (.connection c.id move) = (c.halts move).toList := by
  rw [Subscriber.haltsBy, if_pos rfl, found]
  rfl

theorem haltsBy_of_other {id : Nat} {move : Subscriber.Move}
    (other : ∀ own, move = .connection id own → s.connection? id = none) : s.haltsBy id move = [] := by
  cases move with
  | connection acting own =>
    rw [Subscriber.haltsBy]
    split
    · rename_i same
      subst same
      rw [other own rfl]
      rfl
    · rfl
  | _ => rfl

theorem Change.own_or_still {move : Subscriber.Move} (change : c.Change s move c') :
    (∃ own, move = .connection c.id own ∧ c.Own s own c') ∨
      toldBy c.id (s.tells move) = [] ∧ c'.stage = c.stage ∧ c'.result = c.result ∧
        (c'.stopped = false → c.stopped = false) ∧ s.haltsBy c.id move = [] := by
  cases change with
  | left other =>
    have own_of (own : Subscriber.ConnectionMove) (same : move = .connection c.id own) :
        s.connection? c.id = none := by
      subst same
      exact absurd other (by simp [Subscriber.Move.leaves])
    exact .inr ⟨toldBy_tells_of_other own_of, rfl, rfl, fun unasked => unasked, haltsBy_of_other own_of⟩
  | spared closing =>
    rcases closing with rfl | rfl <;> exact .inr ⟨rfl, rfl, rfl, fun unasked => unasked, rfl⟩
  | asked closing =>
    rcases closing with rfl | rfl <;> exact .inr ⟨rfl, rfl, rfl, fun asked => (by cases asked), rfl⟩
  | arrives => exact .inr ⟨rfl, rfl, rfl, fun unasked => unasked, rfl⟩
  | hangsUp => exact .inr ⟨rfl, rfl, rfl, fun unasked => unasked, rfl⟩
  | own moved => exact .inl ⟨_, rfl, moved⟩

/-- That it is over is what a connection tells last. -/
def Last (c : Connection) (last : List (SubscriberEvent × Bool)) : Prop :=
  match c.stage with
  | .done => ∃ room, last = [(.disconnected, room)]
  | _ => last = []

/-- A connection that reads no further frame has only to end, in three moves. With the last it tells that
it is over. -/
theorem Own.of_past {move : Subscriber.ConnectionMove} (own : c.Own s move c')
    (past : c.stage.lives = false) :
    c.tells s.events.hasRoom move = none ∧
        (c' = c ∨ c.stage = .ended ∧ c' = { c with stage := .released } ∨
          c.stage = .released ∧ c' = { c with stage := .unhooked }) ∨
      c.tells s.events.hasRoom move = some .disconnected ∧ c.stage = .unhooked ∧
        c' = { c with stage := .done } := by
  cases own with
  | rests silent => exact .inl ⟨silent, .inl rfl⟩
  | releases stage => exact .inl ⟨by simp only [tells, stage], .inr (.inl ⟨stage, rfl⟩)⟩
  | unhooks stage => exact .inl ⟨by simp only [tells, stage], .inr (.inr ⟨stage, rfl⟩)⟩
  | finishes stage => exact .inr ⟨by simp only [tells, stage], stage, rfl⟩
  | breaks stage => rcases stage with stage | ⟨left, stage⟩ <;> rw [stage] at past <;> cases past
  -- All other moves are those of a connection that still reads.
  | _ => simp only [*] at past; cases past

theorem Own.lives_eq {move : Subscriber.ConnectionMove} (own : c.Own s move c')
    (past : c.stage.lives = false) : c'.stage.lives = false := by
  rcases own.of_past past with ⟨-, rfl | ⟨-, rfl⟩ | ⟨-, rfl⟩⟩ | ⟨-, -, rfl⟩
  · exact past
  · rfl
  · rfl
  · rfl

theorem Own.result_eq {move : Subscriber.ConnectionMove} (own : c.Own s move c')
    (past : c.stage.lives = false) : c'.result = c.result := by
  rcases own.of_past past with ⟨-, rfl | ⟨-, rfl⟩ | ⟨-, rfl⟩⟩ | ⟨-, -, rfl⟩ <;> rfl

theorem Own.last {move : Subscriber.ConnectionMove} (own : c.Own s move c') (past : c.stage.lives = false)
    {last : List (SubscriberEvent × Bool)} (ends : c.Last last) :
    c'.Last (last ++ c.adds s.events.hasRoom move) := by
  rcases own.of_past past with ⟨silent, eq⟩ | ⟨told, stage, rfl⟩
  · rw [adds, silent, Option.toList_none, List.map_nil, List.append_nil]
    rcases eq with rfl | ⟨stage, rfl⟩ | ⟨stage, rfl⟩
    · exact ends
    · rwa [Last, stage] at ends
    · rwa [Last, stage] at ends
  · rw [Last, stage] at ends
    obtain rfl : last = [] := ends
    exact ⟨s.events.hasRoom, by rw [adds, told]; rfl⟩

/-- What has come of reading so far: a connection that still reads was not halted, nor one that was
refused. Any other was halted once; it has told the frames that it had read, then the failure if that is
what halted it, and then that it is over. -/
inductive Halted (type : MessageType) (arrived : Bytes) (told : List (SubscriberEvent × Bool))
    (c : Connection) : List Halt → Prop
  | lives (lives : c.stage.lives = true) : Halted type arrived told c []
  | refused {e} (stage : c.stage = .done) (result : c.result = some (.error e)) :
      Halted type arrived told c []
  | once {halt header bodies rest room last} (past : c.stage.lives = false)
      (result : c.result = some (.ok header)) (read : Read type arrived header bodies rest)
      (tells : told = opened type header bodies ++ halt.event?.toList.map (·, room) ++ last)
      (ends : c.Last last) : Halted type arrived told c [halt]

theorem Account.of_reading (account : c.Account request type arrived told) (stage : c.stage = .reading) :
    ∃ header bodies, Read type arrived header bodies c.inbox ∧ told = opened type header bodies ∧
      c.result = some (.ok header) := by
  rw [Account, stage] at account
  obtain ⟨header, bodies, read, -, others⟩ := account
  exact ⟨header, bodies, read, others⟩

theorem Account.halted {halt : Halt} (account : c.Account request type arrived told)
    (stage : c.stage = .reading) (room : Bool) {added : List (SubscriberEvent × Bool)}
    (adds : added = halt.event?.toList.map (·, room)) (ended : c'.stage = .ended)
    (same : c'.result = c.result) : c'.Halted type arrived (told ++ added) [halt] := by
  obtain ⟨header, bodies, read, rfl, result⟩ := account.of_reading stage
  have tells : opened type header bodies ++ added =
      opened type header bodies ++ halt.event?.toList.map (·, room) ++ [] := by
    rw [adds, List.append_nil]
  have ends : c'.Last [] := by rw [Last, ended]
  exact .once (by rw [ended]; rfl) (same.trans result) read tells ends

theorem Halted.own {move : Subscriber.ConnectionMove} (halted : c.Halted s.type arrived told halts)
    (account : c.Account request s.type arrived told) (own : c.Own s move c') :
    c'.Halted s.type arrived (told ++ c.adds s.events.hasRoom move)
      (halts ++ (c.halts move).toList) := by
  cases halted with
  | @once halt header bodies rest room last past result read tells ends =>
    rw [halts_eq_none (by rintro stage; rw [stage] at past; cases past)]
    have tells : told ++ c.adds s.events.hasRoom move = opened s.type header bodies ++
        halt.event?.toList.map (·, room) ++ (last ++ c.adds s.events.hasRoom move) := by
      rw [tells, List.append_assoc]
    exact .once (own.lives_eq past) ((own.result_eq past).trans result) read tells (own.last past ends)
  | refused stage result =>
    have past : c.stage.lives = false := by rw [stage]; rfl
    rw [halts_eq_none (by rw [stage]; exact ConnectionStage.noConfusion)]
    rcases own.of_past past with ⟨-, rfl | ⟨other, -⟩ | ⟨other, -⟩⟩ | ⟨-, other, -⟩
    · exact .refused stage result
    all_goals rw [stage] at other; cases other
  | lives lives =>
    have calm (stage : c.stage ≠ .reading) (halted : c'.Halted s.type arrived
        (told ++ c.adds s.events.hasRoom move) []) : c'.Halted s.type arrived
          (told ++ c.adds s.events.hasRoom move) ([] ++ (c.halts move).toList) := by
      rw [halts_eq_none stage]
      exact halted
    cases own with
    | rests _ goesOn =>
      rw [goesOn]
      exact .lives lives
    | dials => exact .lives rfl
    | unreached stage => exact calm (by rw [stage]; exact ConnectionStage.noConfusion) (.refused rfl rfl)
    | requests => exact .lives rfl
    | requested => exact .lives rfl
    | accepts => exact .lives rfl
    | refuses => exact .refused rfl rfl
    | breaks stage =>
      refine calm ?_ (.refused rfl rfl)
      rcases stage with stage | ⟨left, stage⟩ <;> rw [stage] <;> exact ConnectionStage.noConfusion
    | connects => exact .lives rfl
    | delivers => exact .lives rfl
    | reads stage ready frame =>
      have goesOn : c.halts .readFrame = none := by simp only [Connection.halts, stage, ready, frame]
      rw [goesOn]
      exact .lives rfl
    | runsOut stage ready frame =>
      have halt : c.halts .readFrame = some .ranOut := by
        simp only [Connection.halts, stage, ready, frame]
      rw [halt]
      refine account.halted stage s.events.hasRoom ?_ rfl rfl
      simp only [adds, Connection.tells, stage, ready, frame, Halt.event?]
    | @misreads e stage ready frame =>
      have halt : c.halts .readFrame = some (.failed e) := by
        simp only [Connection.halts, stage, ready, frame]
      rw [halt]
      refine account.halted stage s.events.hasRoom ?_ rfl rfl
      simp only [adds, Connection.tells, stage, ready, frame, Halt.event?]
    | stops stage asked =>
      have halt : c.halts .stop = some .stopped := by simp only [Connection.halts, stage, asked]
      rw [halt]
      exact account.halted stage s.events.hasRoom rfl rfl rfl
    | @fails cause stage =>
      have halt : c.halts (.readFails cause) = some (.failed (.failed cause)) := by
        simp only [Connection.halts, stage]
      rw [halt]
      refine account.halted stage s.events.hasRoom ?_ rfl rfl
      simp only [adds, Connection.tells, stage, Halt.event?]
    | releases stage => rw [stage] at lives; cases lives
    | unhooks stage => rw [stage] at lives; cases lives
    | finishes stage => rw [stage] at lives; cases lives

/-- Everything but the connection's own moves leaves the way it ends alone. -/
theorem Halted.still (halted : c.Halted type arrived told halts) (stage : c'.stage = c.stage)
    (result : c'.result = c.result) (bytes : Bytes) : c'.Halted type (arrived ++ bytes) told halts := by
  cases halted with
  | lives lives => exact .lives (stage ▸ lives)
  | refused done failed => exact .refused (stage.trans done) (result.trans failed)
  | once past accepted read tells ends =>
    refine .once (stage ▸ past) (result.trans accepted) (read.arrives bytes) tells ?_
    rwa [Last, stage]

theorem Halted.change {move : Subscriber.Move} (halted : c.Halted s.type arrived told halts)
    (account : c.Account request s.type arrived told) (found : s.connection? c.id = some c)
    (change : c.Change s move c') :
    c'.Halted s.type (arrived ++ s.brings c.id move) (told ++ toldBy c.id (s.tells move))
      (halts ++ s.haltsBy c.id move) := by
  rcases change.own_or_still with ⟨own, rfl, moved⟩ | ⟨silent, stage, result, -, none⟩
  · rw [toldBy_tells found, haltsBy_eq found,
      show s.brings c.id (.connection c.id own) = [] from rfl, List.append_nil]
    exact halted.own account moved
  · rw [silent, none, List.append_nil, List.append_nil]
    exact halted.still stage result _

/-- The header of a connection that is over after it was established. -/
def returned? (c : Connection) : Option Header :=
  match c.stage, c.result with
  | .done, some (.ok header) => some header
  | _, _ => none

theorem of_returned? {header : Header} (returned : c.returned? = some header) :
    c.stage = .done ∧ c.result = some (.ok header) := by
  unfold returned? at returned
  split at returned
  · rename_i stage result
    obtain rfl := Option.some.inj returned
    exact ⟨stage, result⟩
  · cases returned

end Connection

namespace Subscriber

theorem quiet_of_absent {s : Subscriber} {id : Nat} (absent : s.connection? id = none) (move : Move) :
    s.brings id move = [] ∧ s.haltsBy id move = [] ∧ Connection.toldBy id (s.tells move) = [] := by
  refine ⟨?_, Connection.haltsBy_of_other fun _ _ => absent,
    Connection.toldBy_tells_of_other fun _ _ => absent⟩
  cases move <;> simp [brings, absent]

theorem quiet_run (s : Subscriber) (id : Nat) (moves : List Move)
    (absent : (s.run moves).connection? id = none) :
    s.arrived id moves = [] ∧ s.haltsIn id moves = [] ∧
      Connection.toldBy id (s.toldIn moves) = [] := by
  revert absent
  refine run_induction (motive := fun moves (t : Subscriber) => t.connection? id = none →
    s.arrived id moves = [] ∧ s.haltsIn id moves = [] ∧ Connection.toldBy id (s.toldIn moves) = [])
    (fun _ => ⟨rfl, rfl, rfl⟩) (fun moves move held absent => ?_) moves
  change (s.run moves).connection? id = none → _ at held
  change ((s.run moves).step move).connection? id = none at absent
  cases before : (s.run moves).connection? id with
  | some c =>
    -- A connection that was there would be there still.
    obtain ⟨c', found, -⟩ := connection?_step before move
    rw [absent] at found
    cases found
  | none =>
    obtain ⟨arrived, halts, told⟩ := held before
    obtain ⟨brings, goesOn, silent⟩ := quiet_of_absent before move
    rw [arrived_snoc, haltsIn_snoc, toldIn_snoc, Connection.toldBy_append, arrived, halts, told, brings,
      goesOn, silent]
    exact ⟨rfl, rfl, rfl⟩

theorem account_run (callerId topic : String) (type : MessageType) (settings : SubscriberSettings)
    (moves : List Move) {id : Nat} {c : Connection}
    (found : ((new callerId topic type settings).run moves).connection? id = some c) :
    c.Account (new callerId topic type settings).request.encode type
      ((new callerId topic type settings).arrived id moves)
      (Connection.toldBy id ((new callerId topic type settings).toldIn moves)) := by
  revert c
  generalize start_eq : new callerId topic type settings = start
  refine run_induction (motive := fun moves (s : Subscriber) => ∀ {c : Connection},
    s.connection? id = some c → c.Account start.request.encode type (start.arrived id moves)
      (Connection.toldBy id (start.toldIn moves))) ?_ (fun moves move held c' found => ?_) moves
  · subst start_eq
    intro c found
    cases found
  · have numbered : (start.run moves).Numbered := start_eq ▸ (run_new callerId topic type settings moves).1
    have alike := start.run_alike moves
    have sameType : (start.run moves).type = type := start_eq ▸ alike.2.2.1
    rw [arrived_snoc, toldIn_snoc, Connection.toldBy_append]
    rcases connection?_of_step numbered found with ⟨c, before, change⟩ | ⟨rfl, -, rfl, rfl⟩
    · have account := held before
      have id_eq := id_of_connection? before
      rw [← alike.request, ← sameType, ← id_eq] at account ⊢
      exact account.change (by rw [id_eq]; exact before) change
    · have before := numbered.connection?_eq_none_iff.mpr (Nat.le_refl (start.run moves).nextConnection)
      obtain ⟨arrived, -, told⟩ := start.quiet_run _ moves before
      change Connection.Account _ _ (start.arrived (start.run moves).nextConnection moves ++ _)
        (Connection.toldBy (start.run moves).nextConnection _ ++ _) _
      rw [arrived, told]
      exact ⟨rfl, rfl, rfl, rfl⟩

theorem halted_run (callerId topic : String) (type : MessageType) (settings : SubscriberSettings)
    (moves : List Move) {id : Nat} {c : Connection}
    (found : ((new callerId topic type settings).run moves).connection? id = some c) :
    c.Halted type ((new callerId topic type settings).arrived id moves)
      (Connection.toldBy id ((new callerId topic type settings).toldIn moves))
      ((new callerId topic type settings).haltsIn id moves) := by
  revert c
  generalize start_eq : new callerId topic type settings = start
  refine run_induction (motive := fun moves (s : Subscriber) => ∀ {c : Connection},
    s.connection? id = some c → c.Halted type (start.arrived id moves)
      (Connection.toldBy id (start.toldIn moves)) (start.haltsIn id moves)) ?_
    (fun moves move held c' found => ?_) moves
  · subst start_eq
    intro c found
    cases found
  · have numbered : (start.run moves).Numbered := start_eq ▸ (run_new callerId topic type settings moves).1
    have sameType : (start.run moves).type = type := start_eq ▸ (start.run_alike moves).2.2.1
    rw [arrived_snoc, haltsIn_snoc, toldIn_snoc, Connection.toldBy_append]
    rcases connection?_of_step numbered found with ⟨c, before, change⟩ | ⟨rfl, -, rfl, rfl⟩
    · have halted := held before
      have account := account_run callerId topic type settings moves (start_eq ▸ before)
      obtain rfl := id_of_connection? before
      rw [start_eq, ← sameType] at account
      rw [← sameType] at halted ⊢
      exact halted.change account before change
    · have before := numbered.connection?_eq_none_iff.mpr (Nat.le_refl (start.run moves).nextConnection)
      have unhalted : start.haltsIn (start.run moves).nextConnection moves = [] :=
        (start.quiet_run _ moves before).2.1
      change Connection.Halted _ _ _ _ (start.haltsIn (start.run moves).nextConnection moves ++ _)
      rw [unhalted]
      exact .lives rfl

/-- When a connection that was open has come to its end, its reading was ended once: by the end of the
stream, by a failure or by closing. It has told that it is connected, one event for every frame that was
read, the failure if that is what ended it, and last that it is over. Everything told before the end has
found room; the failure and the end are heard only if there was room for them just then. -/
theorem told_when_done (callerId topic : String) (type : MessageType) (settings : SubscriberSettings)
    (moves : List Move) (id : Nat) (c : Connection) (header : Header) :
    let start := new callerId topic type settings
    (start.run moves).connection? id = some c → c.stage = .done → c.result = some (.ok header) →
      (∃ bodies rest halt room room',
        Connection.Read type (start.arrived id moves) header bodies rest ∧
        start.haltsIn id moves = [halt] ∧
        Connection.toldBy id (start.toldIn moves) =
          (.connected header, true) :: bodies.map (fun body => (eventOf type body, true)) ++
            halt.event?.toList.map (·, room) ++ [(.disconnected, room')]) ∧
      start.heardIn moves ++ (start.run moves).events.items = heardOf (start.toldIn moves) := by
  intro start found stage result
  refine ⟨?_, start.heardIn_append_items moves⟩
  have halted := halted_run callerId topic type settings moves found
  generalize halts_eq : start.haltsIn id moves = halts
  rw [halts_eq] at halted
  cases halted with
  | lives lives =>
    rw [stage] at lives
    cases lives
  | refused _ failed =>
    rw [result] at failed
    cases failed
  | @once halt header' bodies rest room last _ accepted read told ends =>
    obtain rfl : header' = header := by
      rw [result] at accepted
      exact (Except.ok.inj (Option.some.inj accepted)).symm
    rw [Connection.Last, stage] at ends
    obtain ⟨room', rfl⟩ := ends
    exact ⟨bodies, rest, halt, room, room', read, rfl, told⟩

/-! ### A full channel -/

/-- A subscriber with room for one event. -/
def cramped : Subscriber :=
  new "/listener" "/points" MessageType.pointType { eventCapacity := 1 }

/-- What a publisher of any type answers. -/
def anyHeader : Header := { digest := some Header.wildcard }

/-- The publisher answers, goes on with half of a frame and closes its side. That the frame is cut off
takes the only place in the channel, so that the end of the connection finds none. -/
def cutOff : List Move :=
  [.connect, .connection 0 (.dialled .connected), .connection 0 (.write 1000),
    .arrive 0 anyHeader.encode, .connection 0 .readHeader, .connection 0 .tell, .receive,
    .arrive 0 [5, 0], .hangUp 0, .connection 0 .readFrame, .connection 0 .leave,
    .connection 0 .leave, .connection 0 .leave]

def isDisconnected : SubscriberEvent → Bool
  | .disconnected => true
  | _ => false

theorem cramped_unheard :
    ∃ c, (cramped.run cutOff).connection? 0 = some c ∧ c.stage = .done ∧
      c.result = some (.ok anyHeader) ∧
      (∃ (bodies : List Bytes) (halt : Connection.Halt) (room room' : Bool),
        cramped.haltsIn 0 cutOff = [halt] ∧ halt.event?.isSome = true ∧
        Connection.toldBy 0 (cramped.toldIn cutOff) =
          (.connected anyHeader, true) ::
            bodies.map (fun body => (eventOf MessageType.pointType body, true)) ++
            halt.event?.toList.map (·, room) ++ [(.disconnected, room')]) ∧
      (cramped.heardIn cutOff ++ (cramped.run cutOff).events.items).countP isDisconnected = 0 := by
  have lost : (cramped.heardIn cutOff ++ (cramped.run cutOff).events.items).countP isDisconnected = 0 := by
    decide +kernel
  have ended : ((cramped.run cutOff).connection? 0).any (·.returned? = some anyHeader) = true := by
    decide +kernel
  have failed : (cramped.haltsIn 0 cutOff).all (·.event?.isSome) = true := by decide +kernel
  obtain ⟨c, found, returned⟩ := (Option.any_eq_true _ _).mp ended
  obtain ⟨stage, result⟩ := Connection.of_returned? (of_decide_eq_true returned)
  obtain ⟨⟨bodies, rest, halt, room, room', -, halted, told⟩, -⟩ := told_when_done "/listener"
    "/points" MessageType.pointType { eventCapacity := 1 } cutOff 0 c _ found stage result
  change cramped.haltsIn 0 cutOff = [halt] at halted
  rw [halted, List.all_cons, List.all_nil, Bool.and_true] at failed
  exact ⟨c, found, stage, result, ⟨bodies, halt, room, room', halted, failed, told⟩, lost⟩

end Subscriber

end TopicWire
