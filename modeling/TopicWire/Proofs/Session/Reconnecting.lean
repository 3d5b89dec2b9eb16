import TopicWire.Proofs.Session.Forgetting
import TopicWire.Proofs.Session.Steady

/-!
# One connection after the other

Only the last connection of a subscriber can be connecting or connected. What makes an attempt to connect
fail is `Connection.Fails`; every other move of the attempt brings it on (`Subscriber.connecting_cases`),
and no move of it reaches the hook or the channel. A connection that is not over is stopped exactly if it
was asked to stop while it was the one connecting or connected (`Subscriber.stopped_iff`).
-/

namespace TopicWire

/-! ### Attempts that fail -/

/-- What makes an attempt to connect fail, and the error that it fails with. -/
inductive Connection.Fails (digest : String) (c : Connection) :
    Subscriber.ConnectionMove → SessionError → Prop
  | refused {cause} (stage : c.stage = .dialling) : Fails digest c (.dialled (.failed cause)) (.failed cause)
  | unanswered (stage : c.stage = .dialling) : Fails digest c .dialTimeout (.timeout "connect")
  | unsent {left cause} (stage : c.stage = .requesting left) :
      Fails digest c (.writeFails cause) (.link (.failed cause))
  | late (stage : c.stage = .handshake) : Fails digest c .timeout (.timeout "publisher handshake")
  | unread {cause} (stage : c.stage = .handshake) :
      Fails digest c (.readFails cause) (.link (.failed cause))
  | malformed {e} (stage : c.stage = .handshake) (ready : c.frameReady = true)
      (wrong : c.header = .error e) : Fails digest c .readHeader (.link e)
  | mismatched {header} (stage : c.stage = .handshake) (ready : c.frameReady = true)
      (read : c.header = .ok header) (differs : header.agrees digest = false) :
      Fails digest c .readHeader (.digestMismatch digest (header.digest.getD ""))

namespace Subscriber

variable {s : Subscriber} {c : Connection} {id : Nat}

/-- The move brings an attempt to connect on: the attempt is not over, and nothing else changes but
perhaps the phase. -/
def Advances (s : Subscriber) (c : Connection) (t : Subscriber) : Prop :=
  ∃ (change : Connection → Connection) (phase : SubscriberPhase),
    (∀ c, (change c).id = c.id) ∧ (change c).stage.lives = true ∧
      (change c).result = c.result ∧ t = { s.changeConnection c.id change with phase := phase }

theorem advances_rests (connecting : c.stage.phase = .connecting) : s.Advances c s := by
  refine ⟨fun c => c, s.phase, fun _ => rfl, ?_, rfl, ?_⟩
  · cases stage : c.stage <;> first | rfl | (rw [stage] at connecting; cases connecting)
  · rw [changeConnection_id]

theorem readHeader_cases (s : Subscriber) (stage : c.stage = .handshake) (ready : c.frameReady = true) :
    (∃ e, c.Fails s.type.digest .readHeader e ∧ s.readHeader c = s.failConnect c.id e) ∨
      s.Advances c (s.readHeader c) := by
  have same : (c.frame.1 >>= Frame.headerOf) = c.header := rfl
  simp only [readHeader, same]
  cases read : c.header with
  | error e => exact .inl ⟨_, .malformed stage ready read, rfl⟩
  | ok header =>
    cases agrees : header.agrees s.type.digest with
    | false =>
      simp only [agrees, Bool.false_eq_true, if_false]
      exact .inl ⟨_, .mismatched stage ready read agrees, rfl⟩
    | true =>
      simp only [agrees, if_true]
      refine .inr ⟨fun other => { other with stage := .accepted header, inbox := c.frame.2 }, .connected,
        fun _ => rfl, rfl, rfl, rfl⟩

/-- Whatever a connection does while it is connecting, the attempt fails for a known reason or goes
on. -/
theorem connecting_cases (s : Subscriber) (connecting : c.stage.phase = .connecting)
    (move : ConnectionMove) :
    (∃ e, c.Fails s.type.digest move e ∧ s.connectionStep c move = s.failConnect c.id e) ∨
      s.Advances c (s.connectionStep c move) := by
  have rests {move : ConnectionMove} (none : s.connectionStep c move = s) :
      (∃ e, c.Fails s.type.digest move e ∧ s.connectionStep c move = s.failConnect c.id e) ∨
        s.Advances c (s.connectionStep c move) :=
    .inr (none.symm ▸ advances_rests connecting)
  have silent : s.tell c = s := by
    rw [tell]
    split
    · cases stage : c.stage <;> first | rfl | (rw [stage] at connecting; cases connecting)
    · rfl
  cases stage : c.stage with
  | dialling =>
    cases move with
    | dialled outcome =>
      simp only [connectionStep, stage]
      cases outcome with
      | connected =>
        exact .inr ⟨fun c => { c with stage := .requesting s.request.encode }, s.phase, fun _ => rfl,
          rfl, rfl, rfl⟩
      | failed cause => exact .inl ⟨_, .refused stage, rfl⟩
    | dialTimeout =>
      simp only [connectionStep, stage]
      exact .inl ⟨_, .unanswered stage, rfl⟩
    | tell => exact rests silent
    | _ => exact rests (by simp only [connectionStep, leave, stage])
  | requesting left =>
    cases move with
    | write count =>
      simp only [connectionStep, stage]
      refine .inr ⟨_, s.phase, ?_, ?_, ?_, rfl⟩
      · exact fun _ => rfl
      · cases left.drop count <;> rfl
      · rfl
    | writeFails cause =>
      simp only [connectionStep, stage]
      exact .inl ⟨_, .unsent stage, rfl⟩
    | tell => exact rests silent
    | _ => exact rests (by simp only [connectionStep, leave, stage])
  | handshake =>
    cases move with
    | readHeader =>
      simp only [connectionStep, stage]
      cases ready : c.frameReady with
      | false => exact .inr (advances_rests connecting)
      | true => exact readHeader_cases s stage ready
    | timeout =>
      simp only [connectionStep, stage]
      exact .inl ⟨_, .late stage, rfl⟩
    | readFails cause =>
      simp only [connectionStep, stage]
      exact .inl ⟨_, .unread stage, rfl⟩
    | tell => exact rests silent
    | _ => exact rests (by simp only [connectionStep, leave, stage])
  | _ => rw [stage] at connecting; cases connecting

theorem step_of_fails {move : ConnectionMove} {e : SessionError} (found : s.connection? id = some c)
    (fails : c.Fails s.type.digest move e) : s.step (.connection id move) = s.failConnect id e := by
  obtain rfl := id_of_connection? found
  simp only [step, found]
  cases fails with
  | malformed stage ready wrong =>
    have wrong : (c.frame.1 >>= Frame.headerOf) = .error _ := wrong
    simp only [connectionStep, stage, ready, if_true, readHeader, wrong]
  | mismatched stage ready read differs =>
    have read : (c.frame.1 >>= Frame.headerOf) = .ok _ := read
    simp only [connectionStep, stage, ready, if_true, readHeader, read, differs, Bool.false_eq_true,
      if_false]
  | _ => simp only [connectionStep, *]

theorem connection?_failConnect (found : s.connection? id = some c) (e : SessionError) :
    (s.failConnect id e).connection? id =
      some { c with stage := .done, result := some (.error e) } := by
  have keeps (c : Connection) : { c with stage := .done, result := some (.error e) }.id = c.id := rfl
  have changed := (s.connection?_changeConnection keeps id).trans (if_pos rfl)
  rw [found] at changed
  exact changed

/-! ### The current connection and the hook -/

/-- A connection that is not connecting leaves the current connection as it is, and the hook until it
runs it. -/
theorem connected_cases (s : Subscriber) (connected : c.stage.phase ≠ .connecting)
    (move : ConnectionMove) :
    (s.connectionStep c move).current = s.current ∧
      ((s.connectionStep c move).hook = s.hook ∧ (s.connectionStep c move).ran = s.ran ∨
        c.stage = .released ∧ move = .leave) := by
  have rests {t : Subscriber} {p : Prop} (eq : t = s) :
      t.current = s.current ∧ (t.hook = s.hook ∧ t.ran = s.ran ∨ p) :=
    eq ▸ ⟨rfl, .inl ⟨rfl, rfl⟩⟩
  cases stage : c.stage with
  | dialling => rw [stage] at connected; exact absurd rfl connected
  | requesting left => rw [stage] at connected; exact absurd rfl connected
  | handshake => rw [stage] at connected; exact absurd rfl connected
  | accepted header =>
    cases move with
    | tell =>
      simp only [connectionStep, tell, stage]
      split <;> exact ⟨rfl, .inl ⟨rfl, rfl⟩⟩
    | _ => exact rests (by simp only [connectionStep, leave, stage])
  | delivering event =>
    cases move with
    | tell =>
      simp only [connectionStep, tell, stage]
      split <;> exact ⟨rfl, .inl ⟨rfl, rfl⟩⟩
    | _ => exact rests (by simp only [connectionStep, leave, stage])
  | reading =>
    cases move with
    | tell => exact rests (by simp only [connectionStep, tell, stage, ite_self])
    | readFrame =>
      simp only [connectionStep, stage]
      split
      · rw [readFrame]
        split <;> exact ⟨rfl, .inl ⟨rfl, rfl⟩⟩
      · exact rests rfl
    | stop =>
      simp only [connectionStep, stage]
      split <;> exact ⟨rfl, .inl ⟨rfl, rfl⟩⟩
    | readFails cause =>
      simp only [connectionStep, stage]
      exact ⟨rfl, .inl ⟨rfl, rfl⟩⟩
    | _ => exact rests (by simp only [connectionStep, leave, stage])
  | released =>
    cases move with
    | leave =>
      refine ⟨?_, .inr ⟨rfl, rfl⟩⟩
      simp only [connectionStep, leave, stage]
      rfl
    | tell => exact rests (by simp only [connectionStep, tell, stage, ite_self])
    | _ => exact rests (by simp only [connectionStep, stage])
  | done => exact rests (connectionStep_done stage move)
  | _ =>
    cases move with
    | leave =>
      simp only [connectionStep, leave, stage]
      exact ⟨rfl, .inl ⟨rfl, rfl⟩⟩
    | tell => exact rests (by simp only [connectionStep, tell, stage, ite_self])
    | _ => exact rests (by simp only [connectionStep, stage])

/-- A connection runs the hook only in the step that follows its release. -/
theorem connectionStep_hook (s : Subscriber) (c : Connection) (move : ConnectionMove) :
    (s.connectionStep c move).hook = s.hook ∧ (s.connectionStep c move).ran = s.ran ∨
      c.stage = .released ∧ move = .leave := by
  by_cases connecting : c.stage.phase = .connecting
  · rcases s.connecting_cases connecting move with ⟨e, -, failed⟩ | ⟨change, phase, -, -, -, eq⟩
    · exact .inl (failed ▸ ⟨rfl, rfl⟩)
    · exact .inl (eq ▸ ⟨rfl, rfl⟩)
  · exact (s.connected_cases connecting move).2

theorem connectionStep_current (s : Subscriber) (c : Connection) (move : ConnectionMove) :
    (s.connectionStep c move).current = s.current ∨
      (s.connectionStep c move).current = none ∧ (s.connectionStep c move).phase = .disconnected := by
  by_cases connecting : c.stage.phase = .connecting
  · rcases s.connecting_cases connecting move with ⟨e, -, failed⟩ | ⟨change, phase, -, -, -, eq⟩
    · exact .inr (failed ▸ ⟨rfl, rfl⟩)
    · exact .inl (eq ▸ rfl)
  · exact .inl (s.connected_cases connecting move).1

/-- The current connection is the last one, and there is one while the subscriber is not
disconnected. -/
structure Pointed (s : Subscriber) : Prop where
  last : ∀ id, s.current = some id → id + 1 = s.nextConnection
  there : s.phase ≠ .disconnected → s.current ≠ none

/-- Once all connections are over, no move of a connection makes the subscriber connect. -/
theorem free_connection (phased : s.Phased) (free : s.phase = .disconnected)
    (id : Nat) (move : ConnectionMove) : (s.step (.connection id move)).phase = .disconnected := by
  cases found : s.connection? id with
  | none => rw [step_connection_none found, free]
  | some c =>
    obtain ⟨change, _, _, _, -, own, eq⟩ := step_connection found move
    have past : c.stage.phase = .disconnected := by
      by_cases last : id + 1 = s.nextConnection
      · exact (phased.last id c found last).symm.trans free
      · exact phased.earlier id c found last
    rw [eq]
    change (if c.stage.phase = (change c).stage.phase then s.phase else _) = _
    rw [if_pos (past.trans (own.over past).symm), free]

theorem close_current (s : Subscriber) : s.close.current = s.current := by
  unfold close
  split <;> rfl

theorem drop_current (s : Subscriber) : s.drop.current = s.current := by
  obtain ⟨hook, ran, eq⟩ := s.drop_eq
  rw [eq]
  exact s.close_current

theorem Pointed.step (pointed : s.Pointed) (phased : s.Phased) (move : Move) :
    (s.step move).Pointed := by
  have kept {t : Subscriber} (current : t.current = s.current) (phase : t.phase = s.phase)
      (next : t.nextConnection = s.nextConnection) : t.Pointed := by
    refine ⟨?_, ?_⟩
    · rw [current, next]
      exact pointed.last
    · rw [current, phase]
      exact pointed.there
  have still (connect : move ≠ .connect) (own : ∀ id own, move ≠ .connection id own)
      (current : (s.step move).current = s.current) : (s.step move).Pointed :=
    kept current (step_phase connect own) (step_nextConnection connect)
  cases move with
  | connect =>
    by_cases free : s.phase = .disconnected
    · rw [step_connect free]
      refine ⟨fun id same => ?_, fun _ => Option.some_ne_none _⟩
      obtain rfl := Option.some.inj same
      rfl
    · rw [step_connect_of_ne free]
      exact pointed
  | connection id move =>
    have next : (s.step (.connection id move)).nextConnection = s.nextConnection :=
      step_nextConnection Move.noConfusion
    have free (phase : (s.step (.connection id move)).phase ≠ .disconnected) :
        s.phase ≠ .disconnected := fun free => phase (free_connection phased free id move)
    cases found : s.connection? id with
    | none =>
      rw [step_connection_none found]
      exact pointed
    | some c =>
      have moved : s.step (.connection id move) = s.connectionStep c move := by
        simp only [Subscriber.step, found]
      rw [moved] at next free ⊢
      rcases s.connectionStep_current c move with current | ⟨current, phase⟩
      · refine ⟨?_, fun phase => ?_⟩
        · rw [current, next]
          exact pointed.last
        · rw [current]
          exact pointed.there (free phase)
      · refine ⟨fun id same => ?_, fun taken => absurd phase taken⟩
        rw [current] at same
        cases same
  | close => exact still Move.noConfusion (fun _ _ => Move.noConfusion) s.close_current
  | drop => exact still Move.noConfusion (fun _ _ => Move.noConfusion) s.drop_current
  | onClose hook => exact still Move.noConfusion (fun _ _ => Move.noConfusion) rfl
  | arrive other bytes => exact still Move.noConfusion (fun _ _ => Move.noConfusion) rfl
  | hangUp other => exact still Move.noConfusion (fun _ _ => Move.noConfusion) rfl
  | receive => exact still Move.noConfusion (fun _ _ => Move.noConfusion) rfl

/-! ### Closing -/

theorem connection?_close_eq (s : Subscriber) (id : Nat) :
    s.close.connection? id =
      if s.current = some id then (s.connection? id).map ({ · with stopped := true })
      else s.connection? id := by
  cases pointed : s.current with
  | none =>
    have still : s.close = s := by rw [close, pointed]
    rw [still, if_neg (Option.some_ne_none id).symm]
  | some current =>
    have changed : s.close = s.changeConnection current ({ · with stopped := true }) := by
      rw [close, pointed]
    rw [changed, connection?_changeConnection (by exact fun _ => rfl)]
    exact if_congr Option.some_inj.symm rfl rfl

/-- A connection is asked to stop by closing the subscriber while it is the current one. -/
theorem connection?_closing {move : Move} (closing : move = .close ∨ move = .drop) :
    (s.step move).connection? id =
      if s.current = some id then (s.connection? id).map ({ · with stopped := true })
      else s.connection? id := by
  rw [← connection?_close_eq]
  rcases closing with rfl | rfl
  · rfl
  · obtain ⟨hook, ran, eq⟩ := s.drop_eq
    rw [step, eq]
    rfl

def Asked (start : Subscriber) (moves : List Move) (id : Nat) : Prop :=
  ∃ earlier closing later, moves = earlier ++ closing :: later ∧
    (closing = .close ∨ closing = .drop) ∧ (start.run earlier).current = some id

theorem asked_snoc (start : Subscriber) (moves : List Move) (move : Move) (id : Nat) :
    start.Asked (moves ++ [move]) id ↔ start.Asked moves id ∨
      (move = .close ∨ move = .drop) ∧ (start.run moves).current = some id := by
  constructor
  · rintro ⟨earlier, closing, later, split, closes, pointed⟩
    rcases List.eq_nil_or_concat later with rfl | ⟨later, last, rfl⟩
    · obtain ⟨rfl, same⟩ := List.append_inj' split rfl
      obtain rfl := List.singleton_inj.mp same
      exact .inr ⟨closes, pointed⟩
    · rw [List.concat_eq_append, ← List.cons_append, ← List.append_assoc] at split
      exact .inl ⟨earlier, closing, later, (List.append_inj' split rfl).1, closes, pointed⟩
  · rintro (⟨earlier, closing, later, rfl, closes, pointed⟩ | ⟨closes, pointed⟩)
    · exact ⟨earlier, closing, later ++ [move], by rw [List.append_assoc, List.cons_append], closes,
        pointed⟩
    · exact ⟨moves, move, [], rfl, closes, pointed⟩

theorem nextConnection_le_step (s : Subscriber) (move : Move) :
    s.nextConnection ≤ (s.step move).nextConnection := by
  by_cases connect : move = .connect
  · subst connect
    by_cases free : s.phase = .disconnected
    · rw [step_connect free]
      exact Nat.le_succ _
    · exact Nat.le_of_eq (by rw [step_connect_of_ne free])
  · exact Nat.le_of_eq (step_nextConnection connect).symm

theorem nextConnection_le_run (s : Subscriber) (moves : List Move) :
    s.nextConnection ≤ (s.run moves).nextConnection := by
  induction moves generalizing s with
  | nil => exact Nat.le_refl _
  | cons move moves ih => exact Nat.le_trans (s.nextConnection_le_step move) (ih _)

/-- What a subscriber keeps from its beginning. -/
structure Kept (s : Subscriber) : Prop where
  numbered : s.Numbered
  phased : s.Phased
  pointed : s.Pointed

theorem Kept.step (kept : s.Kept) (move : Move) : (s.step move).Kept :=
  ⟨kept.numbered.step move, kept.phased.step kept.numbered move, kept.pointed.step kept.phased move⟩

theorem Kept.run (kept : s.Kept) (moves : List Move) : (s.run moves).Kept :=
  run_induction (motive := fun _ (s : Subscriber) => s.Kept) kept
    (fun _ move held => held.step move) moves

theorem Kept.new (callerId topic : String) (type : MessageType) (settings : SubscriberSettings) :
    (new callerId topic type settings).Kept := by
  obtain ⟨numbered, phased⟩ := kept_new callerId topic type settings
  refine ⟨numbered, phased, fun id same => ?_, fun taken => absurd rfl taken⟩
  cases same

theorem Kept.not_asked {start : Subscriber} (kept : start.Kept) {moves : List Move}
    (future : (start.run moves).nextConnection ≤ id) : ¬ start.Asked moves id := by
  rintro ⟨earlier, closing, later, rfl, -, pointed⟩
  have last := (kept.run earlier).pointed.last id pointed
  have grows := (start.run earlier).nextConnection_le_run (closing :: later)
  rw [run_append] at future
  omega

/-- A connection has been stopped exactly if it was asked to while it was the current one. -/
theorem Kept.stopped_iff {start : Subscriber} (kept : start.Kept) (fresh : start.connections = [])
    (moves : List Move) (found : (start.run moves).connection? id = some c) :
    c.stopped = true ↔ start.Asked moves id := by
  revert c
  refine run_induction (motive := fun moves (s : Subscriber) => ∀ {c : Connection},
    s.connection? id = some c → (c.stopped = true ↔ start.Asked moves id)) ?_
    (fun moves move held c' found => ?_) moves
  · intro c found
    rw [connection?, fresh] at found
    cases found
  · have keeps := kept.run moves
    rw [asked_snoc]
    rcases connection?_of_step keeps.numbered found with ⟨c, before, change⟩ | ⟨rfl, -, rfl, rfl⟩
    · rw [← held before]
      by_cases closes : move = .close ∨ move = .drop
      · change ((start.run moves).step move).connection? id = some c' at found
        rw [connection?_closing closes] at found
        split at found
        · rename_i pointed
          change (start.run moves).connection? id = some c at before
          rw [before, Option.map_some] at found
          obtain rfl := Option.some.inj found
          exact ⟨fun _ => .inr ⟨closes, pointed⟩, fun _ => rfl⟩
        · rename_i other
          obtain rfl := Option.some.inj (before.symm.trans found)
          exact ⟨.inl, fun either => either.elim (fun same => same) fun both => absurd both.2 other⟩
      · have goesOn : move.goesOn = true := by
          cases move <;> first | rfl | exact absurd (.inl rfl) closes | exact absurd (.inr rfl) closes
        rw [change.stopped goesOn]
        exact ⟨.inl, fun either => either.elim (fun same => same) fun both => absurd both.1 closes⟩
    · have never : ¬ start.Asked moves _ := kept.not_asked (Nat.le_refl (start.run moves).nextConnection)
      refine ⟨Bool.false_ne_true.elim, ?_⟩
      rintro (asked | ⟨closing | closing, -⟩)
      · exact absurd asked never
      · cases closing
      · cases closing

theorem over_run (found : s.connection? id = some c) (past : c.stage.phase = .disconnected)
    (moves : List Move) :
    ∃ c', (s.run moves).connection? id = some c' ∧ c'.stage.phase = .disconnected := by
  induction moves generalizing s c with
  | nil => exact ⟨c, found, past⟩
  | cons move moves ih =>
    obtain ⟨c', found', change⟩ := connection?_step found move
    have past' : c'.stage.phase = .disconnected := by
      rcases change.stage_eq with same | ⟨own, -, moved⟩
      · rw [same, past]
      · exact moved.over past
    exact ih found' past'

/-- A connection that is connecting or connected is the current one. -/
theorem Kept.current_of_phase (kept : s.Kept) (found : s.connection? id = some c)
    (alive : c.stage.phase ≠ .disconnected) : s.current = some id ∧ s.phase = c.stage.phase := by
  have last : id + 1 = s.nextConnection := by
    by_contra earlier
    exact alive (kept.phased.earlier id c found earlier)
  have phase := kept.phased.last id c found last
  refine ⟨?_, phase⟩
  obtain ⟨current, pointed⟩ := Option.ne_none_iff_exists'.mp (kept.pointed.there (phase ▸ alive))
  have same := kept.pointed.last current pointed
  rw [pointed, Option.some.injEq]
  omega

theorem Kept.asked_iff {start : Subscriber} (kept : start.Kept) {moves : List Move}
    (found : (start.run moves).connection? id = some c) (alive : c.stage.phase ≠ .disconnected) :
    start.Asked moves id ↔ ∃ earlier closing later c₀, moves = earlier ++ closing :: later ∧
      (closing = .close ∨ closing = .drop) ∧ (start.run earlier).connection? id = some c₀ ∧
      c₀.stage.phase ≠ .disconnected ∧ (start.run earlier).phase = c₀.stage.phase := by
  constructor
  · rintro ⟨earlier, closing, later, rfl, closes, pointed⟩
    have keeps := kept.run earlier
    have last := keeps.pointed.last id pointed
    have inside : ¬ (start.run earlier).nextConnection ≤ id := by omega
    obtain ⟨c₀, there⟩ := Option.ne_none_iff_exists'.mp
      (mt keeps.numbered.connection?_eq_none_iff.mp inside)
    refine ⟨earlier, closing, later, c₀, rfl, closes, there, fun past => ?_,
      keeps.phased.last id c₀ there last⟩
    -- A connection that had been over then would be over now.
    obtain ⟨c', found', past'⟩ := over_run there past (closing :: later)
    rw [← run_append, found] at found'
    obtain rfl := Option.some.inj found'
    exact alive past'
  · rintro ⟨earlier, closing, later, c₀, rfl, closes, there, alive₀, -⟩
    exact ⟨earlier, closing, later, rfl, closes, ((kept.run earlier).current_of_phase there alive₀).1⟩

/-! ### Why connections end -/

end Subscriber

/-- What brings a connection to its end. -/
inductive Connection.Ending (digest : String) (c : Connection) : Subscriber.ConnectionMove → Prop
  | failed {move e} (fails : c.Fails digest move e) : Ending digest c move
  /-- There is no further frame, or none that can be read. -/
  | read (last : ∀ body, c.frame.1 ≠ .ok (some body)) : Ending digest c .readFrame
  | broken {cause} : Ending digest c (.readFails cause)
  | stopped (asked : c.stopped = true) : Ending digest c .stop

namespace Subscriber

variable {s : Subscriber} {c : Connection} {id : Nat}

theorem ending_of_step {move : Move} {c' : Connection} (found : s.connection? id = some c)
    (lives : c.stage.lives = true) (found' : (s.step move).connection? id = some c')
    (ends : c'.stage.lives = false) :
    ∃ own, move = .connection id own ∧ c.Ending s.type.digest own := by
  obtain ⟨c'', same, change⟩ := connection?_step found move
  obtain rfl := Option.some.inj (found'.symm.trans same)
  have differs : c'.stage ≠ c.stage := by
    intro still
    rw [still, lives] at ends
    cases ends
  rcases change.stage_eq with still | ⟨own, rfl, moved⟩
  · exact absurd still differs
  · obtain rfl := id_of_connection? found
    refine ⟨own, rfl, ?_⟩
    by_cases connecting : c.stage.phase = .connecting
    · rcases s.connecting_cases connecting own with ⟨e, fails, -⟩ | ⟨change, _, keeps, onward, -, eq⟩
      · exact .failed fails
      · have there : (s.step (.connection c.id own)).connection? c.id = some (change c) := by
          simp only [step, found, eq]
          exact (connection?_changeConnection keeps c.id).trans (by rw [if_pos rfl, found]; rfl)
        obtain rfl := Option.some.inj (found'.symm.trans there)
        rw [onward] at ends
        cases ends
    · cases moved with
      | rests => exact absurd rfl differs
      | dials stage => rw [stage] at connecting; exact absurd rfl connecting
      | unreached stage => rw [stage] at connecting; exact absurd rfl connecting
      | requests stage => rw [stage] at connecting; exact absurd rfl connecting
      | requested stage => rw [stage] at connecting; exact absurd rfl connecting
      | accepts stage => rw [stage] at connecting; exact absurd rfl connecting
      | refuses stage => rw [stage] at connecting; exact absurd rfl connecting
      | breaks stage =>
        rcases stage with stage | ⟨left, stage⟩ <;> rw [stage] at connecting <;>
          exact absurd rfl connecting
      | connects => cases ends
      | delivers => cases ends
      | reads => cases ends
      | runsOut _ _ read => exact .read fun body other => by cases read.symm.trans other
      | misreads _ _ read => exact .read fun body other => by cases read.symm.trans other
      | stops _ asked => exact .stopped asked
      | fails => exact .broken
      | releases stage => rw [stage] at lives; cases lives
      | unhooks stage => rw [stage] at lives; cases lives
      | finishes stage => rw [stage] at lives; cases lives

/-! ### Connecting again and again -/

/-- How a subscriber connects again after these moves. -/
structure Reconnects (start : Subscriber) (moves : List Move) (s : Subscriber) : Prop where
  /-- The subscriber is disconnected exactly if no connection is connecting or connected. -/
  phase : s.phase = .disconnected ↔
    ∀ id c, s.connection? id = some c → c.stage.phase = .disconnected
  connects : s.phase = .disconnected →
    s.beginConnect = (.ok s.nextConnection, { s with
      phase := .connecting
      connections := s.connections ++ [{ id := s.nextConnection }]
      nextConnection := s.nextConnection + 1
      current := some s.nextConnection })
  refuses : s.phase ≠ .disconnected → s.beginConnect = (.error (.alreadyConnected start.topic), s)
  /-- An attempt tells nothing and leaves the hook alone. -/
  quiet : ∀ id c move, s.connection? id = some c → c.stage.phase = .connecting →
    (s.step (.connection id move)).events = s.events ∧
      (s.step (.connection id move)).hook = s.hook ∧ (s.step (.connection id move)).ran = s.ran
  fails : ∀ id c move e, s.connection? id = some c → c.Fails start.type.digest move e →
    (s.step (.connection id move)).phase = .disconnected ∧
      (s.step (.connection id move)).current = none ∧
      (s.step (.connection id move)).connection? id =
        some { c with stage := .done, result := some (.error e) }
  failed : ∀ id c e, s.connection? id = some c → c.result = some (.error e) →
    c.stage = .done ∧ Connection.toldBy id (start.toldIn moves) = []
  /-- A connection that is over might as well never have been begun. -/
  forgets : ∀ id c, s.connection? id = some c → c.stage = .done → ∀ later,
    (s.run later).without id = (s.without id).run (later.filterMap (Move.without id)) ∧
      s.heardIn later = (s.without id).heardIn (later.filterMap (Move.without id))
  ends : ∀ id c move c', s.connection? id = some c → c.stage.lives = true →
    (s.step move).connection? id = some c' → c'.stage.lives = false →
      ∃ own, move = .connection id own ∧ c.Ending start.type.digest own
  /-- A connection is stopped only by closing the subscriber while it is connecting or connected. -/
  stops : ∀ id c, s.connection? id = some c → c.stage.phase ≠ .disconnected →
    (c.stopped = true ↔ ∃ earlier closing later c₀, moves = earlier ++ closing :: later ∧
      (closing = .close ∨ closing = .drop) ∧ (start.run earlier).connection? id = some c₀ ∧
      c₀.stage.phase ≠ .disconnected ∧ (start.run earlier).phase = c₀.stage.phase)
  /-- A connection that was asked to stop can do so whenever it reads. -/
  yields : ∀ id c, s.connection? id = some c → c.stage = .reading → c.stopped = true →
    (s.step (.connection id .stop)).connection? id = some { c with stage := .ended }

theorem step_stop (found : s.connection? id = some c) (stage : c.stage = .reading)
    (asked : c.stopped = true) :
    (s.step (.connection id .stop)).connection? id = some { c with stage := .ended } := by
  obtain rfl := id_of_connection? found
  have stops : s.step (.connection c.id .stop) = s.enter c.id .ended := by
    simp only [step, found, connectionStep, stage, asked, if_true]
  rw [stops, enter, connection?_changeConnection (by exact fun _ => rfl), if_pos rfl, found,
    Option.map_some]

theorem step_quiet (found : s.connection? id = some c) (connecting : c.stage.phase = .connecting)
    (move : ConnectionMove) :
    (s.step (.connection id move)).events = s.events ∧
      (s.step (.connection id move)).hook = s.hook ∧ (s.step (.connection id move)).ran = s.ran := by
  simp only [step, found]
  rcases s.connecting_cases connecting move with ⟨e, -, failed⟩ | ⟨change, phase, -, -, -, eq⟩
  · rw [failed]
    exact ⟨rfl, rfl, rfl⟩
  · rw [eq]
    exact ⟨rfl, rfl, rfl⟩

theorem Kept.phase_iff (kept : s.Kept) : s.phase = .disconnected ↔
    ∀ id c, s.connection? id = some c → c.stage.phase = .disconnected := by
  constructor
  · intro free id c found
    by_contra alive
    exact alive ((kept.current_of_phase found alive).2.symm.trans free)
  · intro past
    by_contra taken
    obtain ⟨id, pointed⟩ := Option.ne_none_iff_exists'.mp (kept.pointed.there taken)
    have last := kept.pointed.last id pointed
    have inside : ¬ s.nextConnection ≤ id := by omega
    obtain ⟨c, found⟩ := Option.ne_none_iff_exists'.mp
      (mt kept.numbered.connection?_eq_none_iff.mp inside)
    exact taken ((kept.phased.last id c found last).trans (past id c found))

/-- After any moves a subscriber connects if no connection is connecting or connected, and otherwise
refuses to and stays as it is. An attempt that fails leaves nothing behind, and closing reaches only the
connection that is connecting or connected then, which can stop as soon as it reads. -/
theorem reconnects (callerId topic : String) (type : MessageType) (settings : SubscriberSettings)
    (moves : List Move) :
    (new callerId topic type settings).Reconnects moves
      ((new callerId topic type settings).run moves) := by
  have start := Kept.new callerId topic type settings
  have kept := start.run moves
  obtain ⟨-, sameTopic, sameType, -⟩ := (new callerId topic type settings).run_alike moves
  refine ⟨kept.phase_iff, fun free => ?_, fun taken => ?_, fun id c move found connecting =>
    step_quiet found connecting move, fun id c move e found fails => ?_, fun id c e found failed => ?_,
    fun id c found past later => ⟨run_without kept.numbered found past later,
      heardIn_without kept.numbered found past later⟩, fun id c move c' found lives found' ends => ?_,
    fun id c found alive => ?_, fun id c found stage asked => step_stop found stage asked⟩
  · rw [beginConnect, free]
  · cases phase : ((new callerId topic type settings).run moves).phase with
    | disconnected => exact absurd phase taken
    | _ => rw [beginConnect, phase, sameTopic]
  · rw [← sameType] at fails
    rw [step_of_fails found fails]
    exact ⟨rfl, rfl, connection?_failConnect found e⟩
  · have account := account_run callerId topic type settings moves found
    cases stage : c.stage with
    | done =>
      rw [Connection.Account, stage] at account
      rcases account with ⟨_, -, silent⟩ | ⟨-, _, _, ⟨_, _, _, -, -, result⟩, -⟩
      · exact ⟨rfl, silent⟩
      · rw [failed] at result
        cases result
    | _ => simp [Connection.Account, Connection.Over, stage, failed] at account
  · have ending := ending_of_step found lives found' ends
    rwa [sameType] at ending
  · rw [start.stopped_iff rfl moves found]
    exact start.asked_iff found alive

/-- Neither closing before the first attempt nor after one that failed reaches the next. -/
example :
    let s := cramped.run [.close, .connect, .connection 0 .dialTimeout, .close, .connect]
    s.phase = .connecting ∧ (s.connection? 1).map (·.stopped) = some false := by
  decide

end Subscriber

end TopicWire
