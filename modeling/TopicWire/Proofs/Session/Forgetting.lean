import TopicWire.Proofs.Session.Connection

/-!
# Connections that leave no trace

A subscriber with a connection that is over goes on as if that connection had never been begun. Leaving
it out, with all later connections numbered one less, commutes with every run
(`Subscriber.run_without`), and the same events are received (`Subscriber.heardIn_without`).
-/

namespace TopicWire

/-- The number of a connection when connection `n` is left out. -/
def closeGap (n id : Nat) : Nat :=
  if n < id then id - 1 else id

theorem closeGap_inj {n id other : Nat} (here : id ≠ n) (there : other ≠ n) :
    closeGap n id = closeGap n other ↔ id = other := by
  unfold closeGap
  split <;> split <;> omega

def Connection.renumbered (n : Nat) (c : Connection) : Connection :=
  { c with id := closeGap n c.id }

namespace Subscriber

/-- The subscriber that has never begun connection `n`. -/
def without (s : Subscriber) (n : Nat) : Subscriber :=
  { s with
    connections := (s.connections.filter (·.id ≠ n)).map (·.renumbered n)
    nextConnection := s.nextConnection - 1
    current := (s.current.filter (· ≠ n)).map (closeGap n) }

/-- What a move is for a subscriber that has never begun connection `n`. -/
def Move.without (n : Nat) : Move → Option Move
  | .arrive id bytes => if id = n then none else some (.arrive (closeGap n id) bytes)
  | .hangUp id => if id = n then none else some (.hangUp (closeGap n id))
  | .connection id move => if id = n then none else some (.connection (closeGap n id) move)
  | move => some move

variable {s : Subscriber} {c : Connection} {n id : Nat}

/-! ### Finding and changing the other connections -/

theorem connection?_without (other : id ≠ n) :
    (s.without n).connection? (closeGap n id) = (s.connection? id).map (·.renumbered n) := by
  simp only [connection?, without]
  induction s.connections with
  | nil => rfl
  | cons c cs ih =>
    by_cases left : c.id = n
    · have passed : (c.id == id) = false := beq_eq_false_iff_ne.mpr fun same => other (same ▸ left)
      rw [List.filter_cons_of_neg (by simpa using left), List.find?_cons_of_neg (by simp [passed]), ih]
    · rw [List.filter_cons_of_pos (by simpa using left), List.map_cons]
      have same : ((c.renumbered n).id == closeGap n id) = (c.id == id) := by
        rw [Bool.eq_iff_iff, beq_iff_eq, beq_iff_eq]
        exact closeGap_inj left other
      rw [List.find?_cons, List.find?_cons, same, ih]
      cases c.id == id <;> rfl

/-- The change of a connection does not heed its number. -/
def Unnumbered (change : Connection → Connection) : Prop :=
  ∀ (c : Connection) (id : Nat), change { c with id := id } = { change c with id := id }

theorem Unnumbered.id_eq {change : Connection → Connection} (blind : Unnumbered change)
    (c : Connection) : (change c).id = c.id := by
  have same : change c = { change c with id := c.id } := blind c c.id
  rw [same]

theorem changeConnection_without (change : Connection → Connection) (blind : Unnumbered change)
    (other : id ≠ n) :
    (s.changeConnection id change).without n = (s.without n).changeConnection (closeGap n id) change := by
  simp only [changeConnection, without, Subscriber.mk.injEq, true_and, and_true]
  induction s.connections with
  | nil => rfl
  | cons c cs ih =>
    have keeps : (if c.id = id then change c else c).id = c.id :=
      Numbering.number_mapAt blind.id_eq id c
    by_cases left : c.id = n
    · rw [List.map_cons, List.filter_cons_of_neg (by simpa [keeps] using left),
        List.filter_cons_of_neg (by simpa using left), ih]
    · have renumbered : (if c.id = id then change c else c).renumbered n =
          if (c.renumbered n).id = closeGap n id then change (c.renumbered n) else c.renumbered n := by
        have same : (c.renumbered n).id = closeGap n id ↔ c.id = id := closeGap_inj left other
        by_cases here : c.id = id
        · rw [if_pos here, if_pos (same.mpr here), Connection.renumbered, blind.id_eq]
          exact (blind c _).symm
        · rw [if_neg here, if_neg (mt same.mp here)]
      rw [List.map_cons, List.filter_cons_of_pos (by simpa [keeps] using left), List.map_cons, ih,
        List.filter_cons_of_pos (by simpa using left), List.map_cons, List.map_cons, renumbered]

theorem changeConnection_left {change : Connection → Connection} (blind : Unnumbered change) :
    (s.changeConnection n change).without n = s.without n := by
  simp only [changeConnection, without, Subscriber.mk.injEq, true_and, and_true]
  induction s.connections with
  | nil => rfl
  | cons c cs ih =>
    by_cases left : c.id = n
    · have keeps : (change c).id = n := (blind.id_eq c).trans left
      rw [List.map_cons, if_pos left, List.filter_cons_of_neg (by simpa using keeps),
        List.filter_cons_of_neg (by simpa using left), ih]
    · rw [List.map_cons, if_neg left, List.filter_cons_of_pos (by simpa using left), List.map_cons, ih,
        List.filter_cons_of_pos (by simpa using left), List.map_cons]

/-! ### The moves of the other connections -/

theorem enter_without (other : c.id ≠ n) (stage : ConnectionStage) :
    (s.enter c.id stage).without n = (s.without n).enter (c.renumbered n).id stage :=
  changeConnection_without _ (fun _ _ => rfl) other

theorem failConnect_without (other : c.id ≠ n) (e : SessionError) :
    (s.failConnect c.id e).without n = (s.without n).failConnect (c.renumbered n).id e := by
  have changed := changeConnection_without (s := s)
    (fun c => { c with stage := .done, result := some (.error e) }) (fun _ _ => rfl) other
  exact congrArg (fun t : Subscriber => { t with current := none, phase := .disconnected }) changed

theorem readHeader_without (other : c.id ≠ n) :
    (s.readHeader c).without n = (s.without n).readHeader (c.renumbered n) := by
  have same : (c.renumbered n).frame = c.frame := rfl
  simp only [readHeader, same]
  cases c.frame.1 >>= Frame.headerOf with
  | error e => exact failConnect_without other _
  | ok header =>
    cases agrees : header.agrees s.type.digest with
    | true =>
      have changed := changeConnection_without (s := s) (fun connection =>
        { connection with stage := .accepted header, inbox := c.frame.2 }) (fun _ _ => rfl) other
      simp only [without, agrees, if_true]
      exact congrArg (fun t : Subscriber => { t with phase := .connected }) changed
    | false =>
      simp only [agrees, without, Bool.false_eq_true, if_false]
      exact failConnect_without other _

theorem readFrame_without (other : c.id ≠ n) :
    (s.readFrame c).without n = (s.without n).readFrame (c.renumbered n) := by
  have same : (c.renumbered n).frame = c.frame := rfl
  simp only [readFrame, same]
  cases c.frame with
  | mk read rest =>
    cases read with
    | error e =>
      have changed := changeConnection_without (s := s) (fun c =>
        { c with stage := .ended, inbox := rest }) (fun _ _ => rfl) other
      exact congrArg (fun t : Subscriber => { t with events := s.events.offer (.failed e) }) changed
    | ok read =>
      cases read with
      | none => exact enter_without other _
      | some body => exact changeConnection_without _ (fun _ _ => rfl) other

theorem tell_without (other : c.id ≠ n) :
    (s.tell c).without n = (s.without n).tell (c.renumbered n) := by
  have same : (c.renumbered n).stage = c.stage := rfl
  have events : (s.without n).events = s.events := rfl
  simp only [tell, same, events]
  split
  · cases c.stage with
    | accepted header =>
      have changed := changeConnection_without (s := s) (fun c =>
        { c with stage := .reading, result := some (.ok header) }) (fun _ _ => rfl) other
      exact congrArg (fun t : Subscriber => { t with events := s.events.offer (.connected header) })
        changed
    | delivering event =>
      exact congrArg (fun t : Subscriber => { t with events := s.events.offer event })
        (enter_without other .reading)
    | _ => rfl
  · rfl

theorem leave_without (other : c.id ≠ n) :
    (s.leave c).without n = (s.without n).leave (c.renumbered n) := by
  have same : (c.renumbered n).stage = c.stage := rfl
  simp only [leave, same]
  cases c.stage with
  | ended =>
    exact congrArg (fun t : Subscriber => { t with phase := .disconnected })
      (enter_without other .released)
  | released => exact congrArg runHook (enter_without other .unhooked)
  | unhooked =>
    exact congrArg (fun t : Subscriber => { t with events := s.events.offer .disconnected })
      (enter_without other .done)
  | _ => rfl

theorem connectionStep_without (other : c.id ≠ n) (move : ConnectionMove) :
    (s.connectionStep c move).without n = (s.without n).connectionStep (c.renumbered n) move := by
  have stage : (c.renumbered n).stage = c.stage := rfl
  have ready : (c.renumbered n).frameReady = c.frameReady := rfl
  have stopped : (c.renumbered n).stopped = c.stopped := rfl
  cases move with
  | dialled outcome =>
    simp only [connectionStep, stage]
    cases c.stage with
    | dialling =>
      cases outcome with
      | connected => exact enter_without other _
      | failed cause => exact failConnect_without other _
    | _ => rfl
  | dialTimeout =>
    simp only [connectionStep, stage]
    cases c.stage with
    | dialling => exact failConnect_without other _
    | _ => rfl
  | write count =>
    simp only [connectionStep, stage]
    cases c.stage with
    | requesting left => exact changeConnection_without _ (fun _ _ => rfl) other
    | _ => rfl
  | readHeader =>
    simp only [connectionStep, stage, ready]
    cases c.stage with
    | handshake => rw [apply_ite (without · n), readHeader_without other]
    | _ => rfl
  | timeout =>
    simp only [connectionStep, stage]
    cases c.stage with
    | handshake => exact failConnect_without other _
    | _ => rfl
  | tell => exact tell_without other
  | readFrame =>
    simp only [connectionStep, stage, ready]
    cases c.stage with
    | reading => rw [apply_ite (without · n), readFrame_without other]
    | _ => rfl
  | stop =>
    simp only [connectionStep, stage, stopped]
    cases c.stage with
    | reading => rw [apply_ite (without · n), enter_without other]
    | _ => rfl
  | readFails cause =>
    simp only [connectionStep, stage]
    cases c.stage with
    | handshake => exact failConnect_without other _
    | reading =>
      exact congrArg (fun t : Subscriber =>
        { t with events := s.events.offer (.failed (.failed cause)) }) (enter_without other .ended)
    | _ => rfl
  | writeFails cause =>
    simp only [connectionStep, stage]
    cases c.stage with
    | requesting left => exact failConnect_without other _
    | _ => rfl
  | leave => exact leave_without other

theorem connectionStep_done (past : c.stage = .done) (move : ConnectionMove) :
    s.connectionStep c move = s := by
  cases move <;> simp [connectionStep, tell, leave, past]

/-! ### Any move -/

theorem close_without : s.close.without n = (s.without n).close := by
  cases current : s.current with
  | none => simp [close, without, current]
  | some id =>
    by_cases left : id = n
    · subst left
      have none : (s.without id).current = none := by simp [without, current]
      simp only [close, current, none]
      exact changeConnection_left fun _ _ => rfl
    · have kept : (s.without n).current = some (closeGap n id) := by
        simp only [without, current, Option.filter_some, ne_eq, left, not_false_eq_true, decide_true,
          if_true, Option.map_some]
      simp only [close, current, kept]
      exact changeConnection_without _ (fun _ _ => rfl) left

theorem drop_without : s.drop.without n = (s.without n).drop := by
  have phase : (s.without n).close.phase = s.close.phase := by
    rw [← close_without]
    rfl
  simp only [drop, phase]
  cases s.close.phase with
  | disconnected => exact congrArg runHook close_without
  | _ => exact close_without

theorem connect_without (begun : n < s.nextConnection) :
    (s.step .connect).without n = (s.without n).step .connect := by
  by_cases free : s.phase = .disconnected
  · have last : s.nextConnection ≠ n := by omega
    have gap : closeGap n s.nextConnection = s.nextConnection - 1 := if_pos begun
    have next : s.nextConnection + 1 - 1 = s.nextConnection - 1 + 1 := by omega
    rw [step_connect free, step_connect (s := s.without n) free]
    simp only [without, List.filter_append, List.filter_cons, List.filter_nil, last, ne_eq,
      not_false_eq_true, decide_true, if_true, List.map_append, List.map_cons, List.map_nil,
      Option.filter_some, Option.map_some, Connection.renumbered, gap, next]
  · rw [step_connect_of_ne free, step_connect_of_ne (s := s.without n) free]

/-- A move leaves the connection out as it was left out before. -/
theorem step_without (numbered : s.Numbered) (found : s.connection? n = some c)
    (past : c.stage = .done) (move : Move) :
    (s.step move).without n = (s.without n).run (move.without n).toList := by
  cases move with
  | connect =>
    have begun : ¬ s.nextConnection ≤ n := by
      rw [← numbered.connection?_eq_none_iff, found]
      exact Option.some_ne_none c
    exact connect_without (by omega)
  | close => exact close_without
  | onClose hook => rfl
  | drop => exact drop_without
  | arrive id bytes =>
    by_cases left : id = n
    · subst left
      rw [Move.without, if_pos rfl]
      exact changeConnection_left fun _ _ => rfl
    · rw [Move.without, if_neg left]
      exact changeConnection_without _ (fun _ _ => rfl) left
  | hangUp id =>
    by_cases left : id = n
    · subst left
      rw [Move.without, if_pos rfl]
      exact changeConnection_left fun _ _ => rfl
    · rw [Move.without, if_neg left]
      exact changeConnection_without _ (fun _ _ => rfl) left
  | connection id move =>
    by_cases left : id = n
    · subst left
      rw [Move.without, if_pos rfl, step, found]
      exact congrArg (without · id) (connectionStep_done past move)
    · have there := connection?_without (s := s) left
      rw [Move.without, if_neg left]
      change _ = (s.without n).step (.connection (closeGap n id) move)
      rw [step, step, there]
      cases acting : s.connection? id with
      | none => rfl
      | some other =>
        have here : other.id ≠ n := id_of_connection? acting ▸ left
        exact connectionStep_without here move
  | receive => rfl

theorem done_step (found : s.connection? n = some c) (past : c.stage = .done) (move : Move) :
    ∃ c', (s.step move).connection? n = some c' ∧ c'.stage = .done := by
  obtain ⟨c', found', change⟩ := connection?_step found move
  refine ⟨c', found', ?_⟩
  rcases change.stage_eq with same | ⟨own, -, moved⟩
  · exact same.trans past
  · cases moved <;> simp_all

/-- A subscriber goes on as if a connection that is over had never been begun. -/
theorem run_without (numbered : s.Numbered) (found : s.connection? n = some c)
    (past : c.stage = .done) (moves : List Move) :
    (s.run moves).without n = (s.without n).run (moves.filterMap (Move.without n)) := by
  induction moves generalizing s c with
  | nil => rfl
  | cons move moves ih =>
    obtain ⟨c', found', past'⟩ := done_step found past move
    have next := ih (numbered.step move) found' past'
    have first := step_without numbered found past move
    change ((s.step move).run moves).without n = _
    rw [next, first, ← run_append]
    cases kept : move.without n <;> simp [kept]

theorem heardIn_without (numbered : s.Numbered) (found : s.connection? n = some c)
    (past : c.stage = .done) (moves : List Move) :
    s.heardIn moves = (s.without n).heardIn (moves.filterMap (Move.without n)) := by
  induction moves generalizing s c with
  | nil => rfl
  | cons move moves ih =>
    obtain ⟨c', found', past'⟩ := done_step found past move
    have next := ih (numbered.step move) found' past'
    have first := step_without numbered found past move
    cases kept : move.without n with
    | none =>
      have deaf : s.hears move = [] := by
        cases move <;> first | rfl | cases kept
      rw [kept] at first
      rw [List.filterMap_cons_none kept, heardIn, history, deaf, List.nil_append]
      exact next.trans (congrArg (Subscriber.heardIn · _) first)
    | some same =>
      have hears : s.hears move = (s.without n).hears same := by
        cases move <;> simp only [Move.without] at kept <;> (try split at kept) <;> cases kept <;> rfl
      rw [kept] at first
      rw [List.filterMap_cons_some kept, heardIn, heardIn, history, history, hears]
      exact congrArg (_ ++ ·) (next.trans (congrArg (Subscriber.heardIn · _) first))

end Subscriber

end TopicWire
