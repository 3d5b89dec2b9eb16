import TopicWire.Proofs.Session.Sessions

/-!
# Registering several hooks

There is one place for a hook, and registering takes it. So a hook runs, once, with the next end of its
session unless another hook is registered before that; then it never runs (`HookSign.Settled`). Nor does
the hook of a subscriber that is given up while it connects (`Subscriber.step_drop`). This is so for every
publisher and subscriber, and for those that a node has made and given a hook of its own:
the session of one whose holder registers a hook too stays among the sessions of the node for ever
(`CloseHook.run_unless_replaced`).
-/

namespace TopicWire

/-- What matters to the hooks of a session. -/
inductive HookSign where
  | registers (hook : CloseHook)
  /-- The session is over: with this connection of a subscriber, or because its holder ends it. -/
  | ends (connection : Option Nat)
deriving DecidableEq

namespace HookSign

variable {signs more : List HookSign} {hook : CloseHook} {left left' : Option CloseHook}
  {ran ran' : List CloseHook}

def hook? : HookSign → Option CloseHook
  | .registers hook => some hook
  | .ends _ => none

def registered (signs : List HookSign) : List CloseHook :=
  signs.filterMap hook?

/-- The next sign is an end. -/
def nextEnds : List HookSign → Bool
  | .ends _ :: _ => true
  | _ => false

/-- The hooks whose registration is followed by an end. -/
def due : List HookSign → List CloseHook
  | .registers hook :: later => if nextEnds later then hook :: due later else due later
  | .ends _ :: later => due later
  | [] => []

/-- The hook registered after the last end. -/
def waiting (signs : List HookSign) : Option CloseHook :=
  signs.getLast?.bind hook?

/-- No registration is followed by another one, or by nothing. -/
def Answered (signs : List HookSign) : Prop :=
  ∀ before hook later, signs = before ++ .registers hook :: later → nextEnds later = true

theorem waiting_cons_cons (sign next : HookSign) (later : List HookSign) :
    waiting (sign :: next :: later) = waiting (next :: later) := by
  rw [waiting, List.getLast?_cons_cons, waiting]

theorem due_registers (before later : List HookSign) (hook : CloseHook) :
    due (before ++ .registers hook :: later) = due before ++ due (.registers hook :: later) := by
  induction before with
  | nil => rfl
  | cons sign before ih =>
    cases sign with
    | ends connection => exact ih
    | registers first =>
      have next : nextEnds (before ++ .registers hook :: later) = nextEnds before := by
        rcases before with - | ⟨⟨⟩ | ⟨⟩, before⟩ <;> rfl
      have all : due (.registers first :: before) =
          if nextEnds before then first :: due before else due before := rfl
      rw [List.cons_append, due, next, ih, all]
      split <;> rfl

theorem due_ends (before later : List HookSign) (connection : Option Nat) :
    due (before ++ .ends connection :: later) = due before ++ (waiting before).toList ++ due later := by
  induction before with
  | nil => rfl
  | cons sign before ih =>
    cases before with
    | nil => cases sign <;> rfl
    | cons next before =>
      rw [waiting_cons_cons]
      cases sign with
      | ends _ => exact ih
      | registers first =>
        have same : nextEnds ((next :: before) ++ .ends connection :: later) = nextEnds (next :: before) := by
          cases next <;> rfl
        have all : due (.registers first :: next :: before) =
            if nextEnds (next :: before) then first :: due (next :: before) else due (next :: before) := rfl
        rw [List.cons_append, due, same, ih, all]
        split <;> rfl

theorem due_sublist (signs : List HookSign) : (due signs).Sublist (registered signs) := by
  induction signs with
  | nil => exact .slnil
  | cons sign later ih =>
    cases sign with
    | ends connection => exact ih
    | registers hook =>
      rw [due]
      split
      · exact ih.cons_cons hook
      · exact ih.cons hook

theorem answered_cons (sign : HookSign) (later : List HookSign) :
    Answered (sign :: later) ↔ (∀ hook, sign = .registers hook → nextEnds later = true) ∧ Answered later := by
  constructor
  · intro answered
    refine ⟨fun hook same => answered [] hook later (by rw [same]; rfl), fun before hook rest same => ?_⟩
    exact answered (sign :: before) hook rest (by rw [same]; rfl)
  · rintro ⟨first, answered⟩ before hook rest same
    cases before with
    | nil =>
      obtain ⟨rfl, rfl⟩ := List.cons_eq_cons.mp same
      exact first hook rfl
    | cons other before =>
      obtain ⟨-, same⟩ := List.cons_eq_cons.mp same
      exact answered before hook rest same

theorem due_eq_registered_iff (signs : List HookSign) : due signs = registered signs ↔ Answered signs := by
  induction signs with
  | nil => exact iff_of_true rfl fun before _ _ same => by cases before <;> cases same
  | cons sign later ih =>
    rw [answered_cons, ← ih]
    cases sign with
    | ends connection => exact ⟨fun all => ⟨fun _ => HookSign.noConfusion, all⟩, And.right⟩
    | registers hook =>
      have all : registered (.registers hook :: later) = hook :: registered later := rfl
      rw [due, all]
      cases next : nextEnds later with
      | true => simp
      | false =>
        -- The hook is lost, and there are too few that run.
        have few := (due_sublist later).length_le
        refine iff_of_false (fun same => ?_) fun both => absurd (both.1 hook rfl) Bool.false_ne_true
        have same := congrArg List.length same
        simp only [Bool.false_eq_true, if_false, List.length_cons] at same
        omega

theorem mem_due_iff (fresh : .registers hook ∉ signs) :
    hook ∈ due (.registers hook :: signs) ↔ nextEnds signs = true := by
  have never : hook ∉ due signs := by
    intro there
    obtain ⟨sign, member, same⟩ := List.mem_filterMap.mp ((due_sublist signs).subset there)
    cases sign with
    | ends connection => cases same
    | registers other => exact fresh (Option.some.inj same ▸ member)
  rw [due]
  cases nextEnds signs with
  | true => exact iff_of_true List.mem_cons_self rfl
  | false => exact iff_of_false never Bool.false_ne_true

/-! ### What becomes of the hooks -/

/-- The hooks that have run and the one that waits, after these signs. -/
structure Settled (signs : List HookSign) (left : Option CloseHook) (ran : List CloseHook) : Prop where
  left_eq : left = waiting signs
  ran_eq : ran = due signs

/-- What a move does to the hooks, if it gives these signs. -/
inductive Effect (left : Option CloseHook) (ran : List CloseHook) :
    List HookSign → Option CloseHook → List CloseHook → Prop
  | rests : Effect left ran [] left ran
  | registers (hook : CloseHook) : Effect left ran [.registers hook] (some hook) ran
  | ends (connection : Option Nat) : Effect left ran [.ends connection] none (ran ++ left.toList)

theorem settled_of_waits (waits : hook.Waits left ran) : Settled [.registers hook] left ran :=
  ⟨waits.1, waits.2⟩

theorem Settled.move (settled : Settled signs left ran) (effect : Effect left ran more left' ran') :
    Settled (signs ++ more) left' ran' := by
  obtain ⟨rfl, rfl⟩ := settled
  cases effect with
  | rests => exact ⟨by rw [List.append_nil], by rw [List.append_nil]⟩
  | registers hook =>
    refine ⟨?_, ?_⟩
    · rw [waiting, List.getLast?_concat]
      rfl
    · rw [due_registers]
      exact (List.append_nil _).symm
  | ends connection =>
    refine ⟨?_, ?_⟩
    · rw [waiting, List.getLast?_concat]
      rfl
    · rw [due_ends]
      exact (List.append_nil _).symm

/-- What becomes of every hook that was registered. -/
structure Fates (signs : List HookSign) (left : Option CloseHook) (ran : List CloseHook) : Prop where
  /-- Each registration has its hook run at most once, and nothing else runs. -/
  once : ran.Sublist (registered signs)
  /-- A hook runs with the end that comes next. -/
  ended : ∀ before hook connection later, signs = before ++ .registers hook :: .ends connection :: later →
    ran = due before ++ hook :: due later
  /-- A hook in whose place another is registered is lost. -/
  replaced : ∀ before hook other later, signs = before ++ .registers hook :: .registers other :: later →
    ran = due before ++ due (.registers other :: later)
  /-- A hook after which nothing has come still waits. -/
  waits : ∀ before hook, signs = before ++ [.registers hook] → left = some hook ∧ ran = due before
  idle : ∀ before connection, signs = before ++ [.ends connection] → left = none
  /-- All hooks have run exactly if none was replaced and none waits. -/
  all_iff : ran = registered signs ↔ Answered signs

theorem Settled.fates (settled : Settled signs left ran) : Fates signs left ran := by
  obtain ⟨rfl, rfl⟩ := settled
  refine ⟨due_sublist signs, ?_, ?_, ?_, ?_, due_eq_registered_iff signs⟩
  · rintro before hook connection later rfl
    rw [due_registers]
    rfl
  · rintro before hook other later rfl
    rw [due_registers]
    rfl
  · rintro before hook rfl
    rw [due_registers, waiting, List.getLast?_concat]
    exact ⟨rfl, List.append_nil _⟩
  · rintro before connection rfl
    rw [waiting, List.getLast?_concat]
    rfl

end HookSign

/-! ### Publishers -/

namespace Publisher

variable {p : Publisher}

/-- What a move of a publisher means to its hooks. Giving up a publisher shuts it down. -/
def Move.signs : Move → List HookSign
  | .onClose hook => [.registers hook]
  | .shutdown => [.ends none]
  | _ => []

theorem step_effect (p : Publisher) (move : Move) :
    HookSign.Effect p.hook p.ran move.signs (p.step move).hook (p.step move).ran := by
  by_cases shutdown : move = .shutdown
  · subst shutdown
    exact .ends none
  · by_cases replace : ∃ hook, move = .onClose hook
    · obtain ⟨hook, rfl⟩ := replace
      exact .registers hook
    · obtain ⟨left, ran⟩ := p.step_hook shutdown fun hook same => replace ⟨hook, same⟩
      have none : move.signs = [] := by
        cases move <;> first | rfl | exact absurd rfl shutdown | exact absurd ⟨_, rfl⟩ replace
      rw [left, ran, none]
      exact .rests

theorem onClose_of_signs {hook : CloseHook} {moves : List Move}
    (there : .registers hook ∈ moves.flatMap Move.signs) : .onClose hook ∈ moves := by
  obtain ⟨move, made, sign⟩ := List.mem_flatMap.mp there
  cases move with
  | onClose other =>
    obtain rfl := HookSign.registers.inj (List.mem_singleton.mp sign)
    exact made
  | shutdown => cases List.mem_singleton.mp sign
  | _ => cases sign

theorem settled_run {signs : List HookSign} (settled : HookSign.Settled signs p.hook p.ran)
    (moves : List Move) :
    HookSign.Settled (signs ++ moves.flatMap Move.signs) (p.run moves).hook (p.run moves).ran := by
  refine run_induction (motive := fun moves (p : Publisher) =>
    HookSign.Settled (signs ++ moves.flatMap Move.signs) p.hook p.ran) ?_ (fun moves move held => ?_) moves
  · rwa [List.flatMap_nil, List.append_nil]
  · rw [List.flatMap_append, List.flatMap_singleton, ← List.append_assoc]
    exact held.move (step_effect _ move)

end Publisher

/-! ### Subscribers -/

/-- A connection that was open and has run the hook. -/
def Connection.hasEnded (c : Connection) : Bool :=
  match c.stage, c.result with
  | .unhooked, _ => true
  | .done, some (.ok _) => true
  | _, _ => false

namespace Subscriber

variable {s : Subscriber} {c : Connection} {id : Nat}

/-- What a move of a subscriber means to its hooks. A connection that is over ends it, and so does giving
it up while it is disconnected. Who gives it up while it connects has cancelled the call: that is no end,
and the connection comes to none, so the hook never runs. -/
def signs (s : Subscriber) : Move → List HookSign
  | .onClose hook => [.registers hook]
  | .drop => match s.phase with
    | .disconnected => [.ends none]
    | _ => []
  | .connection id .leave => match (s.connection? id).map Connection.stage with
    | some .released => [.ends (some id)]
    | _ => []
  | _ => []

def signsIn (s : Subscriber) (moves : List Move) : List HookSign :=
  history step signs s moves

theorem signsIn_snoc (s : Subscriber) (moves : List Move) (move : Move) :
    s.signsIn (moves ++ [move]) = s.signsIn moves ++ (s.run moves).signs move :=
  history_snoc s moves move

theorem step_drop (s : Subscriber) :
    (s.phase = .disconnected → (s.step .drop).hook = none ∧ (s.step .drop).ran = s.ran ++ s.hook.toList) ∧
      (s.phase ≠ .disconnected → (s.step .drop).hook = s.hook ∧ (s.step .drop).ran = s.ran) := by
  obtain ⟨left, ran⟩ := s.close_hook
  have closed : (s.step .close).phase = s.phase :=
    step_phase Move.noConfusion fun _ _ => Move.noConfusion
  change s.close.phase = s.phase at closed
  have step : s.step .drop = match s.close.phase with
    | .disconnected => s.close.runHook
    | _ => s.close := rfl
  rw [closed] at step
  cases phase : s.phase with
  | disconnected =>
    rw [step, phase, ← left, ← ran]
    exact ⟨fun _ => ⟨rfl, rfl⟩, fun other => absurd rfl other⟩
  | _ =>
    rw [step, phase]
    exact ⟨SubscriberPhase.noConfusion, fun _ => ⟨left, ran⟩⟩

theorem connection?_enter (found : s.connection? id = some c) (stage : ConnectionStage) :
    (s.enter id stage).connection? id = some { c with stage := stage } := by
  rw [enter, connection?_changeConnection (by exact fun _ => rfl), if_pos rfl, found, Option.map_some]

theorem step_released (found : s.connection? id = some c) (stage : c.stage = .released) :
    s.signs (.connection id .leave) = [.ends (some id)] ∧
      s.step (.connection id .leave) = (s.enter id .unhooked).runHook := by
  have same := id_of_connection? found
  simp only [signs, step, found, Option.map_some, stage, connectionStep, leave, same, and_self]

theorem signs_connection (found : s.connection? id = some c) {move : ConnectionMove}
    (other : ¬(c.stage = .released ∧ move = .leave)) : s.signs (.connection id move) = [] := by
  cases move with
  | leave =>
    cases stage : c.stage with
    | released => exact absurd ⟨stage, rfl⟩ other
    | _ => simp only [signs, found, Option.map_some, stage]
  | _ => rfl

theorem step_effect (s : Subscriber) (move : Move) :
    HookSign.Effect s.hook s.ran (s.signs move) (s.step move).hook (s.step move).ran := by
  have rests {move : Move} (none : s.signs move = []) (left : (s.step move).hook = s.hook)
      (ran : (s.step move).ran = s.ran) :
      HookSign.Effect s.hook s.ran (s.signs move) (s.step move).hook (s.step move).ran := by
    rw [none, left, ran]
    exact .rests
  cases move with
  | onClose hook => exact .registers hook
  | connect =>
    refine rests rfl ?_ ?_ <;> (simp only [step, beginConnect]; split <;> rfl)
  | close => exact rests rfl s.close_hook.1 s.close_hook.2
  | drop =>
    obtain ⟨ends, stays⟩ := s.step_drop
    cases phase : s.phase with
    | disconnected =>
      obtain ⟨left, ran⟩ := ends phase
      rw [signs, phase, left, ran]
      exact .ends none
    | _ =>
      obtain ⟨left, ran⟩ := stays (by rw [phase]; exact SubscriberPhase.noConfusion)
      exact rests (by rw [signs, phase]) left ran
  | connection id move =>
    cases found : s.connection? id with
    | none =>
      have step := step_connection_none found move
      refine rests (by cases move <;> simp [signs, found]) ?_ ?_ <;> rw [step]
    | some c =>
      by_cases ends : c.stage = .released ∧ move = .leave
      · obtain ⟨stage, rfl⟩ := ends
        obtain ⟨sign, step⟩ := step_released found stage
        rw [sign, step]
        exact .ends (some id)
      · have same := (s.connectionStep_hook c move).resolve_right ends
        refine rests (signs_connection found ends) ?_ ?_ <;> simp only [step, found, same]
  | _ => exact rests rfl rfl rfl

theorem settled_run {signs : List HookSign} (settled : HookSign.Settled signs s.hook s.ran)
    (moves : List Move) :
    HookSign.Settled (signs ++ s.signsIn moves) (s.run moves).hook (s.run moves).ran := by
  refine run_induction (motive := fun moves (t : Subscriber) =>
    HookSign.Settled (signs ++ s.signsIn moves) t.hook t.ran) ?_ (fun moves move held => ?_) moves
  · rwa [signsIn, history, List.append_nil]
  · rw [signsIn_snoc, ← List.append_assoc]
    exact held.move (step_effect _ move)

theorem onClose_of_signsIn {hook : CloseHook} {moves : List Move} (there : .registers hook ∈ s.signsIn moves) :
    .onClose hook ∈ moves := by
  obtain ⟨t, move, made, sign⟩ := exists_of_mem_history there
  cases move with
  | onClose other =>
    obtain rfl := HookSign.registers.inj (List.mem_singleton.mp sign)
    exact made
  | connection id own =>
    cases own with
    | leave =>
      simp only [signs] at sign
      split at sign <;> simp at sign
    | _ => cases sign
  | drop =>
    simp only [signs] at sign
    split at sign <;> simp at sign
  | _ => cases sign

/-! ### The ends of connections -/

theorem ends_signs {move : Move} (there : .ends (some id) ∈ s.signs move) :
    ∃ c, move = .connection id .leave ∧ s.connection? id = some c ∧ c.stage = .released := by
  cases move with
  | connection acting own =>
    cases found : s.connection? acting with
    | none => cases own <;> simp [signs, found] at there
    | some c =>
      by_cases ends : c.stage = .released ∧ own = .leave
      · obtain ⟨stage, rfl⟩ := ends
        rw [(step_released found stage).1, List.mem_singleton] at there
        obtain rfl := Option.some.inj (HookSign.ends.inj there)
        exact ⟨c, rfl, found, stage⟩
      · rw [signs_connection found ends] at there
        cases there
  | drop =>
    simp only [signs] at there
    split at there <;> simp at there
  | onClose hook => simp [signs] at there
  | _ => cases there

theorem hasEnded_own {request : Bytes} {type : MessageType} {arrived : Bytes}
    {told : List (SubscriberEvent × Bool)} {c' : Connection} {move : ConnectionMove}
    (account : c.Account request type arrived told) (own : c.Own s move c')
    (other : ¬(c.stage = .released ∧ move = .leave)) : c'.hasEnded = c.hasEnded := by
  cases own with
  | rests => rfl
  | unhooks stage => exact absurd ⟨stage, rfl⟩ other
  | finishes stage =>
    rw [Connection.Account, stage] at account
    obtain ⟨⟨_, _, _, -, -, result⟩, -⟩ := account
    simp only [Connection.hasEnded, stage, result]
  | breaks stage => rcases stage with stage | ⟨left, stage⟩ <;> simp only [Connection.hasEnded, stage]
  | _ => simp only [Connection.hasEnded, *]

/-- A connection that was open ends the session once, when it is over. -/
theorem ends_once (callerId topic : String) (type : MessageType) (settings : SubscriberSettings)
    (moves : List Move) (id : Nat) :
    ((new callerId topic type settings).signsIn moves).count (.ends (some id)) =
      if (((new callerId topic type settings).run moves).connection? id).any Connection.hasEnded then 1
      else 0 := by
  generalize start_eq : new callerId topic type settings = start
  refine run_induction (motive := fun moves (s : Subscriber) =>
    (start.signsIn moves).count (.ends (some id)) =
      if (s.connection? id).any Connection.hasEnded then 1 else 0) ?_ (fun moves move held => ?_) moves
  · subst start_eq
    rfl
  · change _ = if ((start.run moves).connection? id).any _ then 1 else 0 at held
    change _ = if (((start.run moves).step move).connection? id).any _ then 1 else 0
    have numbered : (start.run moves).Numbered := start_eq ▸ (run_new callerId topic type settings moves).1
    rw [signsIn_snoc, List.count_append, held]
    by_cases now : .ends (some id) ∈ (start.run moves).signs move
    · obtain ⟨c, rfl, found, stage⟩ := ends_signs now
      obtain ⟨sign, step⟩ := step_released found stage
      have found' : ((start.run moves).step (.connection id .leave)).connection? id =
          some { c with stage := .unhooked } := by
        rw [step]
        exact connection?_enter found .unhooked
      rw [found, found', sign, List.count_singleton_self]
      simp only [Option.any_some, Connection.hasEnded, stage]
      rfl
    · rw [List.count_eq_zero.mpr now, Nat.add_zero]
      cases before : (start.run moves).connection? id with
      | none =>
        cases after : ((start.run moves).step move).connection? id with
        | none => rfl
        | some c' =>
          rcases connection?_of_step numbered after with ⟨c, found, -⟩ | ⟨-, -, -, rfl⟩
          · rw [before] at found
            cases found
          · rfl
      | some c =>
        obtain ⟨c', found', change⟩ := connection?_step before move
        have same : c'.hasEnded = c.hasEnded := by
          cases change with
          | own moved =>
            subst start_eq
            refine hasEnded_own (account_run callerId topic type settings moves before) moved ?_
            rintro ⟨stage, rfl⟩
            rw [id_of_connection? before, (step_released before stage).1] at now
            exact now List.mem_cons_self
          | _ => rfl
        rw [found', Option.any_some, Option.any_some, same]

end Subscriber

/-! ### Those that a node has made -/

namespace Node

variable {n : Node} {opened : List Opened} {o : Opened}

/-- What becomes of the open sessions of a node, whatever the holder of a publisher or subscriber does. The
hook that ends its session is the first one registered, so the session leaves those of the node with the
first end, unless another hook is registered before that: then it stays. -/
structure GivesHooks (n : Node) (opened : List Opened) : Prop where
  publisher : ∀ o ∈ opened, o.session.kind = .publisher → n.isOpen o = true →
    ∃ p, n.publishers[o.number]? = some p ∧
      ∀ moves : List Publisher.Move, .onClose (.endSession o.session.id) ∉ moves →
        let signs := moves.flatMap Publisher.Move.signs
        HookSign.Fates (.registers (.endSession o.session.id) :: signs) (p.run moves).hook (p.run moves).ran ∧
          (o.session ∈ (n.changePublisher o.number (·.run moves)).sessions.sessions ↔
            HookSign.nextEnds signs = false)
  subscriber : ∀ o ∈ opened, o.session.kind = .subscriber → n.isOpen o = true →
    ∃ s, n.subscribers[o.number]? = some s ∧
      ∀ moves : List Subscriber.Move, .onClose (.endSession o.session.id) ∉ moves →
        let signs := s.signsIn moves
        HookSign.Fates (.registers (.endSession o.session.id) :: signs) (s.run moves).hook (s.run moves).ran ∧
          (o.session ∈ (n.changeSubscriber o.number (·.run moves)).sessions.sessions ↔
            HookSign.nextEnds signs = false)

theorem Kept.waits (kept : n.Kept opened) (member : o ∈ opened) (isOpen : n.isOpen o = true) :
    n.Backed (fun hook p => hook.Waits p.hook p.ran) (fun hook s => hook.Waits s.hook s.ran) o := by
  refine (kept.tracks.waits_or_ended member).resolve_right fun ended => ?_
  rw [(kept.ended_iff member).mp ended] at isOpen
  cases isOpen

/-- A session that is listed stays so unless its hook has run. -/
theorem mem_endSessions (listed : o.session ∈ n.sessions.sessions) {hooks : List CloseHook} :
    o.session ∈ (n.endSessions hooks).sessions.sessions ↔ .endSession o.session.id ∉ hooks := by
  rw [endSessions_sessions, List.mem_filter, decide_eq_true_eq]
  exact and_iff_right listed

theorem Kept.listed_of_isOpen (kept : n.Kept opened) (member : o ∈ opened) (isOpen : n.isOpen o = true) :
    o.session ∈ n.sessions.sessions := by
  rw [kept.listed]
  exact List.mem_map_of_mem (List.mem_filter.mpr ⟨member, isOpen⟩)

theorem Kept.givesHooks (kept : n.Kept opened) : n.GivesHooks opened := by
  -- The hook of the node is the first that was registered.
  have stays {hook : CloseHook} {signs : List HookSign} {left : Option CloseHook} {ran : List CloseHook}
      (fresh : .registers hook ∉ signs) (settled : HookSign.Settled (.registers hook :: signs) left ran) :
      hook ∉ ran ↔ HookSign.nextEnds signs = false := by
    rw [settled.ran_eq, HookSign.mem_due_iff fresh, Bool.not_eq_true]
  refine ⟨fun o member kind isOpen => ?_, fun o member kind isOpen => ?_⟩
  · obtain ⟨p, found, waits⟩ := (kept.waits member isOpen).publisher kind
    refine ⟨p, found, fun moves other => ?_⟩
    have settled := Publisher.settled_run (HookSign.settled_of_waits waits) moves
    have fresh := mt Publisher.onClose_of_signs other
    refine ⟨settled.fates, ?_⟩
    rw [Node.changePublisher, found]
    exact (mem_endSessions (kept.listed_of_isOpen member isOpen)).trans (stays fresh settled)
  · obtain ⟨s, found, waits⟩ := (kept.waits member isOpen).subscriber kind
    refine ⟨s, found, fun moves other => ?_⟩
    have settled := Subscriber.settled_run (HookSign.settled_of_waits waits) moves
    have fresh := mt (Subscriber.onClose_of_signsIn (s := s)) other
    refine ⟨settled.fates, ?_⟩
    rw [Node.changeSubscriber, found]
    exact (mem_endSessions (kept.listed_of_isOpen member isOpen)).trans (stays fresh settled)

end Node

/-! ### All hooks -/

namespace CloseHook

/-- After whatever has happened to a publisher or a subscriber, every hook that was registered has run
once, with the end that came next, unless another hook was registered before that; then it has not run. No
registration has its hook run twice. A connection of a subscriber that was open is an end once; giving the
subscriber up is one only while it is disconnected, and otherwise leaves the hooks alone. It is the same
with those that a node has made, and a session whose hook is lost stays among those of the node. -/
theorem run_unless_replaced (callerId topic : String) (type : MessageType) (name : String) (loader : Loader)
    (publisherSettings : PublisherSettings) (subscriberSettings : SubscriberSettings)
    (published : List Publisher.Move) (subscribed : List Subscriber.Move)
    (operations : List Node.Operation) :
    (let p := (Publisher.new callerId topic type publisherSettings).run published
    HookSign.Fates (published.flatMap Publisher.Move.signs) p.hook p.ran) ∧
    (let start := Subscriber.new callerId topic type subscriberSettings
    let s := start.run subscribed
    HookSign.Fates (start.signsIn subscribed) s.hook s.ran ∧
      (∀ id, (start.signsIn subscribed).count (.ends (some id)) =
        if (s.connection? id).any Connection.hasEnded then 1 else 0) ∧
      (s.phase ≠ .disconnected → (s.step .drop).hook = s.hook ∧ (s.step .drop).ran = s.ran)) ∧
    (let start : Node := { Node.new name loader with
      publisherSettings := publisherSettings, subscriberSettings := subscriberSettings }
    (start.run operations).GivesHooks (start.openedIn operations)) := by
  refine ⟨?_, ⟨?_, ?_, (Subscriber.step_drop _).2⟩, ?_⟩
  · have fresh : HookSign.Settled [] (Publisher.new callerId topic type publisherSettings).hook [] :=
      ⟨rfl, rfl⟩
    exact (Publisher.settled_run fresh published).fates
  · have fresh : HookSign.Settled [] (Subscriber.new callerId topic type subscriberSettings).hook [] :=
      ⟨rfl, rfl⟩
    exact (Subscriber.settled_run fresh subscribed).fates
  · exact Subscriber.ends_once callerId topic type subscriberSettings subscribed
  · exact (Node.kept_run name loader publisherSettings subscriberSettings operations).givesHooks

/-- A connection is cut off. Before it has run the hook, the subscriber connects again and registers one
for the new connection. -/
def overlapping : List Subscriber.Move :=
  [.connect, .connection 0 (.dialled .connected), .connection 0 (.write 1000),
    .arrive 0 Subscriber.anyHeader.encode, .connection 0 .readHeader, .connection 0 .tell, .hangUp 0,
    .connection 0 .readFrame, .connection 0 .leave, .connect, .onClose (.user 0), .connection 0 .leave]

/-- The first of two hooks is lost, and the hook of one connection runs with the end of another. -/
theorem replaced_never_run :
    (let p := (Publisher.new "/talker" "/points" MessageType.pointType {}).run
      [.onClose (.user 0), .onClose (.user 1), .shutdown]
    p.phase = .closed ∧ p.ran = [.user 1] ∧ p.hook = none) ∧
    (let s := Subscriber.cramped.run [.onClose (.user 0), .onClose (.user 1), .drop]
    s.ran = [.user 1] ∧ s.hook = none) ∧
    (let s := Subscriber.cramped.run overlapping
    s.phase = .connecting ∧ s.current = some 1 ∧ s.ran = [.user 0]) := by
  decide +kernel

end CloseHook

end TopicWire
