import TopicWire.Proofs.Session.Settling
import TopicWire.Session.Remote

/-!
# Hooks

A hook that nobody replaces waits until it runs, once (`CloseHook.Once`). A publisher runs it with its
shutdown (`Publisher.Held`); a subscriber that connects but once runs it when its connection has ended,
or when it is dropped after that (`Subscriber.Held`).
-/

namespace TopicWire

namespace CloseHook

variable {hook : CloseHook} {left : Option CloseHook} {ran : List CloseHook}

def Waits (hook : CloseHook) (left : Option CloseHook) (ran : List CloseHook) : Prop :=
  left = some hook ∧ ran = []

def HasRun (hook : CloseHook) (left : Option CloseHook) (ran : List CloseHook) : Prop :=
  left = none ∧ ran = [hook]

def Once (hook : CloseHook) (left : Option CloseHook) (ran : List CloseHook) : Prop :=
  hook.Waits left ran ∨ hook.HasRun left ran

theorem Once.runs (once : hook.Once left ran) : hook.HasRun none (ran ++ left.toList) := by
  rcases once with ⟨rfl, rfl⟩ | ⟨rfl, rfl⟩
  · exact ⟨rfl, rfl⟩
  · exact ⟨rfl, rfl⟩

/-- Nothing but the hook runs. -/
theorem Once.of_mem {other : CloseHook} (once : hook.Once left ran) (there : other ∈ ran) :
    other = hook ∧ hook.HasRun left ran := by
  rcases once with ⟨-, rfl⟩ | ⟨finished, rfl⟩
  · cases there
  · exact ⟨List.mem_singleton.mp there, finished, rfl⟩

theorem Once.length_le (once : hook.Once left ran) : ran.length ≤ 1 := by
  rcases once with ⟨-, rfl⟩ | ⟨-, rfl⟩
  · exact Nat.zero_le 1
  · exact Nat.le_refl 1

end CloseHook

/-! ### Publishers -/

namespace Publisher

variable {p q : Publisher} {hook : CloseHook}

theorem step_hook (p : Publisher) {move : Move} (shutdown : move ≠ .shutdown)
    (replace : ∀ hook, move ≠ .onClose hook) :
    (p.step move).hook = p.hook ∧ (p.step move).ran = p.ran := by
  have change := p.step_change move
  generalize p.step move = q at change ⊢
  cases change with
  | hooks => exact absurd rfl (replace _)
  | shuts => exact absurd rfl shutdown
  | _ => exact ⟨rfl, rfl⟩

theorem once_run (once : hook.Once p.hook p.ran) {moves : List Move}
    (kept : ∀ hook, Move.onClose hook ∉ moves) : hook.Once (p.run moves).hook (p.run moves).ran := by
  induction moves generalizing p with
  | nil => exact once
  | cons move moves ih =>
    refine ih ?_ fun other there => kept other (List.mem_cons_of_mem _ there)
    by_cases shutdown : move = .shutdown
    · subst shutdown
      exact .inr once.runs
    · obtain ⟨left, ran⟩ := p.step_hook shutdown fun other same => kept other (same ▸ List.mem_cons_self)
      rwa [left, ran]

/-- The publisher listens and holds its hook, or it is closed and has run it. -/
def Held (hook : CloseHook) (p : Publisher) : Prop :=
  hook.Waits p.hook p.ran ∧ p.endpoint?.isSome = true ∨ hook.HasRun p.hook p.ran ∧ p.phase = .closed

theorem Held.once (held : p.Held hook) : hook.Once p.hook p.ran :=
  held.imp And.left And.left

/-- Ordinary moves keep what the publisher is to others. -/
theorem Ordinary.alike (ordinary : p.Ordinary q) :
    p.OpenAlike q ∧ q.hook = p.hook ∧ q.ran = p.ran := by
  refine ordinary.keeps (motive := fun q => p.OpenAlike q ∧ q.hook = p.hook ∧ q.ran = p.ran)
    ⟨⟨rfl, rfl⟩, rfl, rfl⟩ fun q move known held => ?_
  obtain ⟨alike, left, ran⟩ := held
  have aside : move.turns = false := by cases move <;> first | rfl | cases known
  have next := q.step_openAlike aside
  have opened : move ≠ .shutdown := by
    rintro rfl
    cases known
  have kept : ∀ hook, move ≠ .onClose hook := by
    rintro other rfl
    cases known
  obtain ⟨left', ran'⟩ := q.step_hook opened kept
  exact ⟨⟨next.phase.trans alike.phase, next.searches.trans alike.searches⟩, left'.trans left,
    ran'.trans ran⟩

/-- A move that neither starts a publisher nor replaces its hook. -/
def Move.isServing : Move → Bool
  | .beginStart => false
  | .finishStart _ => false
  | .abandonStart => false
  | .onClose _ => false
  | _ => true

def Serves (p q : Publisher) : Prop :=
  Reached step Move.isServing p q

theorem Ordinary.serves (ordinary : p.Ordinary q) : p.Serves q :=
  ordinary.imp fun move known => by cases move <;> first | rfl | cases known

theorem shutdown_serves (p : Publisher) : p.Serves p.shutdown :=
  show p.Serves (p.step .shutdown) from .of_move p rfl

theorem publish_serves (m : Message) (p : Publisher) : p.Serves (p.publish m).2 :=
  show p.Serves (p.step (.publish m)) from .of_move p rfl

theorem Held.step (held : p.Held hook) {move : Move} (serving : move.isServing = true) :
    (p.step move).Held hook := by
  by_cases shutdown : move = .shutdown
  · subst shutdown
    exact .inr ⟨held.once.runs, rfl⟩
  · have aside : move.turns = false := by
      cases move <;> first | rfl | exact absurd rfl shutdown | cases serving
    have kept : ∀ hook, move ≠ .onClose hook := by
      rintro other rfl
      cases serving
    obtain ⟨left, ran⟩ := p.step_hook shutdown kept
    rw [Held, endpoint?, left, ran, (p.step_openAlike aside).phase]
    exact held

theorem Serves.held (serves : p.Serves q) (held : p.Held hook) : q.Held hook :=
  serves.keeps held fun _ _ known held => held.step known

theorem Serves.ran_subset (serves : p.Serves q) : p.ran ⊆ q.ran := by
  refine serves.keeps (motive := fun q => p.ran ⊆ q.ran) (List.Subset.refl _) fun q move known grows => ?_
  by_cases shutdown : move = .shutdown
  · subst shutdown
    exact List.Subset.trans grows (List.subset_append_left _ _)
  · have kept : ∀ hook, move ≠ .onClose hook := by
      rintro other rfl
      cases known
    rwa [(q.step_hook shutdown kept).2]

end Publisher

/-! ### Subscribers -/

/-- Where the hook is in each stage of the only connection of a subscriber, and what the call to connect
has come to. -/
def Connection.Holds (hook : CloseHook) (left : Option CloseHook) (ran : List CloseHook)
    (c : Connection) : Prop :=
  match c.stage with
  | .dialling => c.result = none ∧ hook.Waits left ran
  | .requesting _ => c.result = none ∧ hook.Waits left ran
  | .handshake => c.result = none ∧ hook.Waits left ran
  | .accepted _ => c.result = none ∧ hook.Waits left ran
  | .reading => (∃ header, c.result = some (.ok header)) ∧ hook.Waits left ran
  | .delivering _ => (∃ header, c.result = some (.ok header)) ∧ hook.Waits left ran
  | .ended => (∃ header, c.result = some (.ok header)) ∧ hook.Waits left ran
  | .released => (∃ header, c.result = some (.ok header)) ∧ hook.Once left ran
  | .unhooked => (∃ header, c.result = some (.ok header)) ∧ hook.HasRun left ran
  | .done => (∃ header, c.result = some (.ok header)) ∧ hook.HasRun left ran ∨
      (∃ e, c.result = some (.error e)) ∧ hook.Once left ran

namespace Connection

variable {s : Subscriber} {c c' : Connection} {hook : CloseHook} {left : Option CloseHook}
  {ran : List CloseHook} {header : Header}

theorem Holds.once (holds : c.Holds hook left ran) : hook.Once left ran := by
  unfold Holds at holds
  split at holds
  · exact .inl holds.2
  · exact .inl holds.2
  · exact .inl holds.2
  · exact .inl holds.2
  · exact .inl holds.2
  · exact .inl holds.2
  · exact .inl holds.2
  · exact holds.2
  · exact .inr holds.2
  · rcases holds with ⟨-, ran⟩ | ⟨-, once⟩
    · exact .inr ran
    · exact once

theorem Holds.keep (holds : c.Holds hook left ran) (stage : c'.stage = c.stage)
    (result : c'.result = c.result) : c'.Holds hook left ran := by
  unfold Holds at holds ⊢
  rw [stage, result]
  exact holds

/-- Once the connection counts as over, the hook may run. -/
theorem Holds.runs (holds : c.Holds hook left ran) (past : c.stage.phase = .disconnected) :
    c.Holds hook none (ran ++ left.toList) := by
  have runs := holds.once.runs
  unfold Holds at holds ⊢
  cases stage : c.stage with
  | released =>
    rw [stage] at holds
    exact ⟨holds.1, .inr runs⟩
  | unhooked =>
    rw [stage] at holds
    exact ⟨holds.1, runs⟩
  | done =>
    rw [stage] at holds
    exact holds.imp (fun both => ⟨both.1, runs⟩) (fun both => ⟨both.1, .inr runs⟩)
  | _ => rw [stage] at past; cases past

theorem Holds.own {move : Subscriber.ConnectionMove} (holds : c.Holds hook left ran)
    (moved : c.Own s move c') (unreleased : c.stage = .released → c' = c) : c'.Holds hook left ran := by
  cases moved with
  | rests => exact holds
  | dials stage => rw [Holds, stage] at holds; exact holds
  | requests stage => rw [Holds, stage] at holds; exact holds
  | requested stage => rw [Holds, stage] at holds; exact holds
  | accepts stage => rw [Holds, stage] at holds; exact holds
  | unreached stage => rw [Holds, stage] at holds; exact .inr ⟨⟨_, rfl⟩, .inl holds.2⟩
  | refuses stage => rw [Holds, stage] at holds; exact .inr ⟨⟨_, rfl⟩, .inl holds.2⟩
  | breaks stage => exact .inr ⟨⟨_, rfl⟩, holds.once⟩
  | connects stage => rw [Holds, stage] at holds; exact ⟨⟨_, rfl⟩, holds.2⟩
  | delivers stage => rw [Holds, stage] at holds; exact holds
  | reads stage => rw [Holds, stage] at holds; exact holds
  | runsOut stage => rw [Holds, stage] at holds; exact holds
  | misreads stage => rw [Holds, stage] at holds; exact holds
  | stops stage => rw [Holds, stage] at holds; exact holds
  | fails stage => rw [Holds, stage] at holds; exact holds
  | releases stage => rw [Holds, stage] at holds; exact ⟨holds.1, .inl holds.2⟩
  | finishes stage => rw [Holds, stage] at holds; exact .inl holds
  | unhooks stage =>
    have same := congrArg Connection.stage (unreleased stage)
    rw [stage] at same
    cases same

theorem Own.of_released {move : Subscriber.ConnectionMove} (own : c.Own s move c')
    (released : c.stage = .released) : c' = c ∨ move = .leave ∧ c' = { c with stage := .unhooked } := by
  cases own with
  | rests => exact .inl rfl
  | unhooks => exact .inr ⟨rfl, rfl⟩
  | _ => simp_all

/-- An attempt to connect that has succeeded has succeeded for good. -/
theorem Holds.accepted {move : Subscriber.Move} (holds : c.Holds hook left ran)
    (change : c.Change s move c') (accepted : c.result = some (.ok header)) :
    c'.result = some (.ok header) := by
  have connecting (result : c.result = none) : c'.result = some (.ok header) := by
    rw [accepted] at result
    cases result
  cases change with
  | own moved =>
    cases moved with
    | unreached stage => rw [Holds, stage] at holds; exact connecting holds.1
    | refuses stage => rw [Holds, stage] at holds; exact connecting holds.1
    | breaks stage =>
      rcases stage with stage | ⟨left, stage⟩ <;> rw [Holds, stage] at holds <;> exact connecting holds.1
    | connects stage => rw [Holds, stage] at holds; exact connecting holds.1
    | _ => exact accepted
  | _ => exact accepted

/-- What is left of a connection at rest: it waits for the other side, or it is over. -/
theorem Holds.at_rest (holds : c.Holds hook left ran) (rests : Subscriber.Connection.ownMove? c = none)
    (accepted : c.result = some (.ok header)) :
    c.stage = .reading ∧ hook.Waits left ran ∨ c.stage = .done ∧ hook.HasRun left ran := by
  unfold Subscriber.Connection.ownMove? at rests
  unfold Holds at holds
  rw [accepted] at holds
  cases stage : c.stage with
  | dialling => rw [stage] at holds; cases holds.1
  | handshake => rw [stage] at holds; cases holds.1
  | reading => rw [stage] at holds; exact .inl ⟨rfl, holds.2⟩
  | done =>
    rw [stage] at holds
    rcases holds with ⟨-, ran⟩ | ⟨⟨e, failed⟩, -⟩
    · exact .inr ⟨rfl, ran⟩
    · cases failed
  | _ => simp [stage] at rests

end Connection

namespace Subscriber

variable {s t : Subscriber} {c : Connection} {hook : CloseHook} {header : Header}

/-- A subscriber that has one connection holds its hook until that is over. -/
structure Held (hook : CloseHook) (s : Subscriber) : Prop where
  kept : s.Kept
  only : s.nextConnection = 1
  room : 0 < s.events.capacity
  holds : ∀ c, s.connection? 0 = some c → c.Holds hook s.hook s.ran

theorem Held.found (held : s.Held hook) : ∃ c, s.connection? 0 = some c := by
  refine Option.ne_none_iff_exists'.mp fun absent => ?_
  have outside := held.kept.numbered.connection?_eq_none_iff.mp absent
  rw [held.only] at outside
  omega

theorem Held.phase (held : s.Held hook) (found : s.connection? 0 = some c) : s.phase = c.stage.phase :=
  held.kept.phased.last 0 c found held.only.symm

theorem Held.once (held : s.Held hook) : hook.Once s.hook s.ran := by
  obtain ⟨c, found⟩ := held.found
  exact (held.holds c found).once

theorem close_hook (s : Subscriber) : s.close.hook = s.hook ∧ s.close.ran = s.ran := by
  obtain ⟨change, -, -, eq⟩ := s.close_eq
  rw [eq]
  exact ⟨rfl, rfl⟩

theorem drop_hook (s : Subscriber) : s.drop.hook = s.hook ∧ s.drop.ran = s.ran ∨
    s.phase = .disconnected ∧ s.drop.hook = none ∧ s.drop.ran = s.ran ++ s.hook.toList := by
  obtain ⟨left, ran⟩ := s.close_hook
  have phase : (s.step .close).phase = s.phase :=
    step_phase Move.noConfusion fun _ _ => Move.noConfusion
  unfold drop
  dsimp only
  split
  · rename_i free
    refine .inr ⟨phase.symm.trans free, rfl, ?_⟩
    rw [runHook, ran, left]
  · exact .inl ⟨left, ran⟩

/-- Only a connection that has been released and a subscriber that is dropped run the hook. -/
theorem step_hook (s : Subscriber) {move : Move} (replace : ∀ hook, move ≠ .onClose hook) :
    (s.step move).hook = s.hook ∧ (s.step move).ran = s.ran ∨
      (s.step move).hook = none ∧ (s.step move).ran = s.ran ++ s.hook.toList := by
  cases move with
  | onClose hook => exact absurd rfl (replace hook)
  | connect =>
    simp only [step, beginConnect]
    split <;> exact .inl ⟨rfl, rfl⟩
  | close => exact .inl s.close_hook
  | drop => exact s.drop_hook.imp_right And.right
  | connection id move =>
    cases found : s.connection? id with
    | none =>
      rw [step_connection_none found]
      exact .inl ⟨rfl, rfl⟩
    | some c =>
      simp only [step, found]
      rcases s.connectionStep_hook c move with same | ⟨stage, rfl⟩
      · exact .inl same
      · simp only [connectionStep, leave, stage]
        exact .inr ⟨rfl, rfl⟩
  | _ => exact .inl ⟨rfl, rfl⟩

theorem once_run (once : hook.Once s.hook s.ran) {moves : List Move}
    (kept : ∀ hook, Move.onClose hook ∉ moves) : hook.Once (s.run moves).hook (s.run moves).ran := by
  induction moves generalizing s with
  | nil => exact once
  | cons move moves ih =>
    refine ih ?_ fun other there => kept other (List.mem_cons_of_mem _ there)
    rcases s.step_hook fun other same => kept other (same ▸ List.mem_cons_self) with
      ⟨left, ran⟩ | ⟨left, ran⟩
    · rwa [left, ran]
    · rw [left, ran]
      exact .inr once.runs

theorem Held.own {c' : Connection} (held : s.Held hook) (found : s.connection? 0 = some c)
    {move : ConnectionMove} (moved : c.Own s move c') :
    c'.Holds hook (s.step (.connection 0 move)).hook (s.step (.connection 0 move)).ran := by
  have holds := held.holds c found
  have step : s.step (.connection 0 move) = s.connectionStep c move := by simp only [step, found]
  by_cases released : c.stage = .released
  · rcases moved.of_released released with rfl | ⟨rfl, rfl⟩
    · rcases s.step_hook (fun _ => Move.noConfusion : ∀ hook, Move.connection 0 move ≠ .onClose hook) with
        ⟨left, ran⟩ | ⟨left, ran⟩
      · rwa [left, ran]
      · rw [left, ran]
        exact holds.runs (by rw [released]; rfl)
    · rw [step]
      simp only [connectionStep, leave, released]
      rw [Connection.Holds, released] at holds
      exact ⟨holds.1, held.once.runs⟩
  · rcases s.connectionStep_hook c move with ⟨left, ran⟩ | both
    · rw [step, left, ran]
      exact holds.own moved fun stage => absurd stage released
    · exact absurd both.1 released

theorem Held.step (held : s.Held hook) {move : Move} (ordinary : move.isOrdinary = true) :
    (s.step move).Held hook := by
  have connect : move ≠ .connect := by rintro rfl; cases ordinary
  refine ⟨held.kept.step move, (step_nextConnection connect).trans held.only,
    (s.step_capacity move).symm ▸ held.room, fun c' found' => ?_⟩
  rcases connection?_of_step held.kept.numbered found' with ⟨c, found, change⟩ | ⟨same, -⟩
  · have holds := held.holds c found
    have aside (stage : c'.stage = c.stage) (result : c'.result = c.result)
        (left : (s.step move).hook = s.hook) (ran : (s.step move).ran = s.ran) :
        c'.Holds hook (s.step move).hook (s.step move).ran := by
      rw [left, ran]
      exact holds.keep stage result
    cases move with
    | connect => cases ordinary
    | onClose other => cases ordinary
    | close =>
      obtain ⟨left, ran⟩ := s.close_hook
      cases change <;> exact aside rfl rfl left ran
    | drop =>
      rcases s.drop_hook with ⟨left, ran⟩ | ⟨free, left, ran⟩
      · cases change <;> exact aside rfl rfl left ran
      · have runs := holds.runs ((held.phase found).symm.trans free)
        change c'.Holds hook s.drop.hook s.drop.ran
        rw [left, ran]
        cases change <;> exact runs.keep rfl rfl
    | connection id move =>
      by_cases here : id = 0
      · subst here
        obtain ⟨c'', again, moved⟩ := connection?_own found move
        obtain rfl := Option.some.inj (found'.symm.trans again)
        exact held.own found moved
      · have absent : s.connection? id = none := by
          rw [held.kept.numbered.connection?_eq_none_iff, held.only]
          omega
        rw [step_connection_none absent, found] at found'
        obtain rfl := Option.some.inj found'
        rw [step_connection_none absent]
        exact holds
    | _ => cases change <;> exact aside rfl rfl rfl rfl
  · exact absurd same connect

theorem close_ordinary (s : Subscriber) : s.Ordinary s.close :=
  show s.Ordinary (s.step .close) from .of_move s rfl

theorem drop_ordinary (s : Subscriber) : s.Ordinary s.drop :=
  show s.Ordinary (s.step .drop) from .of_move s rfl

theorem Held.ordinary (held : s.Held hook) (ordinary : s.Ordinary t) : t.Held hook :=
  ordinary.keeps held fun _ _ known held => held.step known

theorem Ordinary.ran_subset (ordinary : s.Ordinary t) : s.ran ⊆ t.ran := by
  refine ordinary.keeps (motive := fun t => s.ran ⊆ t.ran) (List.Subset.refl _) fun t move known grows => ?_
  have kept : ∀ hook, move ≠ .onClose hook := by
    rintro other rfl
    cases known
  rcases t.step_hook kept with ⟨-, ran⟩ | ⟨-, ran⟩
  · rwa [ran]
  · rw [ran]
    exact List.Subset.trans grows (List.subset_append_left _ _)

/-- A subscriber that holds its hook and has once been connected. -/
structure Subscribed (hook : CloseHook) (s : Subscriber) : Prop where
  held : s.Held hook
  accepted : ∃ header, s.result? 0 = some (.ok header)

theorem Subscribed.ordinary (subscribed : s.Subscribed hook) (ordinary : s.Ordinary t) :
    t.Subscribed hook := by
  refine ordinary.keeps subscribed fun s move known subscribed => ?_
  obtain ⟨held, header, accepted⟩ := subscribed
  obtain ⟨c, found⟩ := held.found
  obtain ⟨c', found', change⟩ := connection?_step found move
  rw [result?, found] at accepted
  refine ⟨held.step known, header, ?_⟩
  rw [result?, found']
  exact (held.holds c found).accepted change accepted

/-- At rest a subscriber is connected and its hook waits, or it is over and the hook has run. -/
theorem Subscribed.at_rest (subscribed : s.Subscribed hook) (found : s.connection? 0 = some c)
    (rests : Connection.ownMove? c = none) :
    s.phase = .connected ∧ c.stage = .reading ∧ hook.Waits s.hook s.ran ∨
      s.phase = .disconnected ∧ c.stage = .done ∧ hook.HasRun s.hook s.ran := by
  obtain ⟨held, header, accepted⟩ := subscribed
  rw [result?, found] at accepted
  have phase := held.phase found
  rcases (held.holds c found).at_rest rests accepted with ⟨stage, waits⟩ | ⟨stage, ran⟩
  · exact .inl ⟨phase.trans (by rw [stage]; rfl), stage, waits⟩
  · exact .inr ⟨phase.trans (by rw [stage]; rfl), stage, ran⟩

end Subscriber

end TopicWire
