import Mathlib.Data.List.Nodup
import TopicWire.Proofs.Session.Link

/-!
# Closing a publisher

A shutdown closes the publisher and asks its listener to stop. Until that has stopped it may register a
connection that it has taken. If nobody was starting the publisher and no listener was left behind, the
publisher stays closed, and every listener stops in at most two moves and then registers nothing more
(`Publisher.Closing`). A start that is under way opens the publisher again, and of two starts at the same
time the second puts its listener in the place of the first, which no shutdown asks to stop any more
(`Publisher.reopened`).
-/

namespace TopicWire

theorem Numbering.find?_of_nodup {α : Type} {number : α → Nat} {as : List α} {a : α}
    (distinct : (as.map number).Nodup) (member : a ∈ as) :
    as.find? (number · == number a) = some a := by
  cases found : as.find? (number · == number a) with
  | none =>
    have absent := List.find?_eq_none.mp found a member
    exact (absent (beq_self_eq_true _)).elim
  | some b =>
    have same := number_of_find? found
    have there := List.mem_of_find?_eq_some found
    rw [List.inj_on_of_nodup_map distinct there member same]

theorem Numbering.find?_of_mem {α : Type} {number : α → Nat} {as : List α} {a : α} {n : Nat}
    (numbered : as.map number = List.range n) (member : a ∈ as) :
    as.find? (number · == number a) = some a :=
  find?_of_nodup (numbered ▸ List.nodup_range) member

/-- A link that was taken off the registered ones is not registered again. -/
theorem Link.Change.unregistered {p : Publisher} {l l' : Link} {move : Publisher.Move}
    (change : l.Change p move l') (unregistered : l.registered = false) : l'.registered = false := by
  cases change with
  | pushed made =>
    obtain ⟨queue, eq⟩ := Publisher.pushTo_eq _ l
    rw [eq]
    exact unregistered
  | dismissed =>
    unfold Publisher.dismiss
    rw [unregistered]
    exact unregistered
  | own moved => cases moved <;> first | exact unregistered | rfl
  | _ => exact unregistered

namespace Publisher

variable {p : Publisher} {move : Move}

/-! ### Whether a publisher is open -/

/-- Two publishers agree on whether they are open. -/
structure OpenAlike (p q : Publisher) : Prop where
  phase : q.phase = p.phase
  searches : q.searches = p.searches

theorem step_openAlike (aside : move.turns = false) : p.OpenAlike (p.step move) := by
  have change := p.step_change move
  generalize p.step move = q at change ⊢
  cases change with
  | begins => cases aside
  | opens => cases aside
  | fails => cases aside
  | abandons => cases aside
  | shuts => cases aside
  | _ => exact ⟨rfl, rfl⟩

/-! ### Listeners -/

/-- What a move does to the listeners. -/
inductive Listens (p : Publisher) : Move → Publisher → Prop
  | aside {move q} (listeners : q.listeners = p.listeners) (next : q.nextListener = p.nextListener)
      (kept : q.keptListener = p.keptListener) : Listens p move q
  | opens {endpoint q} (busy : p.searches ≠ 0)
      (listeners : q.listeners = p.listeners ++ [p.newest endpoint])
      (next : q.nextListener = p.nextListener + 1) (kept : q.keptListener = some p.nextListener) :
      Listens p (.finishStart (.ok endpoint)) q
  /-- Connections are taken or registered. -/
  | goesOn {move q} {change : Listener → Listener} (listeners : q.listeners = p.listeners.map change)
      (keeps : ∀ l, ∃ taken, change l = { l with taken := taken }) (aside : move.turns = false)
      (next : q.nextListener = p.nextListener) (kept : q.keptListener = p.keptListener) : Listens p move q
  | stops {id q} (listeners : q.listeners =
        p.listeners.filter fun l => !(l.id == id && l.stopping && l.taken.isNone))
      (next : q.nextListener = p.nextListener) (kept : q.keptListener = p.keptListener) :
      Listens p (.stop id) q
  | asks {q} (listeners : q.listeners = p.listeners.map (askToStop p.keptListener))
      (next : q.nextListener = p.nextListener) (kept : q.keptListener = none) : Listens p .shutdown q

theorem changeAt_taken (id : Nat) (taken : Listener → Option Endpoint) (l : Listener) :
    ∃ t, (if l.id = id then { l with taken := taken l } else l) = { l with taken := t } := by
  split
  · exact ⟨_, rfl⟩
  · exact ⟨l.taken, rfl⟩

theorem step_listens (p : Publisher) (move : Move) : p.Listens move (p.step move) := by
  have change := p.step_change move
  generalize p.step move = q at change ⊢
  cases change with
  | opens busy => exact .opens busy rfl rfl rfl
  | @takes listener => exact .goesOn rfl (changeAt_taken listener _) rfl rfl rfl
  | @registers listener => exact .goesOn rfl (changeAt_taken listener _) rfl rfl rfl
  | stops => exact .stops rfl rfl rfl
  | shuts => exact .asks rfl rfl rfl
  | _ => exact .aside rfl rfl rfl

theorem askToStop_id (kept : Option Nat) (l : Listener) : (askToStop kept l).id = l.id := by
  unfold askToStop
  split <;> rfl

theorem askToStop_stopping (kept : Option Nat) (l : Listener) :
    (askToStop kept l).stopping = true ↔ l.stopping = true ∨ kept = some l.id := by
  unfold askToStop
  split
  · rename_i asked
    exact iff_of_true rfl (.inr asked)
  · rename_i other
    rw [or_iff_left other]

/-- Every listener has a number of its own. -/
structure Distinct (p : Publisher) : Prop where
  nodup : (p.listeners.map (·.id)).Nodup
  before : ∀ l ∈ p.listeners, l.id < p.nextListener

theorem Distinct.mapped {q : Publisher} {change : Listener → Listener} (distinct : p.Distinct)
    (keeps : ∀ l, (change l).id = l.id) (listeners : q.listeners = p.listeners.map change)
    (next : q.nextListener = p.nextListener) : q.Distinct := by
  have same : q.listeners.map (·.id) = p.listeners.map (·.id) := by
    rw [listeners, List.map_map]
    exact List.map_congr_left fun l _ => keeps l
  refine ⟨same ▸ distinct.nodup, fun l member => ?_⟩
  rw [listeners] at member
  obtain ⟨old, there, rfl⟩ := List.mem_map.mp member
  rw [keeps, next]
  exact distinct.before old there

theorem Listens.distinct {q : Publisher} (listens : p.Listens move q) (distinct : p.Distinct) :
    q.Distinct := by
  cases listens with
  | aside listeners next => exact ⟨listeners ▸ distinct.nodup, by rw [listeners, next]; exact distinct.before⟩
  | @opens endpoint _ busy listeners next kept =>
    have fresh : ∀ l ∈ p.listeners, l.id ≠ p.nextListener := fun l there =>
      Nat.ne_of_lt (distinct.before l there)
    refine ⟨?_, fun l member => ?_⟩
    · rw [listeners, List.map_append, List.map_singleton]
      refine distinct.nodup.append (List.nodup_singleton _) fun id there new => ?_
      obtain ⟨l, member, rfl⟩ := List.mem_map.mp there
      exact fresh l member (List.mem_singleton.mp new)
    · rw [listeners] at member
      rw [next]
      rcases List.mem_append.mp member with old | new
      · exact Nat.lt_succ_of_lt (distinct.before l old)
      · rw [List.mem_singleton.mp new]
        exact Nat.lt_succ_self _
  | goesOn listeners keeps aside next =>
    refine distinct.mapped (fun l => ?_) listeners next
    obtain ⟨taken, eq⟩ := keeps l
    rw [eq]
  | stops listeners next =>
    refine ⟨?_, fun l member => ?_⟩
    · rw [listeners]
      exact distinct.nodup.sublist (List.filter_sublist.map _)
    · rw [listeners] at member
      rw [next]
      exact distinct.before l (List.mem_of_mem_filter member)
  | asks listeners next => exact distinct.mapped (askToStop_id _) listeners next

theorem Distinct.run (distinct : p.Distinct) (moves : List Move) : (p.run moves).Distinct :=
  run_induction (motive := fun _ (p : Publisher) => p.Distinct) distinct
    (fun _ move held => (step_listens _ move).distinct held) moves

theorem Distinct.taken?_eq (distinct : p.Distinct) {l : Listener} (there : l ∈ p.listeners) :
    p.taken? l.id = l.taken := by
  have found : p.listener? l.id = some l := Numbering.find?_of_nodup distinct.nodup there
  rw [taken?, found]
  rfl

/-- A listener that has registered what it had taken has nothing left to register. -/
theorem Distinct.taken_register (distinct : p.Distinct) {l : Listener}
    (there : l ∈ (p.step (.register l.id)).listeners) : l.taken = none := by
  cases taken : p.taken? l.id with
  | none =>
    rw [step, register_none taken] at there
    exact (distinct.taken?_eq there).symm.trans taken
  | some peer =>
    rw [step, register_eq taken] at there
    obtain ⟨old, -, eq⟩ := List.mem_map.mp there
    split at eq
    · rw [← eq]
    · rename_i other
      exact absurd (congrArg Listener.id eq) other

/-! ### Closed with no listener -/

/-- The publisher is closed, and nobody starts it or listens for it. -/
structure Over (p : Publisher) : Prop where
  closed : p.phase = .closed
  idle : p.searches = 0
  silent : p.listeners = []

theorem Over.step_nextLink (shut : p.Over) (move : Move) : (p.step move).nextLink = p.nextLink := by
  have change := p.step_change move
  generalize p.step move = q at change ⊢
  cases change with
  | registers taken =>
    rw [taken?, listener?, shut.silent] at taken
    cases taken
  | _ => rfl

theorem step_closed (closed : p.phase = .closed) (idle : p.searches = 0) (move : Move) :
    (p.step move).phase = .closed ∧ (p.step move).searches = 0 := by
  have change := p.step_change move
  generalize p.step move = q at change ⊢
  cases change with
  | begins opened unclosed => exact absurd closed unclosed
  | opens busy => exact absurd idle busy
  | fails busy => exact absurd idle busy
  | abandons => exact ⟨closed, by show p.searches - 1 = 0; omega⟩
  | shuts => exact ⟨rfl, idle⟩
  | _ => exact ⟨closed, idle⟩

theorem Over.step (shut : p.Over) (move : Move) : (p.step move).Over := by
  obtain ⟨closed, idle⟩ := step_closed shut.closed shut.idle move
  refine ⟨closed, idle, ?_⟩
  have listens := p.step_listens move
  generalize p.step move = q at listens
  cases listens with
  | aside listeners => rw [listeners, shut.silent]
  | opens busy => exact absurd shut.idle busy
  | goesOn listeners => rw [listeners, shut.silent, List.map_nil]
  | stops listeners => rw [listeners, shut.silent, List.filter_nil]
  | asks listeners => rw [listeners, shut.silent, List.map_nil]

theorem Over.run (shut : p.Over) (moves : List Move) :
    (p.run moves).Over ∧ (p.run moves).nextLink = p.nextLink :=
  run_induction (motive := fun _ (q : Publisher) => q.Over ∧ q.nextLink = p.nextLink) ⟨shut, rfl⟩
    (fun _ move held => ⟨held.1.step move, (held.1.step_nextLink move).trans held.2⟩) moves

/-! ### Links after a shutdown -/

/-- A link that is not registered never is again. -/
theorem unregistered_run {l : Link} {id : Nat} (found : p.link? id = some l)
    (unregistered : l.registered = false) (moves : List Move) :
    ∃ l', (p.run moves).link? id = some l' ∧ l'.registered = false := by
  refine run_induction (motive := fun _ (q : Publisher) =>
    ∃ l', q.link? id = some l' ∧ l'.registered = false) ⟨l, found, unregistered⟩
    (fun moves move held => ?_) moves
  obtain ⟨l', found', unregistered'⟩ := held
  obtain ⟨l'', found'', change⟩ := link?_step found' move
  exact ⟨l'', found'', change.unregistered unregistered'⟩

/-- What a shutdown finds registered it closes. Only a link of a later connection can be registered
afterwards. -/
theorem registered_after (numbered : p.Numbered) (later : List Move) {l : Link}
    (member : l ∈ (p.run (.shutdown :: later)).registered) : p.nextLink ≤ l.id := by
  obtain ⟨there, registered⟩ := List.mem_filter.mp member
  have found : (p.run (.shutdown :: later)).link? l.id = some l :=
    Numbering.find?_of_mem (numbered.run (.shutdown :: later)) there
  by_contra earlier
  have known : p.link? l.id ≠ none := fun none => earlier (numbered.link?_eq_none_iff.mp none)
  obtain ⟨old, before⟩ := Option.ne_none_iff_exists'.mp known
  have dismissed : (p.step .shutdown).link? l.id = some (dismiss old) :=
    (Numbering.find?_map dismiss_id p.links l.id).trans (congrArg (Option.map dismiss) before)
  have unregistered : (dismiss old).registered = false := by
    unfold dismiss
    split
    · rfl
    · rename_i unregistered
      exact Bool.eq_false_iff.mpr unregistered
  obtain ⟨l', found', unregistered'⟩ := unregistered_run dismissed unregistered later
  obtain rfl := Option.some.inj (found.symm.trans found')
  exact Bool.false_ne_true (unregistered'.symm.trans registered)

/-! ### Shutting down -/

/-- The publisher is closed, and all its listeners, which have these numbers, are to stop. -/
structure Closing (ids : List Nat) (p : Publisher) : Prop where
  closed : p.phase = .closed
  idle : p.searches = 0
  asked : ∀ l ∈ p.listeners, l.stopping = true ∧ l.id ∈ ids
  distinct : p.Distinct

theorem Closing.step {ids : List Nat} (closing : p.Closing ids) (move : Move) :
    (p.step move).Closing ids := by
  obtain ⟨closed, idle⟩ := step_closed closing.closed closing.idle move
  have listens := p.step_listens move
  refine ⟨closed, idle, fun l member => ?_, listens.distinct closing.distinct⟩
  generalize p.step move = q at listens member
  cases listens with
  | aside listeners => exact closing.asked l (listeners ▸ member)
  | opens busy => exact absurd closing.idle busy
  | goesOn listeners keeps =>
    rw [listeners] at member
    obtain ⟨old, there, rfl⟩ := List.mem_map.mp member
    obtain ⟨taken, eq⟩ := keeps old
    rw [eq]
    exact closing.asked old there
  | stops listeners =>
    rw [listeners] at member
    exact closing.asked l (List.mem_of_mem_filter member)
  | asks listeners =>
    rw [listeners] at member
    obtain ⟨old, there, rfl⟩ := List.mem_map.mp member
    obtain ⟨stopping, known⟩ := closing.asked old there
    rw [askToStop_id, askToStop_stopping]
    exact ⟨.inl stopping, known⟩

theorem Closing.run {ids : List Nat} (closing : p.Closing ids) (moves : List Move) :
    (p.run moves).Closing ids :=
  run_induction (motive := fun _ (p : Publisher) => p.Closing ids) closing
    (fun _ move held => held.step move) moves

/-- A listener that was asked to stop registers what it has taken and stops. -/
theorem Closing.ends {ids : List Nat} (closing : p.Closing ids) (id : Nat) :
    ∀ l ∈ ((p.step (.register id)).step (.stop id)).listeners, l.id ≠ id := by
  rintro l member rfl
  obtain ⟨there, stays⟩ := List.mem_filter.mp member
  have stopping := ((closing.step (.register l.id)).asked l there).1
  have free := closing.distinct.taken_register there
  simp [stopping, free] at stays

theorem closing_shutdown (distinct : p.Distinct) (idle : p.searches = 0)
    (reached : ∀ l ∈ p.listeners, l.stopping = true ∨ p.keptListener = some l.id) :
    (p.step .shutdown).Closing (p.listeners.map (·.id)) := by
  refine ⟨rfl, idle, fun l member => ?_, (p.step_listens .shutdown).distinct distinct⟩
  obtain ⟨old, there, rfl⟩ := List.mem_map.mp member
  rw [askToStop_id, askToStop_stopping]
  exact ⟨reached old there, List.mem_map_of_mem there⟩

/-- From a shutdown on the publisher is closed, nobody listens for it and no link is registered. -/
def ShutsAtOnce (p : Publisher) : Prop :=
  ∀ later, let q := p.run (.shutdown :: later)
    q.phase = .closed ∧ q.listeners = [] ∧ q.registered = []

/-- What a shutdown does that nothing undoes. -/
structure ShutsForGood (p : Publisher) : Prop where
  closed : ∀ later, (p.run (.shutdown :: later)).phase = .closed
  /-- The listeners are those of before, and were asked to stop. -/
  asked : ∀ later, ∀ l ∈ (p.run (.shutdown :: later)).listeners,
    l.stopping = true ∧ l.id ∈ p.listeners.map (·.id)
  /-- A listener registers at most what it has taken, and stops. -/
  ends : ∀ later id, ∀ l ∈ (p.run (.shutdown :: later ++ [.register id, .stop id])).listeners, l.id ≠ id
  /-- Once all listeners have stopped there are none for ever, and no link is made. -/
  rests : ∀ later, (p.run (.shutdown :: later)).listeners = [] → ∀ more,
    (p.run (.shutdown :: later ++ more)).listeners = [] ∧
      (p.run (.shutdown :: later ++ more)).nextLink = (p.run (.shutdown :: later)).nextLink
  /-- No link of before is registered. -/
  cleared : ∀ later, ∀ l ∈ (p.run (.shutdown :: later)).registered, p.nextLink ≤ l.id

theorem idle_of_closed (closed : ∀ later, (p.run (.shutdown :: later)).phase = .closed) :
    p.searches = 0 := by
  by_contra busy
  have busy : (p.step .shutdown).searches ≠ 0 := busy
  have reopened : (p.run [.shutdown, .finishStart (.ok ⟨"", 0⟩)]).phase = .listening ⟨"", 0⟩ := by
    show ((p.step .shutdown).step (.finishStart (.ok ⟨"", 0⟩))).phase = _
    rw [finishStart_bound busy]
  cases reopened.symm.trans (closed [.finishStart (.ok ⟨"", 0⟩)])

theorem shutsAtOnce_iff (numbered : p.Numbered) :
    p.ShutsAtOnce ↔ p.searches = 0 ∧ p.listeners = [] := by
  constructor
  · intro final
    refine ⟨idle_of_closed fun later => (final later).1, ?_⟩
    exact List.map_eq_nil_iff.mp (final []).2.1
  · rintro ⟨idle, silent⟩ later
    have shut : (p.step .shutdown).Over := ⟨rfl, idle, List.map_eq_nil_iff.mpr silent⟩
    obtain ⟨still, same⟩ := shut.run later
    refine ⟨still.closed, still.silent, List.eq_nil_iff_forall_not_mem.mpr fun l member => ?_⟩
    -- A registered link would be newer than all links.
    have late := registered_after numbered later member
    have inside : l.id ∈ (p.run (.shutdown :: later)).links.map (·.id) :=
      List.mem_map_of_mem (List.mem_of_mem_filter member)
    rw [numbered.run (.shutdown :: later), List.mem_range] at inside
    change (p.run (.shutdown :: later)).nextLink = p.nextLink at same
    omega

theorem shutsForGood_iff (numbered : p.Numbered) (distinct : p.Distinct) :
    p.ShutsForGood ↔ p.searches = 0 ∧
      ∀ l ∈ p.listeners, l.stopping = true ∨ p.keptListener = some l.id := by
  constructor
  · intro final
    refine ⟨idle_of_closed final.closed, fun l there => ?_⟩
    have asked : askToStop p.keptListener l ∈ (p.run [.shutdown]).listeners := List.mem_map_of_mem there
    exact (askToStop_stopping _ l).mp (final.asked [] _ asked).1
  · rintro ⟨idle, reached⟩
    have closing (later : List Move) := (closing_shutdown distinct idle reached).run later
    refine ⟨fun later => (closing later).closed, fun later => (closing later).asked,
      fun later id => ?_, fun later silent more => ?_, fun later l => registered_after numbered later⟩
    · rw [run_append]
      exact (closing later).ends id
    · rw [run_append]
      have shut : (p.run (.shutdown :: later)).Over :=
        ⟨(closing later).closed, (closing later).idle, silent⟩
      obtain ⟨still, same⟩ := shut.run more
      exact ⟨still.silent, same⟩

/-! ### Starts that do not overlap -/

/-- The publisher has at most one listener: the one that is kept, where the publisher says that it
listens, or one that stops. -/
structure Single (p : Publisher) : Prop where
  listener : p.listeners = [] ∧ p.endpoint? = none ∨ ∃ l, p.listeners = [l] ∧
    (p.phase = .listening l.endpoint ∧ l.stopping = false ∧ p.keptListener = some l.id ∨
      p.phase = .closed ∧ l.stopping = true)
  alone : p.searches ≠ 0 → p.searches = 1 ∧ p.phase = .searching

/-- A publisher is not started or shut down while a call to start is under way. -/
def Alone (p : Publisher) (moves : List Move) : Prop :=
  ∀ earlier move later, moves = earlier ++ move :: later → move = .beginStart ∨ move = .shutdown →
    (p.run earlier).searches = 0

theorem Single.silent (single : p.Single) (unclosed : p.phase ≠ .closed) (opened : p.endpoint? = none) :
    p.listeners = [] := by
  rcases single.listener with ⟨silent, -⟩ | ⟨l, -, ⟨listening, -⟩ | ⟨closed, -⟩⟩
  · exact silent
  · rw [endpoint?, listening] at opened
    cases opened
  · exact absurd closed unclosed

theorem Single.unlistening {q : Publisher} (silent : q.listeners = []) (opened : q.endpoint? = none)
    (alone : q.searches ≠ 0 → q.searches = 1 ∧ q.phase = .searching) : q.Single :=
  ⟨.inl ⟨silent, opened⟩, alone⟩

theorem Single.searching (single : p.Single) (busy : p.searches ≠ 0) :
    p.searches = 1 ∧ p.endpoint? = none ∧ p.listeners = [] := by
  obtain ⟨one, searching⟩ := single.alone busy
  have opened : p.endpoint? = none := by rw [endpoint?, searching]
  refine ⟨one, opened, single.silent ?_ opened⟩
  rw [searching]
  exact PublisherPhase.noConfusion

theorem Single.aside {q : Publisher} (single : p.Single) (alike : p.OpenAlike q)
    (listens : p.Listens move q) (aside : move.turns = false) : q.Single := by
  have opened : q.endpoint? = p.endpoint? := by rw [endpoint?, endpoint?, alike.phase]
  refine ⟨?_, by rw [alike.searches, alike.phase]; exact single.alone⟩
  rw [alike.phase, opened]
  cases listens with
  | aside listeners next kept =>
    rw [listeners, kept]
    exact single.listener
  | opens => cases aside
  | asks => cases aside
  | goesOn listeners keeps _ next kept =>
    rw [listeners, kept]
    rcases single.listener with ⟨silent, none⟩ | ⟨l, only, which⟩
    · exact .inl ⟨by rw [silent, List.map_nil], none⟩
    · obtain ⟨taken, eq⟩ := keeps l
      exact .inr ⟨{ l with taken := taken }, by rw [only, List.map_singleton, eq], which⟩
  | @stops id _ listeners next kept =>
    rw [listeners, kept]
    rcases single.listener with ⟨silent, none⟩ | ⟨l, only, which⟩
    · exact .inl ⟨by rw [silent, List.filter_nil], none⟩
    · rw [only, List.filter_cons, List.filter_nil]
      split
      · exact .inr ⟨l, rfl, which⟩
      · rename_i stopped
        rcases which with ⟨-, going, -⟩ | ⟨closed, -⟩
        · rw [going] at stopped
          simp at stopped
        · exact .inl ⟨rfl, by rw [endpoint?, closed]⟩

theorem Single.step (single : p.Single)
    (alone : move = .beginStart ∨ move = .shutdown → p.searches = 0) : (p.step move).Single := by
  cases move with
  | beginStart =>
    have idle := alone (.inl rfl)
    cases listening : p.endpoint? with
    | some endpoint =>
      rw [beginStart_listening listening]
      exact single
    | none =>
      by_cases closed : p.phase = .closed
      · rw [beginStart_closed closed]
        exact single
      · rw [beginStart_eq listening closed]
        exact .unlistening (single.silent closed listening) rfl fun _ => ⟨congrArg (· + 1) idle, rfl⟩
  | finishStart found =>
    by_cases idle : p.searches = 0
    · rw [finishStart_none idle]
      exact single
    · obtain ⟨one, -, silent⟩ := single.searching idle
      have last : ¬ p.searches - 1 ≠ 0 := by rw [one]; decide
      cases found with
      | ok endpoint =>
        rw [finishStart_bound idle]
        refine ⟨.inr ⟨p.newest endpoint, ?_, .inl ⟨rfl, rfl, rfl⟩⟩, fun more => (last more).elim⟩
        exact congrArg (· ++ [p.newest endpoint]) silent
      | error e =>
        rw [finishStart_failed idle]
        exact .unlistening silent rfl fun more => (last more).elim
  | abandonStart =>
    by_cases idle : p.searches = 0
    · exact ⟨single.listener, fun more => absurd (show p.searches - 1 = 0 by omega) more⟩
    · obtain ⟨one, opened, silent⟩ := single.searching idle
      exact .unlistening silent opened fun more => absurd (show p.searches - 1 = 0 by omega) more
  | shutdown =>
    refine ⟨?_, fun busy => (busy (alone (.inr rfl))).elim⟩
    rcases single.listener with ⟨silent, -⟩ | ⟨l, only, which⟩
    · exact .inl ⟨List.map_eq_nil_iff.mpr silent, rfl⟩
    · have asked : (askToStop p.keptListener l).stopping = true := by
        rw [askToStop_stopping]
        rcases which with ⟨-, -, kept⟩ | ⟨-, stopping⟩
        · exact .inr kept
        · exact .inl stopping
      refine .inr ⟨askToStop p.keptListener l, ?_, .inr ⟨rfl, asked⟩⟩
      show p.listeners.map (askToStop p.keptListener) = _
      rw [only, List.map_singleton]
  | _ => exact single.aside (step_openAlike rfl) (p.step_listens _) rfl

theorem Single.run {moves : List Move} (single : p.Single) (alone : p.Alone moves) :
    (p.run moves).Single := by
  induction moves generalizing p with
  | nil => exact single
  | cons move moves ih =>
    refine ih (single.step (alone [] move moves rfl)) fun earlier other later same => ?_
    rw [same] at alone
    exact alone (move :: earlier) other later rfl

/-- The listeners that were not asked to stop are where the publisher says that it listens. -/
theorem Single.listens (single : p.Single) : p.listeners.length ≤ 1 ∧
    (p.listeners.filter (!·.stopping)).map (·.endpoint) = p.endpoint?.toList ∧
    ∀ l ∈ p.listeners, l.stopping = true ∨ p.keptListener = some l.id := by
  rcases single.listener with ⟨silent, none⟩ | ⟨l, only, ⟨listening, going, kept⟩ | ⟨closed, stopping⟩⟩
  · rw [silent, none]
    exact ⟨Nat.zero_le 1, rfl, List.forall_mem_nil _⟩
  · rw [only, endpoint?, listening]
    exact ⟨Nat.le_refl 1, by simp [going], List.forall_mem_singleton.mpr (.inr kept)⟩
  · rw [only, endpoint?, closed]
    exact ⟨Nat.le_refl 1, by simp [stopping], List.forall_mem_singleton.mpr (.inl stopping)⟩

/-- Whatever has happened, a shutdown ends everything at once exactly if no call to start is under way and
nobody listens. It is final, with the listeners stopping by and by, exactly if no call to start is under
way and no listener was left behind. A publisher that is never started or shut down during a start has at
most one listener, and a shutdown of it is final. -/
theorem final_shutdown (callerId topic : String) (type : MessageType)
    (settings : PublisherSettings) (moves : List Move) :
    let start := new callerId topic type settings
    let p := start.run moves
    (p.ShutsAtOnce ↔ p.searches = 0 ∧ p.listeners = []) ∧
      (p.ShutsForGood ↔
        p.searches = 0 ∧ ∀ l ∈ p.listeners, l.stopping = true ∨ p.keptListener = some l.id) ∧
      (start.Alone moves → p.listeners.length ≤ 1 ∧
        (p.listeners.filter (!·.stopping)).map (·.endpoint) = p.endpoint?.toList ∧
        (p.searches = 0 → p.ShutsForGood)) := by
  intro start p
  have numbered : p.Numbered := (numbered_new callerId topic type settings).run moves
  have distinct : start.Distinct := ⟨List.nodup_nil, List.forall_mem_nil _⟩
  have single : start.Single := .unlistening rfl rfl fun busy => absurd rfl busy
  have final := shutsForGood_iff numbered (distinct.run moves)
  refine ⟨shutsAtOnce_iff numbered, final, fun alone => ?_⟩
  obtain ⟨few, listening, reached⟩ := (single.run alone).listens
  exact ⟨few, listening, fun idle => final.mpr ⟨idle, reached⟩⟩

/-- A start that was under way when the publisher was shut down opens it again; the first of two listeners
outlives a shutdown; and a listener that had taken a connection when it was asked to stop registers it. -/
theorem reopened :
    let type : MessageType := ⟨"std_msgs/Empty", some "std_msgs", "Empty", "", "", []⟩
    let p := new "/talker" "/chatter" type {}
    let q := p.run [.beginStart, .shutdown, .finishStart (.ok ⟨"127.0.0.1", 9000⟩),
      .take 0 ⟨"127.0.0.1", 50000⟩, .register 0]
    let r := p.run [.beginStart, .beginStart, .finishStart (.ok ⟨"127.0.0.1", 9000⟩),
      .finishStart (.ok ⟨"127.0.0.1", 9001⟩)]
    let s := p.run [.beginStart, .finishStart (.ok ⟨"127.0.0.1", 9000⟩), .take 0 ⟨"127.0.0.1", 50000⟩,
      .shutdown, .register 0]
    (q.phase = .listening ⟨"127.0.0.1", 9000⟩ ∧ q.registered.length = 1) ∧
      (r.listeners.map (·.endpoint) = [⟨"127.0.0.1", 9000⟩, ⟨"127.0.0.1", 9001⟩] ∧
        ((r.step .shutdown).listeners.filter (!·.stopping)).map (·.endpoint) = [⟨"127.0.0.1", 9000⟩]) ∧
      s.phase = .closed ∧ s.listeners.length = 1 ∧ s.registered.length = 1 := by
  decide +kernel

end Publisher

end TopicWire
