import TopicWire.Proofs.Session.Lines
import TopicWire.Session.Node

/-!
# Rounds of a node

In a round everyone makes its own moves and everything on its way arrives (`Node.Joins.round`). The rounds
of `Node.settle` are enough: after them nothing moves (`Node.settle_still`), and what did not move before
them stays as it is.
-/

namespace TopicWire

theorem foldl_modify {α : Type} (f : α → α) (as : List α) :
    (List.range as.length).foldl (fun as i => as.modify i f) as = as.map f := by
  have upTo (k i : Nat) : ((List.range k).foldl (fun as i => as.modify i f) as)[i]? =
      if i < k then as[i]?.map f else as[i]? := by
    induction k with
    | zero => simp
    | succ k ih =>
      rw [List.range_succ, List.foldl_append, List.foldl_cons, List.foldl_nil, List.getElem?_modify, ih]
      rcases Nat.lt_trichotomy i k with less | rfl | more
      · have other : k ≠ i := by omega
        have under : i < k + 1 := by omega
        simp [less, other, under]
      · simp
      · have other : k ≠ i := by omega
        have beyond : ¬ i < k := by omega
        have far : ¬ i < k + 1 := by omega
        simp [beyond, other, far]
  refine List.ext_getElem? fun i => ?_
  rw [upTo, List.getElem?_map]
  split
  · rfl
  · rename_i outside
    rw [List.getElem?_eq_none_iff.mpr (Nat.not_lt.mp outside)]
    rfl

theorem mem_flatMap_modify {α β : Type} {f : α → α} {g : α → List β} (grows : ∀ a, g a ⊆ g (f a))
    {as : List α} {i : Nat} {b : β} :
    b ∈ (as.modify i f).flatMap g ↔ b ∈ as.flatMap g ∨ ∃ a, as[i]? = some a ∧ b ∈ g (f a) := by
  simp only [List.mem_flatMap]
  constructor
  · rintro ⟨a, member, there⟩
    obtain ⟨j, found⟩ := List.mem_iff_getElem?.mp member
    rw [List.getElem?_modify] at found
    obtain ⟨a', found', rfl⟩ := Option.map_eq_some_iff.mp found
    by_cases here : i = j
    · subst here
      rw [if_pos rfl] at there
      exact .inr ⟨a', found', there⟩
    · rw [if_neg here] at there
      exact .inl ⟨a', List.mem_of_getElem? found', there⟩
  · rintro (⟨a, member, there⟩ | ⟨a, found, there⟩)
    · obtain ⟨j, found⟩ := List.mem_iff_getElem?.mp member
      have found' := List.getElem?_modify f i as j
      rw [found] at found'
      refine ⟨_, List.mem_of_getElem? found', ?_⟩
      split
      · exact grows a there
      · exact there
    · have found' : (as.modify i f)[i]? = some (f a) := by
        rw [List.getElem?_modify, found]
        simp
      exact ⟨f a, List.mem_of_getElem? found', there⟩

theorem flatMap_modify {α β : Type} {f : α → α} {g : α → List β} (same : ∀ a, g (f a) = g a)
    (as : List α) (i : Nat) : (as.modify i f).flatMap g = as.flatMap g := by
  have maps : (as.modify i f).map g = as.map g := by
    refine List.ext_getElem? fun j => ?_
    rw [List.getElem?_map, List.getElem?_modify, List.getElem?_map]
    cases as[j]? with
    | none => rfl
    | some a =>
      by_cases here : i = j <;> simp [here, same]
  rw [List.flatMap_def, maps, List.flatMap_def]

/-- What nothing on the way changes is the same in the end. -/
theorem foldl_keeps {σ α β : Type} {step : σ → α → σ} (view : σ → β)
    (keeps : ∀ s a, view (step s a) = view s) (s : σ) (as : List α) :
    view (as.foldl step s) = view s := by
  induction as generalizing s with
  | nil => rfl
  | cons a as ih => exact (ih _).trans (keeps s a)

theorem rel_refl {α : Type} {r : α → α → Prop} (stays : ∀ a, r a a) (x : Option α) :
    Option.Rel r x x := by
  cases x with
  | none => exact .none
  | some a => exact .some (stays a)

theorem rel_imp {α : Type} {r r' : α → α → Prop} (weaker : ∀ {a b}, r a b → r' a b) {x y : Option α}
    (rel : Option.Rel r x y) : Option.Rel r' x y := by
  cases rel with
  | none => exact .none
  | some before => exact .some (weaker before)

theorem exists_of_rel {α : Type} {r : α → α → Prop} {a : α} {y : Option α}
    (rel : Option.Rel r (some a) y) : ∃ b, y = some b ∧ r a b := by
  cases rel with
  | some after => exact ⟨_, rfl, after⟩

theorem length_of_rel {α : Type} {r : α → α → Prop} {as bs : List α}
    (rel : ∀ i : Nat, Option.Rel r as[i]? bs[i]?) : as.length = bs.length := by
  have outside (i : Nat) : as.length ≤ i ↔ bs.length ≤ i := by
    rw [← List.getElem?_eq_none_iff, ← List.getElem?_eq_none_iff]
    have there := rel i
    generalize as[i]? = x at there ⊢
    generalize bs[i]? = y at there ⊢
    cases there with
    | none => exact Iff.rfl
    | some => exact ⟨fun none => (by cases none), fun none => (by cases none)⟩
  exact Nat.le_antisymm ((outside _).mpr (Nat.le_refl _)) ((outside _).mp (Nat.le_refl _))

theorem rel_trans {α : Type} {r : α → α → Prop} (trans : ∀ {a b c}, r a b → r b c → r a c)
    {x y z : Option α} (first : Option.Rel r x y) (second : Option.Rel r y z) : Option.Rel r x z := by
  cases first with
  | none => exact second
  | some before =>
    cases second with
    | some after => exact .some (trans before after)

theorem rel_modify {α : Type} {r : α → α → Prop} {f : α → α} (stays : ∀ a, r a a)
    (changes : ∀ a, r a (f a)) {as : List α} {i j : Nat} :
    Option.Rel r as[j]? (as.modify i f)[j]? := by
  rw [List.getElem?_modify]
  cases as[j]? with
  | none => exact .none
  | some a =>
    refine .some ?_
    split
    · exact changes a
    · exact stays a

namespace Node

variable {n n' : Node} {number id place : Nat}

/-! ### Finding links and connections -/

def link? (n : Node) (number id : Nat) : Option Link :=
  n.publishers[number]?.bind (·.link? id)

def connection? (n : Node) (number id : Nat) : Option Connection :=
  n.subscribers[number]?.bind (·.connection? id)

/-- Both ends of the pipe at a place. -/
structure Joins (n : Node) (place publisher subscriber : Nat) (x : Line) : Prop where
  pipe : n.pipes[place]? = some ⟨publisher, subscriber, x.pipe⟩
  link : n.link? publisher x.pipe.link = some x.link
  connection : n.connection? subscriber x.pipe.connection = some x.connection

/-- What the pipes join. -/
def routes (n : Node) : List ((Nat × Nat) × Nat × Nat) :=
  n.pipes.map fun np => ((np.publisher, np.pipe.link), np.subscriber, np.pipe.connection)

/-- Every pipe has a link and a connection of its own. -/
structure Wired (n : Node) : Prop where
  publishers : ∀ p ∈ n.publishers, p.Numbered
  subscribers : ∀ s ∈ n.subscribers, s.Numbered ∧ 0 < s.events.capacity
  joined : ∀ route ∈ n.routes, (∃ l, n.link? route.1.1 route.1.2 = some l) ∧
    ∃ c, n.connection? route.2.1 route.2.2 = some c
  links : (n.routes.map Prod.fst).Nodup
  connections : (n.routes.map Prod.snd).Nodup

theorem Joins.route {publisher subscriber : Nat} {x : Line} (joins : n.Joins place publisher subscriber x) :
    n.routes[place]? = some ((publisher, x.pipe.link), subscriber, x.pipe.connection) := by
  rw [routes, List.getElem?_map, joins.pipe, Option.map_some]

theorem Wired.joins (wired : n.Wired) {np : NodePipe} (found : n.pipes[place]? = some np) :
    ∃ x, n.Joins place np.publisher np.subscriber x := by
  have member : ((np.publisher, np.pipe.link), np.subscriber, np.pipe.connection) ∈ n.routes :=
    List.mem_map.mpr ⟨np, List.mem_of_getElem? found, rfl⟩
  obtain ⟨⟨l, link⟩, c, connection⟩ := wired.joined _ member
  exact ⟨⟨np.pipe, l, c⟩, found, link, connection⟩

/-! ### Changing one participant -/

theorem endSessions_sessions (n : Node) (hooks : List CloseHook) :
    (n.endSessions hooks).sessions =
      ⟨n.sessions.sessions.filter fun s => .endSession s.id ∉ hooks, n.sessions.nextId⟩ := by
  unfold endSessions
  generalize n.sessions = sessions
  induction hooks generalizing sessions with
  | nil => simp
  | cons hook hooks ih =>
    rw [List.foldl_cons]
    dsimp only at ih ⊢
    rw [ih]
    cases hook with
    | user k => simp
    | endSession id =>
      simp only [SessionSet.remove, List.filter_filter]
      congr 1
      refine List.filter_congr fun s _ => ?_
      by_cases same : s.id = id <;> simp [same]

section change

variable (number : Nat) (change : Publisher → Publisher) (change' : Subscriber → Subscriber)

theorem changePublisher_publishers :
    (n.changePublisher number change).publishers = n.publishers.modify number change := by
  rw [changePublisher, List.modify_eq_set_getElem?]
  cases n.publishers[number]? <;> rfl

theorem changePublisher_others :
    (n.changePublisher number change).subscribers = n.subscribers ∧
      (n.changePublisher number change).pipes = n.pipes := by
  rw [changePublisher]
  cases n.publishers[number]? <;> exact ⟨rfl, rfl⟩

theorem changeSubscriber_subscribers :
    (n.changeSubscriber number change').subscribers = n.subscribers.modify number change' := by
  rw [changeSubscriber, List.modify_eq_set_getElem?]
  cases n.subscribers[number]? <;> rfl

theorem changeSubscriber_others :
    (n.changeSubscriber number change').publishers = n.publishers ∧
      (n.changeSubscriber number change').pipes = n.pipes := by
  rw [changeSubscriber]
  cases n.subscribers[number]? <;> exact ⟨rfl, rfl⟩

theorem routes_changePublisher : (n.changePublisher number change).routes = n.routes := by
  unfold routes
  rw [(changePublisher_others number change).2]

theorem routes_changeSubscriber : (n.changeSubscriber number change').routes = n.routes := by
  unfold routes
  rw [(changeSubscriber_others number change').2]

end change

theorem settleSubscriber_eq (n : Node) (number : Nat) : ∃ told, n.settleSubscriber number =
    { n.changeSubscriber number fun s => s.settle.2 with told := told } := by
  rw [settleSubscriber, changeSubscriber]
  cases n.subscribers[number]? with
  | none => exact ⟨n.told, rfl⟩
  | some s => exact ⟨_, rfl⟩

/-! ### Moves of their own -/

def rested (n : Node) : Node :=
  let n := (List.range n.publishers.length).foldl
    (fun n number => n.changePublisher number Publisher.settle) n
  (List.range n.subscribers.length).foldl settleSubscriber n

theorem rested_publishers (n : Node) : n.rested.publishers = n.publishers.map Publisher.settle := by
  rw [rested, ← foldl_modify]
  refine (foldl_keeps Node.publishers (fun n number => ?_) _ _).trans ?_
  · obtain ⟨told, eq⟩ := n.settleSubscriber_eq number
    rw [eq]
    exact (changeSubscriber_others number _).1
  · exact (List.foldl_hom Node.publishers fun n number =>
      (changePublisher_publishers number Publisher.settle).symm).symm

theorem rested_subscribers (n : Node) :
    n.rested.subscribers = n.subscribers.map fun s => s.settle.2 := by
  have same : ((List.range n.publishers.length).foldl
      (fun n number => n.changePublisher number Publisher.settle) n).subscribers = n.subscribers :=
    foldl_keeps Node.subscribers (fun n number => (changePublisher_others number _).1) n _
  rw [rested, ← same, ← foldl_modify]
  refine (List.foldl_hom Node.subscribers fun n number => ?_).symm
  obtain ⟨told, eq⟩ := n.settleSubscriber_eq number
  rw [eq]
  exact (changeSubscriber_subscribers number _).symm

theorem rested_pipes (n : Node) : n.rested.pipes = n.pipes := by
  refine (foldl_keeps Node.pipes (fun n number => ?_) _ _).trans
    (foldl_keeps Node.pipes (fun n number => (changePublisher_others number _).2) n _)
  obtain ⟨told, eq⟩ := n.settleSubscriber_eq number
  rw [eq]
  exact (changeSubscriber_others number _).2

theorem round_eq (n : Node) : n.round = (List.range n.pipes.length).foldl carry n.rested := by
  rw [← n.rested_pipes]
  rfl

/-! ### What a node goes on to be -/

def hooksRun (n : Node) : List CloseHook :=
  n.publishers.flatMap (·.ran) ++ n.subscribers.flatMap (·.ran)

/-- Exactly the sessions whose hooks have run since are taken off. -/
def Clears (n n' : Node) : Prop :=
  ∃ ended : List CloseHook,
    n'.sessions = ⟨n.sessions.sessions.filter fun s => .endSession s.id ∉ ended, n.sessions.nextId⟩ ∧
      ∀ hook, hook ∈ n'.hooksRun ↔ hook ∈ n.hooksRun ∨ hook ∈ ended

theorem Clears.of_same (sessions : n'.sessions = n.sessions)
    (hooks : ∀ hook, hook ∈ n'.hooksRun ↔ hook ∈ n.hooksRun) : n.Clears n' := by
  refine ⟨[], ?_, fun hook => ?_⟩
  · rw [sessions]
    simp
  · rw [hooks]
    simp

theorem Clears.trans {n'' : Node} (first : n.Clears n') (second : n'.Clears n'') : n.Clears n'' := by
  obtain ⟨ended, left, ran⟩ := first
  obtain ⟨ended', left', ran'⟩ := second
  refine ⟨ended ++ ended', ?_, fun hook => ?_⟩
  · rw [left', left]
    simp only [List.filter_filter]
    congr 1
    refine List.filter_congr fun s _ => ?_
    simp only [List.mem_append, not_or, Bool.decide_and, Bool.and_comm]
  · rw [ran', ran, List.mem_append, or_assoc]

theorem clears_changePublisher {change : Publisher → Publisher}
    (grows : ∀ p : Publisher, p.ran ⊆ (change p).ran) (n : Node) (number : Nat) :
    n.Clears (n.changePublisher number change) := by
  have ran (hook : CloseHook) : hook ∈ (n.changePublisher number change).hooksRun ↔
      hook ∈ n.hooksRun ∨ ∃ p, n.publishers[number]? = some p ∧ hook ∈ (change p).ran := by
    simp only [hooksRun, changePublisher_publishers, (changePublisher_others number change).1,
      List.mem_append, mem_flatMap_modify grows, or_right_comm]
  cases found : n.publishers[number]? with
  | none =>
    have same : n.changePublisher number change = n := by simp only [changePublisher, found]
    rw [same]
    exact .of_same rfl fun _ => Iff.rfl
  | some p =>
    refine ⟨(change p).ran, ?_, fun hook => ?_⟩
    · simp only [changePublisher, found]
      exact endSessions_sessions _ _
    · rw [ran, found]
      simp

theorem clears_changeSubscriber {change : Subscriber → Subscriber}
    (grows : ∀ s : Subscriber, s.ran ⊆ (change s).ran) (n : Node) (number : Nat) :
    n.Clears (n.changeSubscriber number change) := by
  have ran (hook : CloseHook) : hook ∈ (n.changeSubscriber number change).hooksRun ↔
      hook ∈ n.hooksRun ∨ ∃ s, n.subscribers[number]? = some s ∧ hook ∈ (change s).ran := by
    simp only [hooksRun, changeSubscriber_subscribers, (changeSubscriber_others number change).1,
      List.mem_append, mem_flatMap_modify grows, or_assoc]
  cases found : n.subscribers[number]? with
  | none =>
    have same : n.changeSubscriber number change = n := by simp only [changeSubscriber, found]
    rw [same]
    exact .of_same rfl fun _ => Iff.rfl
  | some s =>
    refine ⟨(change s).ran, ?_, fun hook => ?_⟩
    · simp only [changeSubscriber, found]
      exact endSessions_sessions _ _
    · rw [ran, found]
      simp

/-- A node after moves of those it has. -/
structure Evolves (n n' : Node) : Prop where
  publishers : ∀ number : Nat, Option.Rel Publisher.Serves n.publishers[number]? n'.publishers[number]?
  subscribers : ∀ number : Nat,
    Option.Rel Subscriber.Ordinary n.subscribers[number]? n'.subscribers[number]?
  sessions : n.Clears n'

/-- A node after ordinary moves of those it has, joined as they were. -/
structure Follows (n n' : Node) : Prop where
  publishers : ∀ number : Nat, Option.Rel Publisher.Ordinary n.publishers[number]? n'.publishers[number]?
  subscribers : ∀ number : Nat,
    Option.Rel Subscriber.Ordinary n.subscribers[number]? n'.subscribers[number]?
  routes : n'.routes = n.routes
  sessions : n.Clears n'

theorem Follows.evolves (follows : n.Follows n') : n.Evolves n' :=
  ⟨fun number => rel_imp (fun ordinary => Publisher.Ordinary.serves ordinary) (follows.publishers number),
    follows.subscribers, follows.sessions⟩

theorem Evolves.changePublisher {change : Publisher → Publisher}
    (serves : ∀ p : Publisher, p.Serves (change p)) (n : Node) (number : Nat) :
    n.Evolves (n.changePublisher number change) := by
  refine ⟨fun i => ?_, fun i => ?_, clears_changePublisher (fun p => (serves p).ran_subset) n number⟩
  · rw [changePublisher_publishers]
    exact rel_modify .refl serves
  · rw [(changePublisher_others number change).1]
    exact rel_refl .refl _

theorem Evolves.changeSubscriber {change : Subscriber → Subscriber}
    (ordinary : ∀ s : Subscriber, s.Ordinary (change s)) (n : Node) (number : Nat) :
    n.Evolves (n.changeSubscriber number change) := by
  refine ⟨fun i => ?_, fun i => ?_, clears_changeSubscriber (fun s => (ordinary s).ran_subset) n number⟩
  · rw [(changeSubscriber_others number change).1]
    exact rel_refl .refl _
  · rw [changeSubscriber_subscribers]
    exact rel_modify .refl ordinary

theorem Follows.refl (n : Node) : n.Follows n :=
  ⟨fun _ => rel_refl .refl _, fun _ => rel_refl .refl _, rfl, .of_same rfl fun _ => Iff.rfl⟩

theorem Follows.trans {n'' : Node} (first : n.Follows n') (second : n'.Follows n'') : n.Follows n'' :=
  ⟨fun number => rel_trans .trans (first.publishers number) (second.publishers number),
    fun number => rel_trans .trans (first.subscribers number) (second.subscribers number),
    second.routes.trans first.routes, first.sessions.trans second.sessions⟩

theorem Evolves.refl (n : Node) : n.Evolves n :=
  (Follows.refl n).evolves

theorem Evolves.trans {n'' : Node} (first : n.Evolves n') (second : n'.Evolves n'') : n.Evolves n'' :=
  ⟨fun number => rel_trans .trans (first.publishers number) (second.publishers number),
    fun number => rel_trans .trans (first.subscribers number) (second.subscribers number),
    first.sessions.trans second.sessions⟩

theorem Follows.changePublisher {change : Publisher → Publisher}
    (ordinary : ∀ p : Publisher, p.Ordinary (change p)) (n : Node) (number : Nat) :
    n.Follows (n.changePublisher number change) := by
  have evolves := Evolves.changePublisher (fun p => (ordinary p).serves) n number
  refine ⟨fun i => ?_, evolves.subscribers, routes_changePublisher number change, evolves.sessions⟩
  rw [changePublisher_publishers]
  exact rel_modify .refl ordinary

theorem Follows.changeSubscriber {change : Subscriber → Subscriber}
    (ordinary : ∀ s : Subscriber, s.Ordinary (change s)) (n : Node) (number : Nat) :
    n.Follows (n.changeSubscriber number change) := by
  have evolves := Evolves.changeSubscriber ordinary n number
  refine ⟨fun i => ?_, evolves.subscribers, routes_changeSubscriber number change, evolves.sessions⟩
  rw [(changeSubscriber_others number change).1]
  exact rel_refl .refl _

theorem Evolves.publisher (evolves : n.Evolves n') {p : Publisher} (found : n.publishers[number]? = some p) :
    ∃ q, n'.publishers[number]? = some q ∧ p.Serves q :=
  exists_of_rel (found ▸ evolves.publishers number)

theorem Evolves.subscriber (evolves : n.Evolves n') {s : Subscriber}
    (found : n.subscribers[number]? = some s) :
    ∃ t, n'.subscribers[number]? = some t ∧ s.Ordinary t :=
  exists_of_rel (found ▸ evolves.subscribers number)

theorem Evolves.link? (evolves : n.Evolves n') {l : Link} (found : n.link? number id = some l) :
    ∃ l', n'.link? number id = some l' := by
  obtain ⟨p, foundP, found⟩ := Option.bind_eq_some_iff.mp found
  obtain ⟨q, foundQ, serves⟩ := evolves.publisher foundP
  obtain ⟨l', found'⟩ := serves.keeps (motive := fun q => ∃ l', q.link? id = some l') ⟨l, found⟩
    fun q move _ there => by
      obtain ⟨l', found'⟩ := there
      exact (Publisher.link?_step found' move).imp fun _ => And.left
  exact ⟨l', Option.bind_eq_some_iff.mpr ⟨q, foundQ, found'⟩⟩

/-- What every move leaves of a connection is left of it. -/
theorem Evolves.connection_keeps {motive : Connection → Prop} (evolves : n.Evolves n') {c : Connection}
    (found : n.connection? number id = some c) (start : motive c)
    (keeps : ∀ {s : Subscriber} {c c' move}, c.Change s move c' → motive c → motive c') :
    ∃ c', n'.connection? number id = some c' ∧ motive c' := by
  obtain ⟨s, foundS, found⟩ := Option.bind_eq_some_iff.mp found
  obtain ⟨t, foundT, ordinary⟩ := evolves.subscriber foundS
  obtain ⟨c', found', held⟩ := ordinary.keeps
    (motive := fun t => ∃ c', t.connection? id = some c' ∧ motive c') ⟨c, found, start⟩
    fun t move _ there => by
      obtain ⟨c', found', held⟩ := there
      obtain ⟨c'', found'', change⟩ := Subscriber.connection?_step found' move
      exact ⟨c'', found'', keeps change held⟩
  exact ⟨c', Option.bind_eq_some_iff.mpr ⟨t, foundT, found'⟩, held⟩

theorem Evolves.connection? (evolves : n.Evolves n') {c : Connection}
    (found : n.connection? number id = some c) : ∃ c', n'.connection? number id = some c' := by
  obtain ⟨c', found', -⟩ := evolves.connection_keeps (motive := fun _ => True) found trivial fun _ _ => trivial
  exact ⟨c', found'⟩

theorem Follows.link?_back (follows : n.Follows n') (wired : n.Wired) {l : Link}
    (found : n'.link? number id = some l) : ∃ l', n.link? number id = some l' := by
  have later := follows.publishers number
  unfold Node.link? at found ⊢
  generalize before : n.publishers[number]? = x at later
  generalize n'.publishers[number]? = after at later found
  cases later with
  | none => cases found
  | some ordinary => exact ordinary.link?_back (wired.publishers _ (List.mem_of_getElem? before)) found

theorem Follows.connection?_back (follows : n.Follows n') (wired : n.Wired) {c : Connection}
    (found : n'.connection? number id = some c) : ∃ c', n.connection? number id = some c' := by
  have later := follows.subscribers number
  unfold Node.connection? at found ⊢
  generalize before : n.subscribers[number]? = x at later
  generalize n'.subscribers[number]? = after at later found
  cases later with
  | none => cases found
  | some ordinary =>
    exact ordinary.connection?_back (wired.subscribers _ (List.mem_of_getElem? before)).1 found

/-- Moves of those that the node has leave everyone joined; a pipe may come between two of them. -/
theorem Wired.evolves (wired : n.Wired) (evolves : n.Evolves n')
    (joined : ∀ route ∈ n'.routes, (∃ l, n'.link? route.1.1 route.1.2 = some l) ∧
      ∃ c, n'.connection? route.2.1 route.2.2 = some c)
    (links : (n'.routes.map Prod.fst).Nodup) (connections : (n'.routes.map Prod.snd).Nodup) :
    n'.Wired := by
  refine ⟨fun p member => ?_, fun s member => ?_, joined, links, connections⟩
  · obtain ⟨number, found⟩ := List.mem_iff_getElem?.mp member
    have later := evolves.publishers number
    rw [found] at later
    generalize before : n.publishers[number]? = x at later
    cases later with
    | some serves =>
      exact serves.keeps (wired.publishers _ (List.mem_of_getElem? before))
        fun q move _ numbered => numbered.step move
  · obtain ⟨number, found⟩ := List.mem_iff_getElem?.mp member
    have later := evolves.subscribers number
    rw [found] at later
    generalize before : n.subscribers[number]? = x at later
    cases later with
    | some ordinary =>
      refine ordinary.keeps (motive := fun t => t.Numbered ∧ 0 < t.events.capacity)
        (wired.subscribers _ (List.mem_of_getElem? before)) fun t move _ held => ⟨held.1.step move, ?_⟩
      rw [t.step_capacity]
      exact held.2

theorem Wired.same (wired : n.Wired) (evolves : n.Evolves n') (routes : n'.routes = n.routes) :
    n'.Wired := by
  refine wired.evolves evolves (fun route member => ?_) (routes ▸ wired.links)
    (routes ▸ wired.connections)
  rw [routes] at member
  obtain ⟨⟨l, link⟩, c, connection⟩ := wired.joined route member
  exact ⟨evolves.link? link, evolves.connection? connection⟩

theorem Wired.follows (wired : n.Wired) (follows : n.Follows n') : n'.Wired :=
  wired.same follows.evolves follows.routes

/-! ### Everything in a pipe arrives -/

variable {publisher subscriber : Nat} {x : Line}

theorem carry_none (absent : n.pipes[place]? = none) : n.carry place = n := by
  rw [carry, absent]

theorem carry_eq (joins : n.Joins place publisher subscriber x) :
    n.carry place = { n with
      publishers := n.publishers.modify publisher (·.run x.upMoves)
      subscribers := n.subscribers.modify subscriber (·.run x.downMoves)
      pipes := n.pipes.set place ⟨publisher, subscriber, x.carried.pipe⟩ } := by
  obtain ⟨pipe, link, connection⟩ := joins
  unfold Node.link? at link
  unfold Node.connection? at connection
  obtain ⟨p, foundP, link⟩ := Option.bind_eq_some_iff.mp link
  obtain ⟨s, foundS, connection⟩ := Option.bind_eq_some_iff.mp connection
  simp only [carry, pipe, foundP, foundS, Line.carryAll_eq link connection,
    List.modify_eq_set_getElem?, Option.map_eq_map, Option.map_some, Option.getD_some]

theorem carry_follows (wired : n.Wired) (place : Nat) : n.Follows (n.carry place) := by
  cases found : n.pipes[place]? with
  | none =>
    rw [carry_none found]
    exact .refl n
  | some np =>
    obtain ⟨x, joins⟩ := wired.joins found
    rw [carry_eq joins]
    have up (p : Publisher) : p.Ordinary (p.run x.upMoves) := by
      refine ⟨_, rfl, ?_⟩
      unfold Line.upMoves
      split <;> simp [Publisher.Move.isOrdinary]
    have down (s : Subscriber) : s.Ordinary (s.run x.downMoves) := by
      refine ⟨_, rfl, ?_⟩
      unfold Line.downMoves
      split <;> simp [Subscriber.Move.isOrdinary]
    have ranUp (p : Publisher) : (p.run x.upMoves).ran = p.ran := (up p).alike.2.2
    have ranDown (s : Subscriber) : (s.run x.downMoves).ran = s.ran := by
      unfold Line.downMoves
      split <;> rfl
    refine ⟨fun i => rel_modify .refl up, fun i => rel_modify .refl down,
      Exchange.map_set_of_same joins.pipe rfl, .of_same rfl fun hook => ?_⟩
    unfold hooksRun
    rw [flatMap_modify ranUp, flatMap_modify ranDown]

theorem Joins.carry (joins : n.Joins place publisher subscriber x) :
    (n.carry place).Joins place publisher subscriber x.carried := by
  rw [carry_eq joins]
  obtain ⟨pipe, link, connection⟩ := joins
  unfold Node.link? at link
  unfold Node.connection? at connection
  obtain ⟨p, foundP, link⟩ := Option.bind_eq_some_iff.mp link
  obtain ⟨s, foundS, connection⟩ := Option.bind_eq_some_iff.mp connection
  refine ⟨?_, ?_, ?_⟩
  · obtain ⟨inside, -⟩ := List.getElem?_eq_some_iff.mp pipe
    exact List.getElem?_set_self inside
  · simp only [Node.link?, List.getElem?_modify, foundP, if_true]
    exact Line.link?_upMoves link
  · simp only [Node.connection?, List.getElem?_modify, foundS, if_true]
    exact Line.connection?_downMoves connection

theorem link?_carry (joins : n.Joins place publisher subscriber x) {l : Link}
    (found : n.link? number id = some l) (apart : (publisher, x.pipe.link) ≠ (number, id)) :
    (n.carry place).link? number id = some l := by
  rw [carry_eq joins]
  unfold Node.link? at found ⊢
  obtain ⟨p, foundP, found⟩ := Option.bind_eq_some_iff.mp found
  simp only [List.getElem?_modify, foundP, Option.map_eq_map, Option.map_some, Option.bind_some]
  split
  · rename_i here
    have other : x.pipe.link ≠ id := fun same => apart (by rw [here, same])
    refine (Publisher.link?_run_of_leaves found fun move made => ?_).1
    unfold Line.upMoves at made
    split at made <;> simp at made
    · rw [made]
      simpa [Publisher.Move.leaves] using other
    · rcases made with rfl | rfl <;> simpa [Publisher.Move.leaves] using other
  · exact found

theorem connection?_carry (joins : n.Joins place publisher subscriber x) {c : Connection}
    (found : n.connection? number id = some c) (apart : (subscriber, x.pipe.connection) ≠ (number, id)) :
    (n.carry place).connection? number id = some c := by
  rw [carry_eq joins]
  unfold Node.connection? at found ⊢
  obtain ⟨s, foundS, found⟩ := Option.bind_eq_some_iff.mp found
  simp only [List.getElem?_modify, foundS, Option.map_eq_map, Option.map_some, Option.bind_some]
  split
  · rename_i here
    have other : x.pipe.connection ≠ id := fun same => apart (by rw [here, same])
    refine (Subscriber.connection?_run_of_leaves found fun move made => ?_).1
    unfold Line.downMoves at made
    split at made <;> simp at made
    · rw [made]
      simpa [Subscriber.Move.leaves] using other
    · rcases made with rfl | rfl <;> simpa [Subscriber.Move.leaves] using other
  · exact found

theorem Joins.carry_other (joins : n.Joins place publisher subscriber x) (wired : n.Wired) {other : Nat}
    (apart : other ≠ place) : (n.carry other).Joins place publisher subscriber x := by
  cases found : n.pipes[other]? with
  | none =>
    rw [carry_none found]
    exact joins
  | some np =>
    obtain ⟨y, joins'⟩ := wired.joins found
    obtain ⟨inside, -⟩ := List.getElem?_eq_some_iff.mp joins'.route
    have links : (np.publisher, y.pipe.link) ≠ (publisher, x.pipe.link) := by
      intro same
      refine apart ((List.getElem?_inj (by rwa [List.length_map]) wired.links).mp ?_)
      rw [List.getElem?_map, List.getElem?_map, joins'.route, joins.route]
      exact congrArg some same
    have connections : (np.subscriber, y.pipe.connection) ≠ (subscriber, x.pipe.connection) := by
      intro same
      refine apart ((List.getElem?_inj (by rwa [List.length_map]) wired.connections).mp ?_)
      rw [List.getElem?_map, List.getElem?_map, joins'.route, joins.route]
      exact congrArg some same
    refine ⟨?_, link?_carry joins' joins.link links, connection?_carry joins' joins.connection connections⟩
    rw [carry_eq joins', List.getElem?_set_ne apart]
    exact joins.pipe

/-- Everything in the first pipes arrives. -/
def carryFirst (n : Node) (count : Nat) : Node :=
  (List.range count).foldl Node.carry n

theorem carryFirst_succ (n : Node) (count : Nat) :
    n.carryFirst (count + 1) = (n.carryFirst count).carry count := by
  rw [carryFirst, List.range_succ, List.foldl_append]
  rfl

theorem carryFirst_follows (wired : n.Wired) (count : Nat) : n.Follows (n.carryFirst count) := by
  induction count with
  | zero => exact .refl n
  | succ count ih =>
    rw [carryFirst_succ]
    exact ih.trans (carry_follows (wired.follows ih) count)

theorem Joins.carryFirst (joins : n.Joins place publisher subscriber x) (wired : n.Wired) (count : Nat) :
    (n.carryFirst count).Joins place publisher subscriber (if place < count then x.carried else x) := by
  induction count with
  | zero => exact joins
  | succ count ih =>
    rw [carryFirst_succ]
    have wired' := wired.follows (carryFirst_follows wired count)
    rcases Nat.lt_trichotomy place count with less | rfl | more
    · have under : place < count + 1 := by omega
      rw [if_pos less] at ih
      rw [if_pos under]
      exact ih.carry_other wired' (by omega)
    · rw [if_neg (Nat.lt_irrefl _)] at ih
      rw [if_pos (Nat.lt_succ_self _)]
      exact ih.carry
    · have beyond : ¬ place < count := by omega
      have far : ¬ place < count + 1 := by omega
      rw [if_neg beyond] at ih
      rw [if_neg far]
      exact ih.carry_other wired' (by omega)

theorem link?_carryFirst (wired : n.Wired) {l : Link} (found : n.link? number id = some l)
    (unpiped : ∀ route ∈ n.routes, route.1 ≠ (number, id)) (count : Nat) :
    (n.carryFirst count).link? number id = some l := by
  induction count with
  | zero => exact found
  | succ count ih =>
    rw [carryFirst_succ]
    have follows := carryFirst_follows wired count
    cases there : (n.carryFirst count).pipes[count]? with
    | none => rwa [carry_none there]
    | some np =>
      obtain ⟨x, joins⟩ := (wired.follows follows).joins there
      have member := List.mem_of_getElem? joins.route
      rw [follows.routes] at member
      exact link?_carry joins ih (unpiped _ member)

theorem connection?_carryFirst (wired : n.Wired) {c : Connection}
    (found : n.connection? number id = some c)
    (unpiped : ∀ route ∈ n.routes, route.2 ≠ (number, id)) (count : Nat) :
    (n.carryFirst count).connection? number id = some c := by
  induction count with
  | zero => exact found
  | succ count ih =>
    rw [carryFirst_succ]
    have follows := carryFirst_follows wired count
    cases there : (n.carryFirst count).pipes[count]? with
    | none => rwa [carry_none there]
    | some np =>
      obtain ⟨x, joins⟩ := (wired.follows follows).joins there
      have member := List.mem_of_getElem? joins.route
      rw [follows.routes] at member
      exact connection?_carry joins ih (unpiped _ member)

/-! ### Rounds -/

theorem foldl_follows {step : Node → Nat → Node} (steps : ∀ (n : Node) i, n.Follows (step n i)) (n : Node)
    (numbers : List Nat) : n.Follows (numbers.foldl step n) := by
  induction numbers generalizing n with
  | nil => exact .refl n
  | cons i numbers ih => exact (steps n i).trans (ih _)

theorem rested_follows (n : Node) : n.Follows n.rested := by
  refine (foldl_follows (.changePublisher Publisher.settle_ordinary) n _).trans
    (foldl_follows (fun n number => ?_) _ _)
  obtain ⟨told, eq⟩ := n.settleSubscriber_eq number
  have follows := Follows.changeSubscriber Subscriber.settle_ordinary n number
  rw [eq]
  exact ⟨follows.publishers, follows.subscribers, follows.routes, follows.sessions⟩

theorem link?_rested (wired : n.Wired) {l : Link} (found : n.link? number id = some l) :
    ∃ l', l.Settles l' ∧ n.rested.link? number id = some l' := by
  unfold Node.link? at found ⊢
  obtain ⟨p, foundP, found⟩ := Option.bind_eq_some_iff.mp found
  obtain ⟨l', found', settles⟩ :=
    Publisher.settle_settles (wired.publishers p (List.mem_of_getElem? foundP)) found
  refine ⟨l', settles, ?_⟩
  rw [rested_publishers, List.getElem?_map, foundP]
  exact found'

theorem connection?_rested (wired : n.Wired) {c : Connection}
    (found : n.connection? number id = some c) :
    ∃ c', c.Settles c' ∧ n.rested.connection? number id = some c' := by
  unfold Node.connection? at found ⊢
  obtain ⟨s, foundS, found⟩ := Option.bind_eq_some_iff.mp found
  obtain ⟨numbered, room⟩ := wired.subscribers s (List.mem_of_getElem? foundS)
  obtain ⟨c', found', settles⟩ := Subscriber.settle_settles numbered room found
  refine ⟨c', settles, ?_⟩
  rw [rested_subscribers, List.getElem?_map, foundS]
  exact found'

theorem round_follows (wired : n.Wired) : n.Follows n.round := by
  rw [round_eq]
  exact n.rested_follows.trans (carryFirst_follows (wired.follows n.rested_follows) _)

theorem Joins.round (joins : n.Joins place publisher subscriber x) (wired : n.Wired) :
    ∃ y, x.Round y ∧ n.round.Joins place publisher subscriber y := by
  obtain ⟨l, settlesL, link⟩ := link?_rested wired joins.link
  obtain ⟨c, settlesC, connection⟩ := connection?_rested wired joins.connection
  obtain ⟨inside, -⟩ := List.getElem?_eq_some_iff.mp joins.pipe
  have rested : n.rested.Joins place publisher subscriber { x with link := l, connection := c } :=
    ⟨n.rested_pipes ▸ joins.pipe, link, connection⟩
  refine ⟨_, ⟨l, c, settlesL, settlesC, rfl⟩, ?_⟩
  have carried := rested.carryFirst (wired.follows n.rested_follows) n.pipes.length
  rw [if_pos inside] at carried
  rw [round_eq]
  exact carried

theorem link?_round (wired : n.Wired) {l : Link} (found : n.link? number id = some l)
    (unpiped : ∀ route ∈ n.routes, route.1 ≠ (number, id)) :
    ∃ l', l.Settles l' ∧ n.round.link? number id = some l' := by
  obtain ⟨l', settles, found'⟩ := link?_rested wired found
  have follows := n.rested_follows
  rw [round_eq]
  exact ⟨l', settles, link?_carryFirst (wired.follows follows) found' (follows.routes ▸ unpiped) _⟩

theorem connection?_round (wired : n.Wired) {c : Connection}
    (found : n.connection? number id = some c) (unpiped : ∀ route ∈ n.routes, route.2 ≠ (number, id)) :
    ∃ c', c.Settles c' ∧ n.round.connection? number id = some c' := by
  obtain ⟨c', settles, found'⟩ := connection?_rested wired found
  have follows := n.rested_follows
  rw [round_eq]
  exact ⟨c', settles, connection?_carryFirst (wired.follows follows) found' (follows.routes ▸ unpiped) _⟩

def rounds (n : Node) (count : Nat) : Node :=
  (List.range count).foldl (fun n _ => n.round) n

theorem rounds_succ (n : Node) (count : Nat) : n.rounds (count + 1) = (n.rounds count).round := by
  rw [rounds, List.range_succ, List.foldl_append]
  rfl

theorem rounds_follows (wired : n.Wired) (count : Nat) : n.Follows (n.rounds count) := by
  induction count with
  | zero => exact .refl n
  | succ count ih =>
    rw [rounds_succ]
    exact ih.trans (round_follows (wired.follows ih))

theorem settle_follows (wired : n.Wired) : n.Follows n.settle :=
  rounds_follows wired 8

/-! ### Coming to rest -/

/-- After each round a line is still, or less is left to do on it. -/
theorem Joins.rounds (joins : n.Joins place publisher subscriber x) (wired : n.Wired) (count : Nat) :
    ∃ y, (n.rounds (count + 1)).Joins place publisher subscriber y ∧ y.Carried ∧
      (∀ left, y.connection.stage ≠ .requesting left) ∧ (y.Still ∨ y.rank + count ≤ 5) := by
  induction count with
  | zero =>
    obtain ⟨y, round, joins'⟩ := joins.round wired
    exact ⟨y, joins', round.carried, round.requested, .inr y.rank_le⟩
  | succ count ih =>
    obtain ⟨y, joins', carried, requested, still⟩ := ih
    obtain ⟨z, round, joins''⟩ := joins'.round (wired.follows (rounds_follows wired _))
    rw [rounds_succ]
    refine ⟨z, joins'', round.carried, round.requested, ?_⟩
    rcases round.lowers carried requested with still | less
    · rw [still.round round]
      exact .inl still
    · rcases still with still | bound
      · rw [still.round round]
        exact .inl still
      · exact .inr (by omega)

theorem Joins.settle (joins : n.Joins place publisher subscriber x) (wired : n.Wired) :
    ∃ y, n.settle.Joins place publisher subscriber y ∧ y.Still := by
  obtain ⟨y, joins', -, -, still⟩ := joins.rounds wired 7
  refine ⟨y, joins', ?_⟩
  rcases still with still | bound
  · exact still
  · omega

theorem Joins.unique {y : Line} {publisher' subscriber' : Nat}
    (joins : n.Joins place publisher subscriber x) (joins' : n.Joins place publisher' subscriber' y) :
    publisher' = publisher ∧ subscriber' = subscriber ∧ y = x := by
  have same := Option.some.inj (joins.pipe.symm.trans joins'.pipe)
  obtain ⟨pipe, link, connection⟩ := x
  obtain ⟨pipe', link', connection'⟩ := y
  obtain ⟨rfl, rfl, rfl⟩ := NodePipe.mk.inj same
  obtain rfl : link = link' := Option.some.inj (joins.link.symm.trans joins'.link)
  obtain rfl : connection = connection' := Option.some.inj (joins.connection.symm.trans joins'.connection)
  exact ⟨rfl, rfl, rfl⟩

theorem Wired.joins_of_route (wired : n.Wired) {route : (Nat × Nat) × Nat × Nat}
    (found : n.routes[place]? = some route) : ∃ x, n.Joins place route.1.1 route.2.1 x ∧
      x.pipe.link = route.1.2 ∧ x.pipe.connection = route.2.2 := by
  unfold Node.routes at found
  rw [List.getElem?_map] at found
  obtain ⟨np, there, rfl⟩ := Option.map_eq_some_iff.mp found
  obtain ⟨x, joins⟩ := wired.joins there
  have same : np.pipe = x.pipe := congrArg NodePipe.pipe (Option.some.inj (there.symm.trans joins.pipe))
  exact ⟨x, joins, by rw [same], by rw [same]⟩

structure Still (n : Node) : Prop where
  links : ∀ number id l, n.link? number id = some l → Publisher.Link.ownMove? l = none
  connections : ∀ number id c, n.connection? number id = some c →
    Subscriber.Connection.ownMove? c = none
  pipes : ∀ place publisher subscriber x, n.Joins place publisher subscriber x → x.Carried

theorem Still.line (still : n.Still) (joins : n.Joins place publisher subscriber x) : x.Still :=
  ⟨still.pipes _ _ _ x joins, still.links _ _ _ joins.link, still.connections _ _ _ joins.connection⟩

theorem settle_still (wired : n.Wired) : n.settle.Still := by
  have before := rounds_follows wired 7
  have wired' := wired.follows before
  have last : n.settle = (n.rounds 7).round := n.rounds_succ 7
  have follows := settle_follows wired
  have line {place a b : Nat} {x : Line} (joins : n.settle.Joins place a b x) : x.Still := by
    have route := joins.route
    rw [follows.routes] at route
    obtain ⟨y, joins', -, -⟩ := wired.joins_of_route route
    obtain ⟨z, joins'', still⟩ := joins'.settle wired
    obtain ⟨-, -, rfl⟩ := joins''.unique joins
    exact still
  have piped {route : (Nat × Nat) × Nat × Nat} (member : route ∈ n.routes) :
      ∃ place x, n.settle.Joins place route.1.1 route.2.1 x ∧ x.pipe.link = route.1.2 ∧
        x.pipe.connection = route.2.2 := by
    rw [← follows.routes] at member
    obtain ⟨place, found⟩ := List.mem_iff_getElem?.mp member
    exact ⟨place, (wired.follows follows).joins_of_route found⟩
  refine ⟨fun number id l found => ?_, fun number id c found => ?_,
    fun place a b x joins => (line joins).carried⟩
  -- A link or a connection with a pipe rests with its line, any other one after each round.
  · by_cases unpiped : ∀ route ∈ n.routes, route.1 ≠ (number, id)
    · rw [last] at found
      obtain ⟨first, there⟩ := (round_follows wired').link?_back wired' found
      obtain ⟨l', settles, found'⟩ := link?_round wired' there (before.routes.symm ▸ unpiped)
      obtain rfl := Option.some.inj (found.symm.trans found')
      exact settles.rests
    · push Not at unpiped
      obtain ⟨route, member, same⟩ := unpiped
      obtain ⟨place, x, joins, link, -⟩ := piped member
      have there := joins.link
      rw [link, same, found] at there
      rw [Option.some.inj there]
      exact (line joins).link
  · by_cases unpiped : ∀ route ∈ n.routes, route.2 ≠ (number, id)
    · rw [last] at found
      obtain ⟨first, there⟩ := (round_follows wired').connection?_back wired' found
      obtain ⟨c', settles, found'⟩ := connection?_round wired' there (before.routes.symm ▸ unpiped)
      obtain rfl := Option.some.inj (found.symm.trans found')
      exact settles.rests
    · push Not at unpiped
      obtain ⟨route, member, same⟩ := unpiped
      obtain ⟨place, x, joins, -, connection⟩ := piped member
      have there := joins.connection
      rw [connection, same, found] at there
      rw [Option.some.inj there]
      exact (line joins).connection

/-! ### What stays as it is -/

/-- A connection at rest to which nothing is on its way. -/
structure Calm (n : Node) (number id : Nat) (c : Connection) : Prop where
  found : n.connection? number id = some c
  rests : Subscriber.Connection.ownMove? c = none
  line : ∀ place publisher x, n.Joins place publisher number x → x.pipe.connection = id → x.Still

theorem Still.calm (still : n.Still) {c : Connection} (found : n.connection? number id = some c) :
    n.Calm number id c :=
  ⟨found, still.connections _ _ _ found, fun _ _ _ joins _ => still.line joins⟩

theorem Calm.round {c : Connection} (calm : n.Calm number id c) (wired : n.Wired) :
    n.round.Calm number id c := by
  have follows := round_follows wired
  have line {place publisher : Nat} {x : Line} (joins : n.Joins place publisher number x)
      (same : x.pipe.connection = id) : n.round.Joins place publisher number x := by
    obtain ⟨y, round, joins'⟩ := joins.round wired
    rwa [(calm.line _ _ _ joins same).round round] at joins'
  refine ⟨?_, calm.rests, fun place publisher x joins same => ?_⟩
  · by_cases unpiped : ∀ route ∈ n.routes, route.2 ≠ (number, id)
    · obtain ⟨c', settles, found'⟩ := connection?_round wired calm.found unpiped
      rwa [settles.idle calm.rests] at found'
    · push Not at unpiped
      obtain ⟨route, member, same⟩ := unpiped
      obtain ⟨place, found⟩ := List.mem_iff_getElem?.mp member
      obtain ⟨x, joins, -, connection⟩ := wired.joins_of_route found
      rw [same] at joins connection
      have there := joins.connection
      rw [connection, calm.found] at there
      have stays := (line joins connection).connection
      rwa [connection, ← Option.some.inj there] at stays
  · have route := joins.route
    rw [follows.routes] at route
    obtain ⟨y, joins', -, connection⟩ := wired.joins_of_route route
    have still := calm.line _ _ _ joins' (connection.trans same)
    obtain ⟨-, -, rfl⟩ := (line joins' (connection.trans same)).unique joins
    exact still

theorem Calm.settle {c : Connection} (calm : n.Calm number id c) (wired : n.Wired) :
    n.settle.Calm number id c := by
  have rounds (count : Nat) : (n.rounds count).Calm number id c := by
    induction count with
    | zero => exact calm
    | succ count ih =>
      rw [rounds_succ]
      exact ih.round (wired.follows (rounds_follows wired count))
  exact rounds 8

end Node

end TopicWire
