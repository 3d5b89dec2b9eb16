import TopicWire.Proofs.Session.Rounds

/-!
# Tracking sessions

Each publisher and each subscriber of a node is there for one session and holds the hook that ends it
(`Node.Tracks`). The session is among those of the node until this hook has run (`Node.Tracks.ended_iff`).
-/

namespace TopicWire.Node

/-- A session that was opened, and the number of its publisher or subscriber. -/
structure Opened where
  session : Session
  number : Nat
deriving DecidableEq, Repr

variable {n n' : Node} {opened : List Opened} {o : Opened}

/-- The publisher or the subscriber of a session is there, and its hook is as said. -/
def Backed (P : CloseHook → Publisher → Prop) (S : CloseHook → Subscriber → Prop) (n : Node)
    (o : Opened) : Prop :=
  match o.session.kind with
  | .publisher => ∃ p, n.publishers[o.number]? = some p ∧ P (.endSession o.session.id) p
  | .subscriber => ∃ s, n.subscribers[o.number]? = some s ∧ S (.endSession o.session.id) s

section backed

variable {P P' : CloseHook → Publisher → Prop} {S S' : CloseHook → Subscriber → Prop}

theorem Backed.publisher (backed : n.Backed P S o) (kind : o.session.kind = .publisher) :
    ∃ p, n.publishers[o.number]? = some p ∧ P (.endSession o.session.id) p := by
  rwa [Backed, kind] at backed

theorem Backed.subscriber (backed : n.Backed P S o) (kind : o.session.kind = .subscriber) :
    ∃ s, n.subscribers[o.number]? = some s ∧ S (.endSession o.session.id) s := by
  rwa [Backed, kind] at backed

theorem backed_publisher {p : Publisher} (kind : o.session.kind = .publisher)
    (found : n.publishers[o.number]? = some p) (held : P (.endSession o.session.id) p) :
    n.Backed P S o := by
  rw [Backed, kind]
  exact ⟨p, found, held⟩

theorem backed_subscriber {s : Subscriber} (kind : o.session.kind = .subscriber)
    (found : n.subscribers[o.number]? = some s) (held : S (.endSession o.session.id) s) :
    n.Backed P S o := by
  rw [Backed, kind]
  exact ⟨s, found, held⟩

theorem Backed.evolves (backed : n.Backed P S o) (evolves : n.Evolves n')
    (publishers : ∀ {hook} {p q : Publisher}, p.Serves q → P hook p → P hook q)
    (subscribers : ∀ {hook} {s t : Subscriber}, s.Ordinary t → S hook s → S hook t) :
    n'.Backed P S o := by
  cases kind : o.session.kind with
  | publisher =>
    obtain ⟨p, found, held⟩ := backed.publisher kind
    obtain ⟨q, found', serves⟩ := evolves.publisher found
    exact backed_publisher kind found' (publishers serves held)
  | subscriber =>
    obtain ⟨s, found, held⟩ := backed.subscriber kind
    obtain ⟨t, found', ordinary⟩ := evolves.subscriber found
    exact backed_subscriber kind found' (subscribers ordinary held)

theorem Backed.grows (backed : n.Backed P S o) (publishers : n.publishers <+: n'.publishers)
    (subscribers : n.subscribers <+: n'.subscribers) : n'.Backed P S o := by
  cases kind : o.session.kind with
  | publisher =>
    obtain ⟨p, found, held⟩ := backed.publisher kind
    obtain ⟨inside, rfl⟩ := List.getElem?_eq_some_iff.mp found
    exact backed_publisher kind (List.prefix_iff_getElem?.mp publishers _ inside) held
  | subscriber =>
    obtain ⟨s, found, held⟩ := backed.subscriber kind
    obtain ⟨inside, rfl⟩ := List.getElem?_eq_some_iff.mp found
    exact backed_subscriber kind (List.prefix_iff_getElem?.mp subscribers _ inside) held

end backed

theorem Evolves.accepted (evolves : n.Evolves n')
    (accepted : ∀ o ∈ opened, n.Backed Publisher.Held Subscriber.Subscribed o) :
    ∀ o ∈ opened, n'.Backed Publisher.Held Subscriber.Subscribed o :=
  fun o member => (accepted o member).evolves evolves Publisher.Serves.held
    fun ordinary subscribed => subscribed.ordinary ordinary

def holders (n : Node) : SessionKind → Nat
  | .publisher => n.publishers.length
  | .subscriber => n.subscribers.length

def numbers (opened : List Opened) (kind : SessionKind) : List Nat :=
  (opened.filter (·.session.kind = kind)).map (·.number)

theorem numbers_append (opened later : List Opened) (kind : SessionKind) :
    numbers (opened ++ later) kind = numbers opened kind ++ numbers later kind := by
  rw [numbers, List.filter_append, List.map_append]
  rfl

/-- Each publisher and each subscriber holds the hook of one of the sessions opened; those whose hook has
not run are the sessions of the node. -/
structure Tracks (n : Node) (opened : List Opened) : Prop where
  listed : n.sessions.sessions =
    (opened.map (·.session)).filter fun s => .endSession s.id ∉ n.hooksRun
  ascending : (opened.map (·.session.id)).Pairwise (· < ·)
  below : ∀ o ∈ opened, o.session.id < n.sessions.nextId
  numbered : ∀ kind, numbers opened kind = List.range (n.holders kind)
  held : ∀ o ∈ opened, n.Backed Publisher.Held Subscriber.Held o

/-- The hook of a session has run. -/
def Ended : Node → Opened → Prop :=
  Backed (fun hook p => hook.HasRun p.hook p.ran) (fun hook s => hook.HasRun s.hook s.ran)

theorem Tracks.owner (tracks : n.Tracks opened) (kind : SessionKind) {number : Nat}
    (inside : number < n.holders kind) : ∃ o ∈ opened, o.session.kind = kind ∧ o.number = number := by
  rw [← List.mem_range, ← tracks.numbered kind, numbers, List.mem_map] at inside
  obtain ⟨o, member, same⟩ := inside
  obtain ⟨member, kind⟩ := List.mem_filter.mp member
  exact ⟨o, member, of_decide_eq_true kind, same⟩

theorem Tracks.unique (tracks : n.Tracks opened) {o' : Opened} (member : o ∈ opened)
    (member' : o' ∈ opened) (same : o'.session.id = o.session.id) : o' = o :=
  List.inj_on_of_nodup_map (tracks.ascending.imp Nat.ne_of_lt) member' member same

/-- A hook that has run is that of a session, and it is run by the holder of that session. -/
theorem Tracks.ended_of_mem (tracks : n.Tracks opened) {hook : CloseHook} (ran : hook ∈ n.hooksRun) :
    ∃ o ∈ opened, hook = .endSession o.session.id ∧ n.Ended o := by
  rcases List.mem_append.mp ran with there | there
  · obtain ⟨p, member, ran⟩ := List.mem_flatMap.mp there
    obtain ⟨number, found⟩ := List.mem_iff_getElem?.mp member
    obtain ⟨inside, -⟩ := List.getElem?_eq_some_iff.mp found
    obtain ⟨o, member, kind, rfl⟩ := tracks.owner .publisher inside
    obtain ⟨p', found', held⟩ := (tracks.held o member).publisher kind
    obtain rfl := Option.some.inj (found.symm.trans found')
    obtain ⟨rfl, finished⟩ := held.once.of_mem ran
    exact ⟨o, member, rfl, backed_publisher kind found finished⟩
  · obtain ⟨s, member, ran⟩ := List.mem_flatMap.mp there
    obtain ⟨number, found⟩ := List.mem_iff_getElem?.mp member
    obtain ⟨inside, -⟩ := List.getElem?_eq_some_iff.mp found
    obtain ⟨o, member, kind, rfl⟩ := tracks.owner .subscriber inside
    obtain ⟨s', found', held⟩ := (tracks.held o member).subscriber kind
    obtain rfl := Option.some.inj (found.symm.trans found')
    obtain ⟨rfl, finished⟩ := held.once.of_mem ran
    exact ⟨o, member, rfl, backed_subscriber kind found finished⟩

theorem Ended.mem_hooksRun (ended : n.Ended o) : .endSession o.session.id ∈ n.hooksRun := by
  rw [hooksRun, List.mem_append, List.mem_flatMap, List.mem_flatMap]
  cases kind : o.session.kind with
  | publisher =>
    obtain ⟨p, found, -, ran⟩ := Backed.publisher ended kind
    exact .inl ⟨p, List.mem_of_getElem? found, by rw [ran]; exact List.mem_singleton_self _⟩
  | subscriber =>
    obtain ⟨s, found, -, ran⟩ := Backed.subscriber ended kind
    exact .inr ⟨s, List.mem_of_getElem? found, by rw [ran]; exact List.mem_singleton_self _⟩

theorem Tracks.ended_iff (tracks : n.Tracks opened) (member : o ∈ opened) :
    .endSession o.session.id ∈ n.hooksRun ↔ n.Ended o := by
  refine ⟨fun ran => ?_, Ended.mem_hooksRun⟩
  obtain ⟨o', member', same, ended⟩ := tracks.ended_of_mem ran
  have same : o'.session.id = o.session.id := (CloseHook.endSession.inj same).symm
  rwa [tracks.unique member member' same] at ended

/-- The sessions of a node are those that a test singles out if the test is whether the hook has run. -/
theorem Tracks.listed_of_ended (tracks : n.Tracks opened) {isOpen : Opened → Bool}
    (open_iff : ∀ o ∈ opened, n.Ended o ↔ isOpen o = false) :
    n.sessions.sessions = (opened.filter isOpen).map (·.session) := by
  rw [tracks.listed, List.filter_map]
  congr 1
  refine List.filter_congr fun o member => ?_
  have ran := (tracks.ended_iff member).trans (open_iff o member)
  simp [ran]

/-! ### Sessions go on -/

theorem Tracks.evolves (tracks : n.Tracks opened) (evolves : n.Evolves n') : n'.Tracks opened := by
  obtain ⟨ended, sessions, ran⟩ := evolves.sessions
  refine ⟨?_, tracks.ascending, ?_, fun kind => ?_, fun o member =>
    (tracks.held o member).evolves evolves Publisher.Serves.held fun ordinary held => held.ordinary ordinary⟩
  · rw [sessions, tracks.listed, List.filter_filter]
    refine List.filter_congr fun s _ => ?_
    simp only [ran, not_or, Bool.decide_and, Bool.and_comm]
  · rw [sessions]
    exact tracks.below
  · rw [tracks.numbered kind]
    cases kind with
    | publisher => exact congrArg List.range (length_of_rel evolves.publishers)
    | subscriber => exact congrArg List.range (length_of_rel evolves.subscribers)

theorem Tracks.add (tracks : n.Tracks opened) (id : o.session.id = n.sessions.nextId)
    (sessions : n'.sessions = ⟨n.sessions.sessions ++ [o.session], n.sessions.nextId + 1⟩)
    (hooks : ∀ hook, hook ∈ n'.hooksRun ↔ hook ∈ n.hooksRun)
    (publishers : n.publishers <+: n'.publishers) (subscribers : n.subscribers <+: n'.subscribers)
    (numbered : ∀ kind, List.range (n'.holders kind) = List.range (n.holders kind) ++ numbers [o] kind)
    (held : n'.Backed Publisher.Held Subscriber.Held o) : n'.Tracks (opened ++ [o]) := by
  refine ⟨?_, ?_, fun other member => ?_, fun kind => ?_, fun other member => ?_⟩
  · -- Only hooks of sessions opened before have run, and their ids are all below the next one.
    have fresh : .endSession o.session.id ∉ n.hooksRun := by
      intro ran
      obtain ⟨o', member, same, -⟩ := tracks.ended_of_mem ran
      have below := tracks.below o' member
      rw [← CloseHook.endSession.inj same, id] at below
      exact Nat.lt_irrefl _ below
    rw [sessions, tracks.listed]
    simp [hooks, fresh]
  · rw [List.map_append, List.pairwise_append]
    refine ⟨tracks.ascending, List.pairwise_singleton _ _, fun a there b last => ?_⟩
    obtain ⟨o', member, rfl⟩ := List.mem_map.mp there
    rw [List.mem_singleton.mp last]
    exact Nat.lt_of_lt_of_eq (tracks.below o' member) id.symm
  · rw [sessions]
    rcases List.mem_append.mp member with old | new
    · exact Nat.lt_succ_of_lt (tracks.below other old)
    · rw [List.mem_singleton.mp new, id]
      exact Nat.lt_succ_self _
  · rw [numbers_append, numbered, tracks.numbered]
  · rcases List.mem_append.mp member with old | new
    · exact (tracks.held other old).grows publishers subscribers
    · rwa [List.mem_singleton.mp new]

theorem Tracks.last_subscriber (tracks : n.Tracks (opened ++ [o])) (kind : o.session.kind = .subscriber) :
    numbers opened .subscriber = List.range o.number ∧ n.subscribers.length = o.number + 1 := by
  have counts := tracks.numbered .subscriber
  have last : numbers [o] .subscriber = [o.number] := by simp [numbers, kind]
  rw [numbers_append, last] at counts
  obtain ⟨k, length⟩ : ∃ k, n.subscribers.length = k + 1 := by
    have length := congrArg List.length counts
    rw [List.length_range, List.length_append] at length
    exact ⟨_, length.symm⟩
  rw [holders, length, List.range_succ] at counts
  obtain ⟨counts, same⟩ := List.append_inj' counts rfl
  obtain rfl := List.singleton_inj.mp same
  exact ⟨counts, length⟩

theorem Tracks.backed_withdraw (tracks : n.Tracks (opened ++ [o])) (kind : o.session.kind = .subscriber)
    (publishers : n'.publishers = n.publishers) (subscribers : n'.subscribers = n.subscribers.dropLast)
    {P : CloseHook → Publisher → Prop} {S : CloseHook → Subscriber → Prop} {o' : Opened}
    (member : o' ∈ opened) (backed : n.Backed P S o') : n'.Backed P S o' := by
  obtain ⟨counts, length⟩ := tracks.last_subscriber kind
  cases kind' : o'.session.kind with
  | publisher =>
    obtain ⟨p, found, held⟩ := backed.publisher kind'
    exact backed_publisher kind' (publishers ▸ found) held
  | subscriber =>
    obtain ⟨s, found, held⟩ := backed.subscriber kind'
    have inside : o'.number ∈ numbers opened .subscriber :=
      List.mem_map.mpr ⟨o', List.mem_filter.mpr ⟨member, decide_eq_true kind'⟩, rfl⟩
    rw [counts, List.mem_range] at inside
    have bound : o'.number < n.subscribers.length - 1 := by omega
    refine backed_subscriber kind' ?_ held
    rw [subscribers, List.getElem?_dropLast, if_pos bound, found]

/-- The last session is taken back with its subscriber. -/
theorem Tracks.withdraw (tracks : n.Tracks (opened ++ [o])) (kind : o.session.kind = .subscriber)
    (sessions : n'.sessions = n.sessions.remove o.session.id) (publishers : n'.publishers = n.publishers)
    (subscribers : n'.subscribers = n.subscribers.dropLast) : n'.Tracks opened := by
  have ascending := tracks.ascending
  rw [List.map_append, List.pairwise_append] at ascending
  obtain ⟨ascending, -, before⟩ := ascending
  have other {o' : Opened} (member : o' ∈ opened) : o'.session.id ≠ o.session.id :=
    Nat.ne_of_lt (before _ (List.mem_map_of_mem member) _ List.mem_cons_self)
  obtain ⟨counts, length⟩ := tracks.last_subscriber kind
  have ran {o' : Opened} (member : o' ∈ opened) :
      .endSession o'.session.id ∈ n'.hooksRun ↔ .endSession o'.session.id ∈ n.hooksRun := by
    constructor
    · rw [hooksRun, publishers, subscribers]
      intro there
      rcases List.mem_append.mp there with there | there
      · exact List.mem_append_left _ there
      · obtain ⟨s, member, ran⟩ := List.mem_flatMap.mp there
        exact List.mem_append_right _ (List.mem_flatMap.mpr ⟨s, List.dropLast_subset _ member, ran⟩)
    · intro there
      have ended := (tracks.ended_iff (List.mem_append_left _ member)).mp there
      exact Ended.mem_hooksRun (tracks.backed_withdraw kind publishers subscribers member ended)
  refine ⟨?_, ascending, fun o' member => sessions ▸ tracks.below o' (List.mem_append_left _ member),
    fun side => ?_, fun o' member => tracks.backed_withdraw kind publishers subscribers member
      (tracks.held o' (List.mem_append_left _ member))⟩
  · rw [sessions, SessionSet.remove, tracks.listed, List.filter_filter, List.map_append,
      List.filter_append, List.map_singleton, List.filter_cons_of_neg (by simp), List.filter_nil,
      List.append_nil]
    refine List.filter_congr fun s there => ?_
    obtain ⟨o', member, rfl⟩ := List.mem_map.mp there
    simp [ran member, other member]
  · cases side with
    | publisher =>
      have none : numbers [o] .publisher = [] := by simp [numbers, kind]
      have numbered := tracks.numbered .publisher
      rw [numbers_append, none, List.append_nil] at numbered
      rw [numbered, holders, holders, publishers]
    | subscriber => rw [counts, holders, subscribers, List.length_dropLast, length, Nat.add_sub_cancel]

/-! ### Open sessions -/

/-- A publisher's session is open while the publisher listens, a subscriber's while it is connected. -/
def isOpen (n : Node) (o : Opened) : Bool :=
  match o.session.kind with
  | .publisher => n.publishers[o.number]?.any (·.endpoint?.isSome)
  | .subscriber => n.subscribers[o.number]?.any (·.phase = .connected)

theorem isOpen_publisher {p : Publisher} (kind : o.session.kind = .publisher)
    (found : n.publishers[o.number]? = some p) : n.isOpen o = p.endpoint?.isSome := by
  rw [isOpen, kind]
  dsimp only
  rw [found, Option.any_some]

theorem isOpen_subscriber {s : Subscriber} (kind : o.session.kind = .subscriber)
    (found : n.subscribers[o.number]? = some s) : n.isOpen o = decide (s.phase = .connected) := by
  rw [isOpen, kind]
  dsimp only
  rw [found, Option.any_some]

/-- A node at rest between two operations, after these sessions have been opened. -/
structure Kept (n : Node) (opened : List Opened) : Prop where
  tracks : n.Tracks opened
  accepted : ∀ o ∈ opened, n.Backed Publisher.Held Subscriber.Subscribed o
  wired : n.Wired
  still : n.Still

/-- At rest the hooks that have run are those of the sessions that are not open. -/
theorem Kept.ended_iff (kept : n.Kept opened) (member : o ∈ opened) : n.Ended o ↔ n.isOpen o = false := by
  have accepted := kept.accepted o member
  cases kind : o.session.kind with
  | publisher =>
    obtain ⟨p, found, held⟩ := accepted.publisher kind
    rw [isOpen_publisher kind found]
    rcases held with ⟨waits, listens⟩ | ⟨finished, closed⟩
    · rw [listens]
      refine ⟨fun ended => ?_, Bool.noConfusion⟩
      obtain ⟨q, found', finished⟩ := Backed.publisher ended kind
      obtain rfl := Option.some.inj (found.symm.trans found')
      cases waits.1.symm.trans finished.1
    · rw [Publisher.endpoint?, closed]
      exact ⟨fun _ => rfl, fun _ => backed_publisher kind found finished⟩
  | subscriber =>
    obtain ⟨s, found, subscribed⟩ := accepted.subscriber kind
    rw [isOpen_subscriber kind found]
    obtain ⟨c, there⟩ := subscribed.held.found
    have rests := kept.still.connections o.number 0 c (Option.bind_eq_some_iff.mpr ⟨s, found, there⟩)
    rcases subscribed.at_rest there rests with ⟨phase, -, waits⟩ | ⟨phase, -, finished⟩
    · rw [phase]
      refine ⟨fun ended => ?_, fun closed => absurd closed (by decide)⟩
      obtain ⟨t, found', finished⟩ := Backed.subscriber ended kind
      obtain rfl := Option.some.inj (found.symm.trans found')
      cases waits.1.symm.trans finished.1
    · rw [phase]
      exact ⟨fun _ => rfl, fun _ => backed_subscriber kind found finished⟩

theorem Kept.listed (kept : n.Kept opened) :
    n.sessions.sessions = (opened.filter n.isOpen).map (·.session) :=
  kept.tracks.listed_of_ended fun _ => kept.ended_iff

end TopicWire.Node
