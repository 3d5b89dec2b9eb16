import Mathlib.Data.List.Nodup
import TopicWire.Proofs.Session.Exchange

/-!
# What happens at the two ends of a pipe

Every pipe has a link and a connection of its own (`Exchange.Wired`), so a move changes the link as the
publisher can change it or the connection as the subscriber can, or brings bytes from one to the other
(`Exchange.Joins.goes`). The wiring is kept by every move (`Exchange.Wired.step`).
-/

namespace TopicWire

/-- A pipe and what is at its two ends. -/
structure Meeting where
  /-- The place of the subscriber. -/
  number : Nat
  pipe : Pipe
  subscriber : Subscriber
  link : Link
  connection : Connection

/-- What a move of the exchange does to the ends of a pipe, and what arrives at the link and at the
connection. -/
inductive Meeting.Change (x : Exchange) (place : Nat) (m : Meeting) :
    Exchange.Move → Bytes → Bytes → Meeting → Prop
  | apart {move s} : Change x place m move [] [] { m with subscriber := s }
  | publisher {move l} (own : Exchange.isOwn move = true) (change : m.link.Change x.publisher move l) :
      Change x place m (.publisher move) [] [] { m with link := l }
  | subscriber {move s c} (own : Exchange.isSubscribersOwn move = true)
      (change : m.connection.Change m.subscriber move c) :
      Change x place m (.subscriber m.number move) [] [] { m with subscriber := s, connection := c }
  | up {count bytes} (some : (m.connection.sent.drop m.pipe.up).take count = bytes) :
      Change x place m (.carry place (.up count)) bytes []
        { m with
          link := { m.link with inbox := m.link.inbox ++ bytes }
          pipe := { m.pipe with up := m.pipe.up + bytes.length } }
  | down {count s bytes} (some : (m.link.sent.drop m.pipe.down).take count = bytes) :
      Change x place m (.carry place (.down count)) [] bytes
        { m with
          subscriber := s
          connection := { m.connection with inbox := m.connection.inbox ++ bytes }
          pipe := { m.pipe with down := m.pipe.down + bytes.length } }
  | endUp (past : m.connection.isOpen = false) (all : m.connection.sent.length ≤ m.pipe.up) :
      Change x place m (.carry place .endUp) [] [] { m with link := { m.link with inboxEnded := true } }
  | endDown {s} (past : m.link.stage.isOpen = false) (all : m.link.sent.length ≤ m.pipe.down) :
      Change x place m (.carry place .endDown) [] []
        { m with subscriber := s, connection := { m.connection with inboxEnded := true } }

/-- A connection that has not reached a publisher. -/
structure Connection.Alone (c : Connection) : Prop where
  sent : c.sent = []
  inbox : c.inbox = []
  inboxEnded : c.inboxEnded = false
  stage : c.stage = .dialling ∨ c.stage = .done ∧ ∃ e, c.result = some (.error e)

namespace Connection

variable {s : Subscriber} {c c' : Connection} {move : Subscriber.ConnectionMove}

theorem Own.of_done (own : c.Own s move c') (done : c.stage = .done) : c' = c := by
  cases own with
  | rests => rfl
  | _ => simp_all

theorem Own.of_dialling (own : c.Own s move c') (dialling : c.stage = .dialling) :
    c' = c ∨ move = .dialled .connected ∨
      ∃ e, c' = { c with stage := .done, result := some (.error e) } := by
  cases own with
  | rests => exact .inl rfl
  | dials => exact .inr (.inl rfl)
  | unreached => exact .inr (.inr ⟨_, rfl⟩)
  | _ => simp_all

theorem Alone.own (alone : c.Alone) (own : c.Own s move c') (apart : move ≠ .dialled .connected) :
    c'.Alone := by
  rcases alone.stage with dialling | ⟨done, failed⟩
  · rcases own.of_dialling dialling with rfl | dialled | ⟨e, rfl⟩
    · exact alone
    · exact absurd dialled apart
    · exact ⟨alone.sent, alone.inbox, alone.inboxEnded, .inr ⟨rfl, e, rfl⟩⟩
  · rw [own.of_done done]
    exact alone

theorem Alone.change (alone : c.Alone) {move : Subscriber.Move} (change : c.Change s move c')
    (apart : (∀ bytes, move ≠ .arrive c.id bytes) ∧ move ≠ .hangUp c.id ∧
      move ≠ .connection c.id (.dialled .connected)) : c'.Alone := by
  obtain ⟨silent, lasting, undialled⟩ := apart
  cases change with
  | left => exact alone
  | spared => exact alone
  | asked => exact ⟨alone.sent, alone.inbox, alone.inboxEnded, alone.stage⟩
  | arrives => exact absurd rfl (silent _)
  | hangsUp => exact absurd rfl lasting
  | own moved => exact alone.own moved fun same => undialled (by rw [same])

theorem Change.reached {move : Subscriber.Move} (change : c.Change s move c')
    (reached : c.stage ≠ .dialling) : c'.stage ≠ .dialling := by
  rcases change.stage_eq with same | ⟨own, -, moved⟩
  · rw [same]
    exact reached
  · cases moved with
    | rests => exact reached
    | _ => exact fun no => by cases no

end Connection

theorem Meeting.Change.kept {x : Exchange} {place : Nat} {m m' : Meeting} {move : Exchange.Move}
    {up down : Bytes} (change : m.Change x place move up down m') :
    m'.number = m.number ∧ m'.pipe.link = m.pipe.link ∧ m'.pipe.connection = m.pipe.connection := by
  cases change <;> exact ⟨rfl, rfl, rfl⟩

namespace Publisher

variable {p : Publisher} {id : Nat}

theorem link?_run_of_leaves {l : Link} (found : p.link? id = some l) {moves : List Move}
    (apart : ∀ move ∈ moves, move.leaves id = true) :
    (p.run moves).link? id = some l ∧ arrived id moves = [] := by
  induction moves generalizing p with
  | nil => exact ⟨found, rfl⟩
  | cons move moves ih =>
    have other := apart move List.mem_cons_self
    obtain ⟨l', found', change⟩ := link?_step found move
    obtain rfl : l' = l := by
      cases change with
      | left => rfl
      | own => simp [Move.leaves, id_of_link? found] at other
      | arrives => simp [Move.leaves, id_of_link? found] at other
      | hangsUp => simp [Move.leaves, id_of_link? found] at other
      | _ => cases other
    obtain ⟨later, silent⟩ := ih found' fun move there => apart move (List.mem_cons_of_mem _ there)
    refine ⟨later, ?_⟩
    rw [arrived, List.flatMap_cons, show moves.flatMap (brings id) = [] from silent, List.append_nil]
    cases move <;> simp_all [Move.leaves, brings]

theorem arrived_singleton (id : Nat) (bytes : Bytes) : arrived id [.arrive id bytes] = bytes := by
  simp [arrived, brings]

end Publisher

namespace Subscriber

variable {s : Subscriber} {id : Nat}

theorem connection?_run_of_leaves {c : Connection} (found : s.connection? id = some c)
    {moves : List Move} (apart : ∀ move ∈ moves, move.leaves id = true) :
    (s.run moves).connection? id = some c ∧ s.arrived id moves = [] := by
  induction moves generalizing s with
  | nil => exact ⟨found, rfl⟩
  | cons move moves ih =>
    have other := apart move List.mem_cons_self
    obtain ⟨c', found', change⟩ := connection?_step found move
    obtain rfl : c' = c := by
      cases change with
      | left => rfl
      | spared => rfl
      | asked closing => rcases closing with rfl | rfl <;> cases other
      | own => simp [Move.leaves, id_of_connection? found] at other
      | arrives => simp [Move.leaves, id_of_connection? found] at other
      | hangsUp => simp [Move.leaves, id_of_connection? found] at other
    obtain ⟨later, silent⟩ := ih found' fun move there => apart move (List.mem_cons_of_mem _ there)
    refine ⟨later, ?_⟩
    rw [arrived, history, show history step (brings · id) (s.step move) moves = [] from silent,
      List.append_nil]
    cases move <;> simp_all [Move.leaves, brings]

theorem arrived_singleton {c : Connection} (found : s.connection? id = some c) (bytes : Bytes) :
    s.arrived id [.arrive id bytes] = bytes := by
  simp [arrived, history, brings, found]

theorem dialling_of_dialling? (numbered : s.Numbered) (dialling : Exchange.dialling? s = some id) :
    ∃ c, s.connection? id = some c ∧ c.stage = .dialling := by
  obtain ⟨c, first, rfl⟩ := Option.map_eq_some_iff.mp dialling
  have stage := List.find?_some first
  refine ⟨c, ?_, ?_⟩
  · cases found : s.connection? c.id with
    | none =>
      have inside : c.id ∈ List.range s.nextConnection :=
        numbered ▸ List.mem_map_of_mem (List.mem_of_find?_eq_some first)
      exact absurd (numbered.connection?_eq_none_iff.mp found) (Nat.not_le.mpr (List.mem_range.mp inside))
    | some other =>
      have distinct : (s.connections.map (·.id)).Nodup := numbered ▸ List.nodup_range
      have there := List.mem_of_find?_eq_some found
      rw [List.inj_on_of_nodup_map distinct there (List.mem_of_find?_eq_some first)
        (id_of_connection? found)]
  · split at stage
    · assumption
    · cases stage

end Subscriber

namespace Joined

variable {j : Joined} {what : Exchange.Carry} {id : Nat}

theorem upMoves_cases (j : Joined) (what : Exchange.Carry) :
    j.upMoves what = [] ∨ (∃ bytes, j.upMoves what = [.arrive j.pipe.link bytes]) ∨
      j.upMoves what = [.hangUp j.pipe.link] := by
  cases what with
  | up count =>
    simp only [upMoves]
    split
    · exact .inr (.inl ⟨_, rfl⟩)
    · exact .inl rfl
  | endUp =>
    simp only [upMoves]
    split
    · split
      · exact .inr (.inr rfl)
      · exact .inl rfl
    · exact .inl rfl
  | down count => exact .inl rfl
  | endDown => exact .inl rfl

theorem downMoves_cases (j : Joined) (what : Exchange.Carry) :
    j.downMoves what = [] ∨ (∃ bytes, j.downMoves what = [.arrive j.pipe.connection bytes]) ∨
      j.downMoves what = [.hangUp j.pipe.connection] := by
  cases what with
  | up count => exact .inl rfl
  | endUp => exact .inl rfl
  | down count =>
    simp only [downMoves]
    split
    · exact .inr (.inl ⟨_, rfl⟩)
    · exact .inl rfl
  | endDown =>
    simp only [downMoves]
    split
    · split
      · exact .inr (.inr rfl)
      · exact .inl rfl
    · exact .inl rfl

theorem leaves_of_upMoves (other : j.pipe.link ≠ id) : ∀ move ∈ j.upMoves what, move.leaves id = true := by
  intro move made
  rcases j.upMoves_cases what with none | ⟨bytes, some⟩ | ends
  · rw [none] at made
    cases made
  · rw [some, List.mem_singleton] at made
    simpa [made, Publisher.Move.leaves] using other
  · rw [ends, List.mem_singleton] at made
    simpa [made, Publisher.Move.leaves] using other

theorem leaves_of_downMoves (other : j.pipe.connection ≠ id) :
    ∀ move ∈ j.downMoves what, move.leaves id = true := by
  intro move made
  rcases j.downMoves_cases what with none | ⟨bytes, some⟩ | ends
  · rw [none] at made
    cases made
  · rw [some, List.mem_singleton] at made
    simpa [made, Subscriber.Move.leaves] using other
  · rw [ends, List.mem_singleton] at made
    simpa [made, Subscriber.Move.leaves] using other

end Joined

namespace Exchange

variable {x : Exchange} {place : Nat} {m : Meeting}

/-- The pipe at a place has these ends. -/
structure Joins (x : Exchange) (place : Nat) (m : Meeting) : Prop where
  pipe : x.pipes[place]? = some (m.number, m.pipe)
  subscriber : x.subscribers[m.number]? = some m.subscriber
  link : x.publisher.link? m.pipe.link = some m.link
  connection : m.subscriber.connection? m.pipe.connection = some m.connection

def meeting? (x : Exchange) (place : Nat) : Option Meeting := do
  let (number, pipe) ← x.pipes[place]?
  let subscriber ← x.subscribers[number]?
  let link ← x.publisher.link? pipe.link
  let connection ← subscriber.connection? pipe.connection
  some ⟨number, pipe, subscriber, link, connection⟩

theorem Joins.meeting?_eq (joins : x.Joins place m) : x.meeting? place = some m := by
  simp only [meeting?, joins.pipe, joins.subscriber, joins.link, joins.connection, Option.bind_eq_bind,
    Option.bind_some]

/-- Every pipe has a link and a connection of its own. -/
structure Wired (x : Exchange) : Prop where
  publisher : x.publisher.Numbered
  subscribers : ∀ (number : Nat) (s : Subscriber), x.subscribers[number]? = some s →
    s.Numbered ∧ s.Phased
  /-- The pipes are in the order of their links. -/
  links : x.pipes.map (·.2.link) = List.range x.publisher.nextLink
  connections : (x.pipes.map fun ends => (ends.1, ends.2.connection)).Nodup
  joined : ∀ place, place < x.pipes.length → ∃ m, x.Joins place m ∧ m.connection.stage ≠ .dialling
  alone : ∀ (number id : Nat) (s : Subscriber) (c : Connection), x.subscribers[number]? = some s →
    s.connection? id = some c →
    (∀ (place : Nat) (pipe : Pipe), x.pipes[place]? = some (number, pipe) → pipe.connection ≠ id) →
    c.Alone

theorem Wired.link_eq (wired : x.Wired) {number : Nat} {pipe : Pipe}
    (found : x.pipes[place]? = some (number, pipe)) : pipe.link = place := by
  have there : (x.pipes.map (·.2.link))[place]? = some pipe.link := by
    rw [List.getElem?_map, found, Option.map_some]
  rw [wired.links] at there
  obtain ⟨inside, same⟩ := List.getElem?_eq_some_iff.mp there
  rw [List.getElem_range] at same
  exact same.symm

theorem Wired.place_eq (wired : x.Wired) {other number : Nat} {pipe pipe' : Pipe}
    (found : x.pipes[place]? = some (number, pipe)) (found' : x.pipes[other]? = some (number, pipe'))
    (same : pipe.connection = pipe'.connection) : place = other := by
  have first : (x.pipes.map fun ends => (ends.1, ends.2.connection))[place]? =
      some (number, pipe.connection) := by rw [List.getElem?_map, found, Option.map_some]
  have second : (x.pipes.map fun ends => (ends.1, ends.2.connection))[other]? =
      some (number, pipe'.connection) := by rw [List.getElem?_map, found', Option.map_some]
  rw [← same] at second
  obtain ⟨inside, -⟩ := List.getElem?_eq_some_iff.mp first
  exact (List.getElem?_inj inside wired.connections).mp (first.trans second.symm)

/-- What a move comes to for the ends of a pipe. -/
def Goes (x : Exchange) (place : Nat) (m : Meeting) (move : Move) : Prop :=
  ∃ m' up down, (x.step move).Joins place m' ∧ m.Change x place move up down m' ∧
    Publisher.arrived m.pipe.link (x.publisherMoves move) = up ∧
    m.subscriber.arrived m.pipe.connection (x.subscriberMoves m.number move) = down

theorem Joins.goes_apart (joins : x.Joins place m) {move : Move}
    (pipe : (x.step move).pipes[place]? = x.pipes[place]?)
    (up : ∀ part ∈ x.publisherMoves move, part.leaves m.pipe.link = true)
    (down : ∀ part ∈ x.subscriberMoves m.number move, part.leaves m.pipe.connection = true) :
    x.Goes place m move := by
  obtain ⟨link, silent⟩ := Publisher.link?_run_of_leaves joins.link up
  obtain ⟨connection, deaf⟩ := Subscriber.connection?_run_of_leaves joins.connection down
  refine ⟨_, _, _, ⟨?_, step_subscriber joins.subscriber move, ?_, connection⟩, .apart, silent, deaf⟩
  · rw [pipe]
    exact joins.pipe
  · rw [step_publisher]
    exact link

theorem Joins.goes_nowhere (joins : x.Joins place m) {move : Move} (silent : x.publisherMoves move = [])
    (deaf : ∀ number, x.subscriberMoves number move = []) (same : x.step move = x) :
    x.Goes place m move := by
  refine joins.goes_apart (by rw [same]) ?_ ?_
  · rw [silent]
    exact List.forall_mem_nil _
  · rw [deaf]
    exact List.forall_mem_nil _

theorem Joins.goes_publisher (joins : x.Joins place m) (move : Publisher.Move) :
    x.Goes place m (.publisher move) := by
  cases own : isOwn move with
  | false =>
    have still : x.step (.publisher move) = x := by simp only [step, own, Bool.false_eq_true, if_false]
    have none : x.publisherMoves (.publisher move) = [] := by
      simp only [publisherMoves, own, Bool.false_eq_true, if_false]
    exact joins.goes_nowhere none (fun _ => rfl) still
  | true =>
    obtain ⟨l, found, change⟩ := Publisher.link?_step joins.link move
    have goes : x.step (.publisher move) = { x with publisher := x.publisher.step move } := by
      simp only [step, own, if_true]
    have made : x.publisherMoves (.publisher move) = [move] := by
      simp only [publisherMoves, own, if_true]
    have silent : Publisher.arrived m.pipe.link [move] = [] := by
      cases move <;> first | rfl | cases own
    refine ⟨{ m with link := l }, _, _, ?_, .publisher own change, by rw [made, silent], rfl⟩
    rw [goes]
    exact ⟨joins.pipe, joins.subscriber, found, joins.connection⟩

theorem Joins.goes_subscriber (joins : x.Joins place m) (number : Nat) (move : Subscriber.Move) :
    x.Goes place m (.subscriber number move) := by
  have pipes : (x.step (.subscriber number move)).pipes = x.pipes := by
    simp only [step]
    split
    · split <;> rfl
    · rfl
  by_cases here : number = m.number ∧ isSubscribersOwn move = true
  · obtain ⟨rfl, own⟩ := here
    obtain ⟨c, found, change⟩ := Subscriber.connection?_step joins.connection move
    have made : x.subscriberMoves m.number (.subscriber m.number move) = [move] := by
      simp only [subscriberMoves, own, and_self, if_true]
    have silent : m.subscriber.arrived m.pipe.connection [move] = [] := by
      cases move <;> first | rfl | cases own
    have there := step_subscriber joins.subscriber (.subscriber m.number move)
    rw [made] at there
    refine ⟨_, _, _, ⟨?_, there, ?_, found⟩, .subscriber own change, rfl, by rw [made, silent]⟩
    · rw [pipes]
      exact joins.pipe
    · rw [step_publisher]
      exact joins.link
  · have none : x.subscriberMoves m.number (.subscriber number move) = [] := by
      simp only [subscriberMoves, if_neg here]
    refine joins.goes_apart (by rw [pipes]) (List.forall_mem_nil _) ?_
    rw [none]
    exact List.forall_mem_nil _

theorem Joins.goes_join (joins : x.Joins place m) (wired : x.Wired)
    (reached : m.connection.stage ≠ .dialling) (number : Nat) : x.Goes place m (.join number) := by
  rcases x.join_cases number with ⟨s, connection, listener, dials⟩ | ⟨silent, deaf, same⟩
  · obtain ⟨accepts, dialled, eq⟩ := step_join dials
    refine joins.goes_apart ?_ ?_ ?_
    · rw [eq]
      exact List.getElem?_append_left (List.getElem?_eq_some_iff.mp joins.pipe).1
    · rw [accepts]
      exact List.forall_mem_cons.mpr ⟨rfl, List.forall_mem_singleton.mpr rfl⟩
    · by_cases here : number = m.number
      · subst here
        have same : m.subscriber = s := Option.some.inj (joins.subscriber.symm.trans dials.subscriber)
        rw [dialled]
        intro part there
        obtain rfl := List.mem_singleton.mp there
        have other : connection ≠ m.pipe.connection := by
          rintro rfl
          obtain ⟨c, found, stage⟩ := Subscriber.dialling_of_dialling?
            (wired.subscribers _ s dials.subscriber).1 dials.dialling
          rw [← same, joins.connection] at found
          obtain rfl := Option.some.inj found
          exact reached stage
        simpa [Subscriber.Move.leaves] using other
      · have none : x.subscriberMoves m.number (.join number) = [] := by
          simp only [subscriberMoves, if_neg here]
        rw [none]
        exact List.forall_mem_nil _
  · exact joins.goes_nowhere silent deaf same

theorem Joins.goes_other (joins : x.Joins place m) (wired : x.Wired) {other : Nat}
    (apart : other ≠ place) (what : Carry) : x.Goes place m (.carry other what) := by
  rcases x.carry_cases other what with ⟨number, pipe, s, found, there⟩ | ⟨silent, deaf, same⟩
  · refine joins.goes_apart ?_ ?_ ?_
    · rw [carry_eq found there]
      exact List.getElem?_set_ne apart
    · have elsewhere : pipe.link ≠ m.pipe.link := by
        rw [wired.link_eq found, wired.link_eq joins.pipe]
        exact apart
      simp only [publisherMoves, found, there]
      exact Joined.leaves_of_upMoves elsewhere
    · simp only [subscriberMoves, found]
      split
      · rename_i here
        subst here
        have elsewhere : pipe.connection ≠ m.pipe.connection := fun same =>
          apart (wired.place_eq found joins.pipe same)
        rw [there]
        exact Joined.leaves_of_downMoves elsewhere
      · exact List.forall_mem_nil _
  · exact joins.goes_nowhere silent deaf same

theorem Joins.goes_carry (joins : x.Joins place m) (what : Carry) :
    x.Goes place m (.carry place what) := by
  have eq := carry_eq joins.pipe joins.subscriber what
  obtain ⟨inside, -⟩ := List.getElem?_eq_some_iff.mp joins.pipe
  obtain ⟨there, -⟩ := List.getElem?_eq_some_iff.mp joins.subscriber
  have pipe (p : Pipe) : (x.pipes.set place (m.number, p))[place]? = some (m.number, p) :=
    List.getElem?_set_self inside
  have subscriber (s : Subscriber) : (x.subscribers.set m.number s)[m.number]? = some s :=
    List.getElem?_set_self there
  cases what with
  | up count =>
    simp only [Joined.after, Joined.carryUp, joins.connection] at eq
    have made : x.publisherMoves (.carry place (.up count)) =
        [.arrive m.pipe.link ((m.connection.sent.drop m.pipe.up).take count)] := by
      simp only [publisherMoves, joins.pipe, joins.subscriber, Joined.upMoves, joins.connection]
    have none : x.subscriberMoves m.number (.carry place (.up count)) = [] := by
      simp only [subscriberMoves, joins.pipe, joins.subscriber, Joined.downMoves, ite_self]
    refine ⟨_, _, [], ?_, .up rfl, ?_, by rw [none]; rfl⟩
    · rw [eq]
      exact ⟨pipe _, subscriber _, Publisher.link?_arrive joins.link _, joins.connection⟩
    · rw [made, Publisher.arrived_singleton]
  | down count =>
    simp only [Joined.after, Joined.carryDown, joins.link] at eq
    have none : x.publisherMoves (.carry place (.down count)) = [] := by
      simp only [publisherMoves, joins.pipe, joins.subscriber, Joined.upMoves]
    have made : x.subscriberMoves m.number (.carry place (.down count)) =
        [.arrive m.pipe.connection ((m.link.sent.drop m.pipe.down).take count)] := by
      simp only [subscriberMoves, joins.pipe, joins.subscriber, Joined.downMoves, joins.link, if_true]
    generalize bytes : (m.link.sent.drop m.pipe.down).take count = some at eq made
    refine ⟨_, [], some, ?_, .down (s := m.subscriber.step (.arrive m.pipe.connection some)) bytes,
      by rw [none]; rfl, ?_⟩
    · rw [eq]
      exact ⟨pipe _, subscriber _, joins.link, Subscriber.connection?_arrive joins.connection _⟩
    · rw [made, Subscriber.arrived_singleton joins.connection]
  | endUp =>
    simp only [Joined.after, Joined.endUp, joins.connection] at eq
    have none : x.subscriberMoves m.number (.carry place .endUp) = [] := by
      simp only [subscriberMoves, joins.pipe, joins.subscriber, Joined.downMoves, ite_self]
    have made : x.publisherMoves (.carry place .endUp) =
        if !m.connection.isOpen && m.connection.sent.length ≤ m.pipe.up then [.hangUp m.pipe.link]
        else [] := by
      simp only [publisherMoves, joins.pipe, joins.subscriber, Joined.upMoves, joins.connection]
    split at made
    · rename_i ended
      rw [if_pos ended] at eq
      rw [Bool.and_eq_true, Bool.not_eq_true', decide_eq_true_eq] at ended
      refine ⟨_, [], [], ?_, .endUp ended.1 ended.2, by rw [made]; rfl, by rw [none]; rfl⟩
      rw [eq]
      exact ⟨pipe _, subscriber _, Publisher.link?_hangUp joins.link, joins.connection⟩
    · rename_i goesOn
      rw [if_neg goesOn] at eq
      refine ⟨m, [], [], ?_, .apart, by rw [made]; rfl, by rw [none]; rfl⟩
      rw [eq]
      exact ⟨pipe _, subscriber _, joins.link, joins.connection⟩
  | endDown =>
    simp only [Joined.after, Joined.endDown, joins.link] at eq
    have none : x.publisherMoves (.carry place .endDown) = [] := by
      simp only [publisherMoves, joins.pipe, joins.subscriber, Joined.upMoves]
    have made : x.subscriberMoves m.number (.carry place .endDown) =
        if !m.link.stage.isOpen && m.link.sent.length ≤ m.pipe.down then [.hangUp m.pipe.connection]
        else [] := by
      simp only [subscriberMoves, joins.pipe, joins.subscriber, Joined.downMoves, joins.link, if_true]
    split at made
    · rename_i ended
      rw [if_pos ended] at eq
      rw [Bool.and_eq_true, Bool.not_eq_true', decide_eq_true_eq] at ended
      refine ⟨_, [], [], ?_, .endDown (s := m.subscriber.step (.hangUp m.pipe.connection)) ended.1 ended.2,
        by rw [none]; rfl, by rw [made]; rfl⟩
      rw [eq]
      exact ⟨pipe _, subscriber _, joins.link, Subscriber.connection?_hangUp joins.connection⟩
    · rename_i goesOn
      rw [if_neg goesOn] at eq
      refine ⟨m, [], [], ?_, .apart, by rw [none]; rfl, by rw [made]; rfl⟩
      rw [eq]
      exact ⟨pipe _, subscriber _, joins.link, joins.connection⟩

theorem Joins.goes (joins : x.Joins place m) (wired : x.Wired)
    (reached : m.connection.stage ≠ .dialling) (move : Move) : x.Goes place m move := by
  cases move with
  | publisher move => exact joins.goes_publisher move
  | subscriber number move => exact joins.goes_subscriber number move
  | join number => exact joins.goes_join wired reached number
  | carry other what =>
    by_cases here : other = place
    · subst here
      exact joins.goes_carry what
    · exact joins.goes_other wired here what

/-! ### The wiring is kept -/

theorem subscriberMoves_cases (x : Exchange) (number : Nat) (move : Move) :
    x.subscriberMoves number move = [] ∨
    (∃ own, isSubscribersOwn own = true ∧ move = .subscriber number own ∧
      x.subscriberMoves number move = [own]) ∨
    (∃ s connection listener, x.Dials number s connection listener ∧ move = .join number ∧
      x.subscriberMoves number move = [.connection connection (.dialled .connected)]) ∨
    ∃ (place : Nat) (pipe : Pipe), x.pipes[place]? = some (number, pipe) ∧
      ((∃ bytes, x.subscriberMoves number move = [.arrive pipe.connection bytes]) ∨
        x.subscriberMoves number move = [.hangUp pipe.connection]) := by
  cases move with
  | publisher move => exact .inl rfl
  | subscriber other own =>
    by_cases made : other = number ∧ isSubscribersOwn own = true
    · obtain ⟨rfl, yes⟩ := made
      refine .inr (.inl ⟨own, yes, rfl, ?_⟩)
      simp only [subscriberMoves, yes, and_self, if_true]
    · exact .inl (by simp only [subscriberMoves, if_neg made])
  | join other =>
    rcases x.join_cases other with ⟨s, connection, listener, dials⟩ | ⟨-, silent, -⟩
    · by_cases here : other = number
      · subst here
        exact .inr (.inr (.inl ⟨s, connection, listener, dials, rfl, (step_join dials).2.1⟩))
      · exact .inl (by simp only [subscriberMoves, if_neg here])
    · exact .inl (silent number)
  | carry place what =>
    rcases x.carry_cases place what with ⟨other, pipe, s, found, there⟩ | ⟨-, silent, -⟩
    · by_cases here : other = number
      · subst here
        have made : x.subscriberMoves other (.carry place what) =
            Joined.downMoves ⟨x.publisher, s, pipe⟩ what := by
          simp only [subscriberMoves, found, there, if_true]
        rw [made]
        rcases Joined.downMoves_cases ⟨x.publisher, s, pipe⟩ what with none | some
        · exact .inl none
        · exact .inr (.inr (.inr ⟨place, pipe, found, some⟩))
      · exact .inl (by simp only [subscriberMoves, found, if_neg here])
    · exact .inl (silent number)

theorem map_set_of_same {α β : Type} {f : α → β} {as : List α} {a b : α} (found : as[place]? = some a)
    (same : f b = f a) : (as.set place b).map f = as.map f := by
  obtain ⟨inside, rfl⟩ := List.getElem?_eq_some_iff.mp found
  have inside' : place < (as.map f).length := by rwa [List.length_map]
  rw [List.map_set, same, ← List.getElem_map f (h := inside')]
  exact List.set_getElem_self inside'

theorem step_pipes (x : Exchange) (move : Move) :
    ((x.step move).publisher.nextLink = x.publisher.nextLink ∧
      (x.step move).pipes.map (·.2.link) = x.pipes.map (·.2.link) ∧
      (x.step move).pipes.map (fun ends => (ends.1, ends.2.connection)) =
        x.pipes.map fun ends => (ends.1, ends.2.connection)) ∨
    ∃ number s connection listener, x.Dials number s connection listener ∧ move = .join number := by
  cases move with
  | publisher move =>
    refine .inl ?_
    cases own : isOwn move with
    | false => simp only [step, own, Bool.false_eq_true, if_false, and_self]
    | true =>
      have next : (x.publisher.step move).nextLink = x.publisher.nextLink := by
        refine Publisher.step_nextLink fun listener registers => ?_
        rw [registers] at own
        cases own
      simp only [step, own, if_true, next, and_self]
  | subscriber number move =>
    refine .inl ?_
    simp only [step]
    split
    · split <;> exact ⟨rfl, rfl, rfl⟩
    · exact ⟨rfl, rfl, rfl⟩
  | join number =>
    rcases x.join_cases number with ⟨s, connection, listener, dials⟩ | ⟨-, -, same⟩
    · exact .inr ⟨number, s, connection, listener, dials, rfl⟩
    · rw [same]
      exact .inl ⟨rfl, rfl, rfl⟩
  | carry place what =>
    refine .inl ?_
    rcases x.carry_cases place what with ⟨number, pipe, s, found, there⟩ | ⟨-, -, same⟩
    · obtain ⟨publisher, -, link, connection⟩ := Joined.after_eq ⟨x.publisher, s, pipe⟩ what
      have next : (x.publisher.run (Joined.upMoves ⟨x.publisher, s, pipe⟩ what)).nextLink =
          x.publisher.nextLink := by
        rcases Joined.upMoves_cases ⟨x.publisher, s, pipe⟩ what with none | ⟨bytes, some⟩ | ends
        · rw [none]; rfl
        · rw [some]; rfl
        · rw [ends]; rfl
      rw [carry_eq found there, publisher]
      exact ⟨next, map_set_of_same found link, map_set_of_same found (by rw [connection])⟩
    · rw [same]
      exact ⟨rfl, rfl, rfl⟩

/-- The ends of the pipe of a subscriber that joins. -/
def newMeeting (x : Exchange) (number : Nat) (s : Subscriber) (peer : Endpoint) (c : Connection) :
    Meeting where
  number := number
  pipe := x.newPipe c.id
  subscriber := s.step (.connection c.id (.dialled .connected))
  link := { id := x.publisher.nextLink, peer := peer, queue := x.publisher.openingQueue }
  connection := { c with stage := .requesting s.request.encode }

theorem Wired.joins_new (wired : x.Wired) {number connection : Nat} {s : Subscriber} {listener : Listener}
    (dials : x.Dials number s connection listener) :
    ∃ c peer, s.connection? connection = some c ∧ c.id = connection ∧ c.stage = .dialling ∧
      (x.step (.join number)).Joins x.pipes.length (x.newMeeting number s peer c) := by
  obtain ⟨c, found, stage⟩ := Subscriber.dialling_of_dialling?
    (wired.subscribers _ s dials.subscriber).1 dials.dialling
  obtain rfl := Subscriber.id_of_connection? found
  obtain ⟨peer, taken⟩ := Publisher.taken?_take dials.waits ⟨listener.endpoint.ip, number⟩
  refine ⟨c, peer, found, rfl, stage, ?_⟩
  obtain ⟨-, -, eq⟩ := step_join dials
  have found' : (s.step (.connection c.id (.dialled .connected))).connection? c.id =
      some { c with stage := .requesting s.request.encode } := by
    simp only [Subscriber.step, found, Subscriber.connectionStep, stage, Subscriber.enter]
    rw [Subscriber.connection?_changeConnection (by exact fun _ => rfl), if_pos rfl, found, Option.map_some]
  rw [eq]
  refine ⟨?_, ?_, ?_, found'⟩
  · exact List.getElem?_concat_length
  · exact List.getElem?_set_self (List.getElem?_eq_some_iff.mp dials.subscriber).1
  · exact Publisher.link?_register (wired.publisher.step _) taken

theorem Joins.step_reached (joins : x.Joins place m) (wired : x.Wired)
    (reached : m.connection.stage ≠ .dialling) (move : Move) :
    ∃ m', (x.step move).Joins place m' ∧ m'.connection.stage ≠ .dialling := by
  obtain ⟨m', _, _, joins', change, -⟩ := joins.goes wired reached move
  refine ⟨m', joins', ?_⟩
  cases change with
  | subscriber own change => exact change.reached reached
  | _ => exact reached

theorem step_subscribers_length (x : Exchange) (move : Move) :
    (x.step move).subscribers.length = x.subscribers.length := by
  cases move with
  | publisher move =>
    simp only [step]
    split <;> rfl
  | subscriber number move =>
    simp only [step]
    split
    · split
      · exact List.length_set
      · rfl
    · rfl
  | join number =>
    rcases x.join_cases number with ⟨s, connection, listener, dials⟩ | ⟨-, -, same⟩
    · rw [(step_join dials).2.2]
      exact List.length_set
    · rw [same]
  | carry place what =>
    rcases x.carry_cases place what with ⟨number, pipe, s, found, there⟩ | ⟨-, -, same⟩
    · rw [carry_eq found there]
      exact List.length_set
    · rw [same]

theorem subscriber_of_step {number : Nat} {s' : Subscriber} {move : Move}
    (there : (x.step move).subscribers[number]? = some s') :
    ∃ s, x.subscribers[number]? = some s ∧ s' = s.run (x.subscriberMoves number move) := by
  cases before : x.subscribers[number]? with
  | none =>
    have outside := List.getElem?_eq_none_iff.mp before
    rw [← x.step_subscribers_length move, ← List.getElem?_eq_none_iff, there] at outside
    cases outside
  | some s =>
    rw [step_subscriber before move] at there
    exact ⟨s, rfl, (Option.some.inj there).symm⟩

theorem subscriber_of_run {number : Nat} {s' : Subscriber} {moves : List Move}
    (there : (x.run moves).subscribers[number]? = some s') :
    ∃ s, x.subscribers[number]? = some s ∧ s' = s.run (x.subscriberRun number moves) := by
  have length : (x.run moves).subscribers.length = x.subscribers.length :=
    run_induction (motive := fun _ (y : Exchange) => y.subscribers.length = x.subscribers.length) rfl
      (fun _ move held => (step_subscribers_length _ move).trans held) moves
  cases before : x.subscribers[number]? with
  | none =>
    have outside := List.getElem?_eq_none_iff.mp before
    rw [← length, ← List.getElem?_eq_none_iff, there] at outside
    cases outside
  | some s =>
    rw [run_subscriber before moves] at there
    exact ⟨s, rfl, (Option.some.inj there).symm⟩

theorem Wired.step_alone (wired : x.Wired) (move : Move) {number id : Nat} {s' : Subscriber}
    {c' : Connection} (there : (x.step move).subscribers[number]? = some s')
    (found : s'.connection? id = some c')
    (unpiped : ∀ (place : Nat) (pipe : Pipe), (x.step move).pipes[place]? = some (number, pipe) →
      pipe.connection ≠ id) : c'.Alone := by
  obtain ⟨s, before, rfl⟩ := subscriber_of_step there
  obtain ⟨numbered, -⟩ := wired.subscribers number s before
  have unpiped' {place : Nat} {pipe : Pipe} (old : x.pipes[place]? = some (number, pipe)) :
      pipe.connection ≠ id := by
    obtain ⟨m, joins, reached⟩ := wired.joined place (List.getElem?_eq_some_iff.mp old).1
    obtain ⟨m', _, _, joins', change, -⟩ := joins.goes wired reached move
    obtain ⟨sameNumber, -, sameConnection⟩ := change.kept
    rw [joins.pipe] at old
    obtain ⟨rfl, rfl⟩ := Prod.mk.inj (Option.some.inj old)
    rw [← sameConnection]
    exact unpiped place m'.pipe (by rw [joins'.pipe, sameNumber])
  have alone {c : Connection} (was : s.connection? id = some c) : c.Alone :=
    wired.alone number id s c before was fun _ _ => unpiped'
  -- What the subscriber has done either begins a connection or leaves this one without a pipe.
  have changed {part : Subscriber.Move} (made : x.subscriberMoves number move = [part])
      (apart : (∀ bytes, part ≠ .arrive id bytes) ∧ part ≠ .hangUp id ∧
        part ≠ .connection id (.dialled .connected)) : c'.Alone := by
    rw [made] at found
    rcases Subscriber.connection?_of_step numbered found with ⟨c, was, change⟩ | ⟨-, -, -, rfl⟩
    · rw [← Subscriber.id_of_connection? was] at apart
      exact (alone was).change change apart
    · exact ⟨rfl, rfl, rfl, .inl rfl⟩
  rcases x.subscriberMoves_cases number move with
    none | ⟨own, yes, -, made⟩ | ⟨t, connection, listener, dials, rfl, made⟩ | ⟨place, pipe, old, some⟩
  · rw [none] at found
    exact alone found
  · refine changed made ⟨fun bytes same => ?_, fun same => ?_, fun same => ?_⟩ <;>
      rw [same] at yes <;> cases yes
  · refine changed made ⟨fun _ no => (by cases no), fun no => (by cases no), fun same => ?_⟩
    obtain ⟨rfl, -⟩ := Subscriber.Move.connection.inj same
    refine unpiped x.pipes.length (x.newPipe connection) ?_ rfl
    rw [(step_join dials).2.2]
    exact List.getElem?_concat_length
  · rcases some with ⟨bytes, made⟩ | made
    · exact changed made ⟨fun _ same => unpiped' old (Subscriber.Move.arrive.inj same).1,
        fun no => (by cases no), fun no => (by cases no)⟩
    · exact changed made ⟨fun _ no => (by cases no),
        fun same => unpiped' old (Subscriber.Move.hangUp.inj same), fun no => (by cases no)⟩

theorem Wired.unpiped (wired : x.Wired) {number connection : Nat} {s : Subscriber} {listener : Listener}
    (dials : x.Dials number s connection listener) :
    (number, connection) ∉ x.pipes.map fun ends => (ends.1, ends.2.connection) := by
  intro there
  obtain ⟨place, inside, same⟩ := List.getElem_of_mem there
  rw [List.length_map] at inside
  rw [List.getElem_map] at same
  obtain ⟨m, joins, reached⟩ := wired.joined place inside
  obtain ⟨_, pipe⟩ := List.getElem?_eq_some_iff.mp joins.pipe
  rw [pipe] at same
  obtain ⟨rfl, rfl⟩ := Prod.mk.inj same
  obtain rfl : m.subscriber = s := Option.some.inj (joins.subscriber.symm.trans dials.subscriber)
  obtain ⟨c, found, stage⟩ := Subscriber.dialling_of_dialling?
    (wired.subscribers _ _ dials.subscriber).1 dials.dialling
  obtain rfl : m.connection = c := Option.some.inj (joins.connection.symm.trans found)
  exact reached stage

theorem Wired.step (wired : x.Wired) (move : Move) : (x.step move).Wired := by
  refine ⟨?_, ?_, ?_, ?_, ?_, fun number id s c there found => wired.step_alone move there found⟩
  · rw [step_publisher]
    exact wired.publisher.run _
  · intro number s' there
    obtain ⟨s, before, rfl⟩ := subscriber_of_step there
    exact Subscriber.kept_run (wired.subscribers number s before) _
  · rcases x.step_pipes move with ⟨next, links, -⟩ | ⟨number, s, connection, listener, dials, rfl⟩
    · rw [next, links]
      exact wired.links
    · rw [(step_join dials).2.2, List.map_append, wired.links]
      obtain ⟨peer, taken⟩ := Publisher.taken?_take dials.waits ⟨listener.endpoint.ip, number⟩
      refine Eq.trans ?_ (congrArg List.range (Publisher.nextLink_register taken)).symm
      exact List.range_succ.symm
  · rcases x.step_pipes move with ⟨-, -, same⟩ | ⟨number, s, connection, listener, dials, rfl⟩
    · rw [same]
      exact wired.connections
    · rw [(step_join dials).2.2, List.map_append]
      refine List.nodup_append.mpr ⟨wired.connections, List.nodup_singleton _, ?_⟩
      intro ends there other new same
      rw [List.map_cons, List.map_nil, List.mem_singleton] at new
      subst new same
      exact wired.unpiped dials there
  · intro place inside
    by_cases old : place < x.pipes.length
    · obtain ⟨m, joins, reached⟩ := wired.joined place old
      exact joins.step_reached wired reached move
    · rcases x.step_pipes move with ⟨-, links, -⟩ | ⟨number, s, connection, listener, dials, rfl⟩
      · have same := congrArg List.length links
        rw [List.length_map, List.length_map] at same
        omega
      · obtain ⟨c, peer, -, -, -, joins⟩ := wired.joins_new dials
        have last : place = x.pipes.length := by
          rw [(step_join dials).2.2, List.length_append, List.length_singleton] at inside
          omega
        exact ⟨_, last ▸ joins, ConnectionStage.noConfusion⟩

end Exchange

end TopicWire
