import TopicWire.Proofs.Session.Hooks
import TopicWire.Session.Pipe

/-!
# Both ends of a pipe

A link of a publisher, a connection of a subscriber and the pipe between them make a `Line`. In a round
both ends come to rest and then everything in the pipe arrives. What is left to do on a line has a rank
that each round lowers until nothing moves any more (`Line.Round.lowers`).
-/

namespace TopicWire

structure Line where
  pipe : Pipe
  link : Link
  connection : Connection

namespace Line

def upMoves (x : Line) : List Publisher.Move :=
  .arrive x.pipe.link (x.connection.sent.drop x.pipe.up) ::
    if x.connection.isOpen then [] else [.hangUp x.pipe.link]

def downMoves (x : Line) : List Subscriber.Move :=
  .arrive x.pipe.connection (x.link.sent.drop x.pipe.down) ::
    if x.link.stage.isOpen then [] else [.hangUp x.pipe.connection]

def carried (x : Line) : Line where
  pipe := { x.pipe with
    up := x.pipe.up + (x.connection.sent.drop x.pipe.up).length
    down := x.pipe.down + (x.link.sent.drop x.pipe.down).length }
  link := { x.link with
    inbox := x.link.inbox ++ x.connection.sent.drop x.pipe.up
    inboxEnded := x.link.inboxEnded || !x.connection.isOpen }
  connection := { x.connection with
    inbox := x.connection.inbox ++ x.link.sent.drop x.pipe.down
    inboxEnded := x.connection.inboxEnded || !x.link.stage.isOpen }

end Line

namespace Joined

variable {j : Joined} {l : Link} {c : Connection}

theorem carryUp_eq (found : j.subscriber.connection? j.pipe.connection = some c) :
    j.carryUp c.sent.length = { j with
      publisher := j.publisher.step (.arrive j.pipe.link (c.sent.drop j.pipe.up))
      pipe := { j.pipe with up := j.pipe.up + (c.sent.drop j.pipe.up).length } } := by
  have short : (c.sent.drop j.pipe.up).take c.sent.length = c.sent.drop j.pipe.up :=
    List.take_of_length_le (by rw [List.length_drop]; omega)
  simp only [carryUp, found, short]

theorem carryDown_eq (found : j.publisher.link? j.pipe.link = some l) :
    j.carryDown l.sent.length = { j with
      subscriber := j.subscriber.step (.arrive j.pipe.connection (l.sent.drop j.pipe.down))
      pipe := { j.pipe with down := j.pipe.down + (l.sent.drop j.pipe.down).length } } := by
  have short : (l.sent.drop j.pipe.down).take l.sent.length = l.sent.drop j.pipe.down :=
    List.take_of_length_le (by rw [List.length_drop]; omega)
  simp only [carryDown, found, short]

theorem endUp_eq (found : j.subscriber.connection? j.pipe.connection = some c)
    (all : c.sent.length ≤ j.pipe.up) : j.endUp = { j with
      publisher := j.publisher.run (if c.isOpen then [] else [.hangUp j.pipe.link]) } := by
  cases opened : c.isOpen <;> simp only [endUp, found, opened, all, decide_true] <;> rfl

theorem endDown_eq (found : j.publisher.link? j.pipe.link = some l)
    (all : l.sent.length ≤ j.pipe.down) : j.endDown = { j with
      subscriber := j.subscriber.run (if l.stage.isOpen then [] else [.hangUp j.pipe.connection]) } := by
  cases opened : l.stage.isOpen <;> simp only [endDown, found, opened, all, decide_true] <;> rfl

end Joined

namespace Line

variable {p : Publisher} {s : Subscriber} {x y : Line}

theorem link?_upMoves (found : p.link? x.pipe.link = some x.link) :
    (p.run x.upMoves).link? x.pipe.link = some x.carried.link := by
  have arrives := Publisher.link?_arrive found (x.connection.sent.drop x.pipe.up)
  unfold upMoves carried
  cases opened : x.connection.isOpen with
  | true =>
    rw [Bool.not_true, Bool.or_false]
    exact arrives
  | false =>
    rw [Bool.not_false, Bool.or_true]
    exact Publisher.link?_hangUp arrives

theorem connection?_downMoves (found : s.connection? x.pipe.connection = some x.connection) :
    (s.run x.downMoves).connection? x.pipe.connection = some x.carried.connection := by
  have arrives := Subscriber.connection?_arrive found (x.link.sent.drop x.pipe.down)
  unfold downMoves carried
  cases opened : x.link.stage.isOpen with
  | true =>
    rw [Bool.not_true, Bool.or_false]
    exact arrives
  | false =>
    rw [Bool.not_false, Bool.or_true]
    exact Subscriber.connection?_hangUp arrives

theorem carryAll_eq (link : p.link? x.pipe.link = some x.link)
    (connection : s.connection? x.pipe.connection = some x.connection) :
    Joined.carryAll ⟨p, s, x.pipe⟩ = ⟨p.run x.upMoves, s.run x.downMoves, x.carried.pipe⟩ := by
  have whole (bytes : Bytes) (count : Nat) : bytes.length ≤ count + (bytes.drop count).length := by
    rw [List.length_drop]
    omega
  have up := Publisher.link?_arrive link (x.connection.sent.drop x.pipe.up)
  have down := Subscriber.connection?_arrive connection (x.link.sent.drop x.pipe.down)
  have first := Joined.carryUp_eq (j := ⟨p, s, x.pipe⟩) connection
  have second := Joined.carryDown_eq (j := ⟨_, s, { x.pipe with
    up := x.pipe.up + (x.connection.sent.drop x.pipe.up).length }⟩) up
  have third := Joined.endUp_eq (j := ⟨p.step (.arrive x.pipe.link (x.connection.sent.drop x.pipe.up)), _,
    x.carried.pipe⟩) down (whole x.connection.sent x.pipe.up)
  have fourth := Joined.endDown_eq (j := ⟨p.run x.upMoves, s.step (.arrive x.pipe.connection
    (x.link.sent.drop x.pipe.down)), x.carried.pipe⟩) (link?_upMoves link)
    (whole x.link.sent x.pipe.down)
  simp only [Joined.carryAll, link, connection, Option.elim_some]
  rw [first]
  exact (congrArg (·.endUp.endDown) second).trans ((congrArg (·.endDown) third).trans fourth)

/-! ### Lines at rest -/

/-- Nothing is on its way in the pipe. -/
structure Carried (x : Line) : Prop where
  up : x.connection.sent.length ≤ x.pipe.up
  down : x.link.sent.length ≤ x.pipe.down
  upEnd : x.connection.isOpen = false → x.link.inboxEnded = true
  downEnd : x.link.stage.isOpen = false → x.connection.inboxEnded = true

/-- Nothing moves on the line. -/
structure Still (x : Line) : Prop where
  carried : x.Carried
  link : Publisher.Link.ownMove? x.link = none
  connection : Subscriber.Connection.ownMove? x.connection = none

/-- Both ends come to rest, and then everything in the pipe arrives. -/
def Round (x y : Line) : Prop :=
  ∃ l c, x.link.Settles l ∧ x.connection.Settles c ∧
    y = { x with link := l, connection := c : Line }.carried

theorem carried_carried (x : Line) : x.carried.Carried := by
  have whole (bytes : Bytes) (count : Nat) : bytes.length ≤ count + (bytes.drop count).length := by
    rw [List.length_drop]
    omega
  refine ⟨whole _ _, whole _ _, fun closed => ?_, fun closed => ?_⟩
  · have closed : x.connection.isOpen = false := closed
    change (x.link.inboxEnded || !x.connection.isOpen) = true
    rw [closed, Bool.not_false, Bool.or_true]
  · have closed : x.link.stage.isOpen = false := closed
    change (x.connection.inboxEnded || !x.link.stage.isOpen) = true
    rw [closed, Bool.not_false, Bool.or_true]

theorem carried_link (all : x.connection.sent.length ≤ x.pipe.up)
    (told : x.connection.isOpen = false → x.link.inboxEnded = true) : x.carried.link = x.link := by
  have ended : (x.link.inboxEnded || !x.connection.isOpen) = x.link.inboxEnded := by
    cases opened : x.connection.isOpen with
    | true => rw [Bool.not_true, Bool.or_false]
    | false => rw [told opened, Bool.true_or]
  rw [carried, List.drop_eq_nil_of_le all, List.append_nil, ended]

theorem carried_connection (all : x.link.sent.length ≤ x.pipe.down)
    (told : x.link.stage.isOpen = false → x.connection.inboxEnded = true) :
    x.carried.connection = x.connection := by
  have ended : (x.connection.inboxEnded || !x.link.stage.isOpen) = x.connection.inboxEnded := by
    cases opened : x.link.stage.isOpen with
    | true => rw [Bool.not_true, Bool.or_false]
    | false => rw [told opened, Bool.true_or]
  rw [carried, List.drop_eq_nil_of_le all, List.append_nil, ended]

theorem Carried.carried_eq (arrived : x.Carried) : x.carried = x := by
  have pipe : x.carried.pipe = x.pipe := by
    rw [carried, List.drop_eq_nil_of_le arrived.up, List.drop_eq_nil_of_le arrived.down]
    rfl
  have link := carried_link arrived.up arrived.upEnd
  have connection := carried_connection arrived.down arrived.downEnd
  generalize x.carried = y at pipe link connection
  obtain ⟨_, _, _⟩ := y
  subst pipe link connection
  rfl

theorem Still.round (still : x.Still) (round : x.Round y) : y = x := by
  obtain ⟨l, c, settlesL, settlesC, rfl⟩ := round
  rw [settlesL.idle still.link, settlesC.idle still.connection]
  exact still.carried.carried_eq

/-! ### What is left to do -/

/-- How far a line whose request has been sent is from its rest. A connection that ends gives its link one
more thing to do, and a link that moves gives its connection one. -/
def rank (x : Line) : Nat :=
  2 * x.connection.isOpen.toNat + 2 * (Publisher.Link.ownMove? x.link).isSome.toNat +
    (Subscriber.Connection.ownMove? x.connection).isSome.toNat

theorem rank_le (x : Line) : x.rank ≤ 5 := by
  have opened := Bool.toNat_le x.connection.isOpen
  have link := Bool.toNat_le (Publisher.Link.ownMove? x.link).isSome
  have connection := Bool.toNat_le (Subscriber.Connection.ownMove? x.connection).isSome
  unfold rank
  omega

theorem Round.carried (round : x.Round y) : y.Carried := by
  obtain ⟨l, c, -, -, rfl⟩ := round
  exact carried_carried _

theorem Round.requested (round : x.Round y) (left : Bytes) : y.connection.stage ≠ .requesting left := by
  obtain ⟨l, c, -, settles, rfl⟩ := round
  intro stage
  have rests := settles.rests
  have stage : c.stage = .requesting left := stage
  rw [Subscriber.Connection.ownMove?, stage] at rests
  cases rests

theorem Round.lowers (arrived : x.Carried) (requested : ∀ left, x.connection.stage ≠ .requesting left)
    (round : x.Round y) : x.Still ∨ y.rank < x.rank := by
  obtain ⟨l, c, settlesL, settlesC, rfl⟩ := round
  have sent : c.sent.length ≤ x.pipe.up := by
    rw [settlesC.sent requested]
    exact arrived.up
  -- The link has something to do only if its connection has just ended.
  have link : (Publisher.Link.ownMove? { x with link := l, connection := c : Line }.carried.link).isSome.toNat +
      c.isOpen.toNat ≤ x.connection.isOpen.toNat := by
    by_cases same : c.isOpen = x.connection.isOpen
    · have told : c.isOpen = false → l.inboxEnded = true := by
        intro closed
        rw [settlesL.inboxEnded]
        exact arrived.upEnd (same.symm.trans closed)
      rw [carried_link sent told, settlesL.rests, same]
      simp
    · have ends : x.connection.isOpen = true ∧ c.isOpen = false := by
        cases opened : x.connection.isOpen with
        | false => exact absurd ((settlesC.closed opened).trans opened.symm) same
        | true => exact ⟨rfl, by rwa [opened, Bool.not_eq_true] at same⟩
      rw [ends.1, ends.2]
      exact Bool.toNat_le _
  -- The connection has something to do only if its link has moved.
  have connection : (Subscriber.Connection.ownMove?
      { x with link := l, connection := c : Line }.carried.connection).isSome.toNat ≤
      (Publisher.Link.ownMove? x.link).isSome.toNat := by
    cases own : Publisher.Link.ownMove? x.link with
    | some move => exact Bool.toNat_le _
    | none =>
      obtain rfl := settlesL.idle own
      have told : x.link.stage.isOpen = false → c.inboxEnded = true := by
        intro closed
        rw [settlesC.inboxEnded]
        exact arrived.downEnd closed
      have stays := carried_connection (x := { x with connection := c }) arrived.down told
      rw [stays, settlesC.rests]
      exact Nat.le_refl _
  by_cases quiet : Publisher.Link.ownMove? x.link = none ∧ Subscriber.Connection.ownMove? x.connection = none
  · exact .inl ⟨arrived, quiet.1, quiet.2⟩
  · right
    have busy : 1 ≤ (Publisher.Link.ownMove? x.link).isSome.toNat +
        (Subscriber.Connection.ownMove? x.connection).isSome.toNat := by
      cases own : Publisher.Link.ownMove? x.link with
      | some move => simp
      | none =>
        cases own' : Subscriber.Connection.ownMove? x.connection with
        | some move => simp
        | none => exact absurd ⟨own, own'⟩ quiet
    have opened : { x with link := l, connection := c : Line }.carried.connection.isOpen = c.isOpen := rfl
    unfold rank
    rw [opened]
    omega

end Line

end TopicWire
