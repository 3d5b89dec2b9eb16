import TopicWire.Proofs.Session.Connection
import TopicWire.Proofs.Session.Link
import TopicWire.Session.Exchange

/-!
# The two sides of a pipe

A run of an exchange is a run of its publisher and a run of each of its subscribers
(`Exchange.run_publisher`, `Exchange.run_subscriber`). What is carried through a pipe is a move of the
participant that it reaches.
-/

namespace TopicWire

/-! ### The moves of each participant -/

namespace Joined

def after (j : Joined) : Exchange.Carry → Joined
  | .up count => j.carryUp count
  | .down count => j.carryDown count
  | .endUp => j.endUp
  | .endDown => j.endDown

def upMoves (j : Joined) : Exchange.Carry → List Publisher.Move
  | .up count =>
    match j.subscriber.connection? j.pipe.connection with
    | some c => [.arrive j.pipe.link ((c.sent.drop j.pipe.up).take count)]
    | none => []
  | .endUp =>
    match j.subscriber.connection? j.pipe.connection with
    | some c => if !c.isOpen && c.sent.length ≤ j.pipe.up then [.hangUp j.pipe.link] else []
    | none => []
  | _ => []

def downMoves (j : Joined) : Exchange.Carry → List Subscriber.Move
  | .down count =>
    match j.publisher.link? j.pipe.link with
    | some l => [.arrive j.pipe.connection ((l.sent.drop j.pipe.down).take count)]
    | none => []
  | .endDown =>
    match j.publisher.link? j.pipe.link with
    | some l => if !l.stage.isOpen && l.sent.length ≤ j.pipe.down then [.hangUp j.pipe.connection] else []
    | none => []
  | _ => []

theorem after_eq (j : Joined) (what : Exchange.Carry) :
    (j.after what).publisher = j.publisher.run (j.upMoves what) ∧
      (j.after what).subscriber = j.subscriber.run (j.downMoves what) ∧
      (j.after what).pipe.link = j.pipe.link ∧ (j.after what).pipe.connection = j.pipe.connection := by
  cases what with
  | up count =>
    cases found : j.subscriber.connection? j.pipe.connection <;> refine ⟨?_, ?_, ?_, ?_⟩ <;>
      simp only [after, carryUp, upMoves, found] <;> rfl
  | down count =>
    cases found : j.publisher.link? j.pipe.link <;> refine ⟨?_, ?_, ?_, ?_⟩ <;>
      simp only [after, carryDown, downMoves, found] <;> rfl
  | endUp =>
    cases found : j.subscriber.connection? j.pipe.connection with
    | none => refine ⟨?_, ?_, ?_, ?_⟩ <;> simp only [after, endUp, upMoves, found] <;> rfl
    | some c =>
      refine ⟨?_, ?_, ?_, ?_⟩ <;> simp only [after, endUp, upMoves, found] <;> split <;> rfl
  | endDown =>
    cases found : j.publisher.link? j.pipe.link with
    | none => refine ⟨?_, ?_, ?_, ?_⟩ <;> simp only [after, endDown, downMoves, found] <;> rfl
    | some l =>
      refine ⟨?_, ?_, ?_, ?_⟩ <;> simp only [after, endDown, downMoves, found] <;> split <;> rfl

end Joined

namespace Exchange

variable {x : Exchange} {place number connection : Nat} {listener : Listener} {s : Subscriber}
  {pipe : Pipe}

/-- A subscriber dials, and a listener of the publisher waits. -/
structure Dials (x : Exchange) (number : Nat) (s : Subscriber) (connection : Nat)
    (listener : Listener) : Prop where
  subscriber : x.subscribers[number]? = some s
  waits : x.publisher.free? = some listener
  dialling : dialling? s = some connection

/-- A listener takes the connection of a subscriber and registers it. -/
def acceptMoves (listener : Listener) (number : Nat) : List Publisher.Move :=
  [.take listener.id ⟨listener.endpoint.ip, number⟩, .register listener.id]

def newPipe (x : Exchange) (connection : Nat) : Pipe :=
  ⟨x.publisher.nextLink, connection, 0, 0⟩

def publisherMoves (x : Exchange) : Move → List Publisher.Move
  | .publisher move => if isOwn move then [move] else []
  | .subscriber .. => []
  | .join number =>
    match x.subscribers[number]?.bind dialling?, x.publisher.free? with
    | some _, some listener => acceptMoves listener number
    | _, _ => []
  | .carry place what =>
    match x.pipes[place]? with
    | some (number, pipe) =>
      match x.subscribers[number]? with
      | some s => Joined.upMoves ⟨x.publisher, s, pipe⟩ what
      | none => []
    | none => []

def subscriberMoves (x : Exchange) (number : Nat) : Move → List Subscriber.Move
  | .publisher _ => []
  | .subscriber other move => if other = number ∧ isSubscribersOwn move then [move] else []
  | .join other =>
    if other = number then
      match x.subscribers[number]?.bind dialling?, x.publisher.free? with
      | some connection, some _ => [.connection connection (.dialled .connected)]
      | _, _ => []
    else []
  | .carry place what =>
    match x.pipes[place]? with
    | some (other, pipe) =>
      if other = number then
        match x.subscribers[number]? with
        | some s => Joined.downMoves ⟨x.publisher, s, pipe⟩ what
        | none => []
      else []
    | none => []

def publisherRun (x : Exchange) (moves : List Move) : List Publisher.Move :=
  history step publisherMoves x moves

def subscriberRun (x : Exchange) (number : Nat) (moves : List Move) : List Subscriber.Move :=
  history step (subscriberMoves · number) x moves

theorem publisherRun_snoc (x : Exchange) (moves : List Move) (move : Move) :
    x.publisherRun (moves ++ [move]) = x.publisherRun moves ++ (x.run moves).publisherMoves move :=
  history_snoc x moves move

theorem subscriberRun_snoc (x : Exchange) (number : Nat) (moves : List Move) (move : Move) :
    x.subscriberRun number (moves ++ [move]) =
      x.subscriberRun number moves ++ (x.run moves).subscriberMoves number move :=
  history_snoc x moves move

theorem run_append (x : Exchange) (moves later : List Move) :
    x.run (moves ++ later) = (x.run moves).run later :=
  List.foldl_append

/-! ### What a move does -/

theorem step_join (dials : x.Dials number s connection listener) :
    x.publisherMoves (.join number) = acceptMoves listener number ∧
      x.subscriberMoves number (.join number) = [.connection connection (.dialled .connected)] ∧
      x.step (.join number) =
        { publisher := x.publisher.run (acceptMoves listener number)
          subscribers :=
            x.subscribers.set number (s.step (.connection connection (.dialled .connected)))
          pipes := x.pipes ++ [(number, x.newPipe connection)] } := by
  have accepted := Publisher.accept_eq dials.waits ⟨listener.endpoint.ip, number⟩
  refine ⟨?_, ?_, ?_⟩
  · simp only [publisherMoves, dials.subscriber, dials.waits, dials.dialling, Option.bind_some]
  · simp only [subscriberMoves, dials.subscriber, dials.waits, dials.dialling, Option.bind_some, if_true]
  · simp only [step, join, dials.subscriber, dials.waits, dials.dialling, accepted]
    rfl

theorem join_cases (x : Exchange) (number : Nat) :
    (∃ s connection listener, x.Dials number s connection listener) ∨
      x.publisherMoves (.join number) = [] ∧ (∀ other, x.subscriberMoves other (.join number) = []) ∧
        x.step (.join number) = x := by
  cases subscriber : x.subscribers[number]? with
  | none =>
    refine .inr ⟨?_, fun other => ?_, ?_⟩
    · simp only [publisherMoves, subscriber, Option.bind_none]
    · simp only [subscriberMoves]
      split
      · rename_i same
        simp only [← same, subscriber, Option.bind_none]
      · rfl
    · simp only [step, join, subscriber]
  | some s =>
    cases dialling : dialling? s with
    | none =>
      refine .inr ⟨?_, fun other => ?_, ?_⟩
      · simp only [publisherMoves, subscriber, Option.bind_some, dialling]
      · simp only [subscriberMoves]
        split
        · rename_i same
          simp only [← same, subscriber, Option.bind_some, dialling]
        · rfl
      · simp only [step, join, subscriber]
        split
        · rename_i found _
          obtain rfl := Option.some.inj found
          simp only [dialling]
        · rfl
    | some connection =>
      cases waits : x.publisher.free? with
      | none =>
        refine .inr ⟨?_, fun other => ?_, ?_⟩
        · simp only [publisherMoves, waits]
          split <;> first | rfl | contradiction
        · simp only [subscriberMoves, waits]
          split
          · split <;> first | rfl | contradiction
          · rfl
        · simp only [step, join, subscriber, waits]
      | some listener => exact .inl ⟨s, connection, listener, subscriber, waits, dialling⟩

theorem carry_eq (found : x.pipes[place]? = some (number, pipe))
    (there : x.subscribers[number]? = some s) (what : Carry) :
    x.step (.carry place what) =
      { publisher := (Joined.after ⟨x.publisher, s, pipe⟩ what).publisher
        subscribers := x.subscribers.set number (Joined.after ⟨x.publisher, s, pipe⟩ what).subscriber
        pipes := x.pipes.set place (number, (Joined.after ⟨x.publisher, s, pipe⟩ what).pipe) } := by
  simp only [step, carry, found, there]
  cases what <;> rfl

theorem carry_cases (x : Exchange) (place : Nat) (what : Carry) :
    (∃ number pipe s, x.pipes[place]? = some (number, pipe) ∧ x.subscribers[number]? = some s) ∨
      x.publisherMoves (.carry place what) = [] ∧
        (∀ other, x.subscriberMoves other (.carry place what) = []) ∧
        x.step (.carry place what) = x := by
  cases found : x.pipes[place]? with
  | none =>
    refine .inr ?_
    simp only [publisherMoves, subscriberMoves, step, carry, found, implies_true, and_self]
  | some ends =>
    obtain ⟨number, pipe⟩ := ends
    cases there : x.subscribers[number]? with
    | some s => exact .inl ⟨number, pipe, s, rfl, there⟩
    | none =>
      refine .inr ⟨by simp only [publisherMoves, found, there], fun other => ?_,
        by simp only [step, carry, found, there]⟩
      simp only [subscriberMoves, found]
      split
      · rename_i same
        simp only [← same, there]
      · rfl

theorem step_publisher (x : Exchange) (move : Move) :
    (x.step move).publisher = x.publisher.run (x.publisherMoves move) := by
  cases move with
  | publisher move =>
    simp only [step, publisherMoves]
    split <;> rfl
  | subscriber number move =>
    simp only [step, publisherMoves]
    split
    · split <;> rfl
    · rfl
  | join number =>
    rcases x.join_cases number with ⟨s, connection, listener, dials⟩ | ⟨silent, -, same⟩
    · obtain ⟨made, -, eq⟩ := step_join dials
      rw [eq, made]
    · rw [same, silent]
      rfl
  | carry place what =>
    rcases x.carry_cases place what with ⟨number, pipe, s, found, there⟩ | ⟨silent, -, same⟩
    · obtain ⟨publisher, -⟩ := Joined.after_eq ⟨x.publisher, s, pipe⟩ what
      rw [carry_eq found there, publisher]
      simp only [publisherMoves, found, there]
    · rw [same, silent]
      rfl

theorem step_subscriber (there : x.subscribers[number]? = some s) (move : Move) :
    (x.step move).subscribers[number]? = some (s.run (x.subscriberMoves number move)) := by
  have kept {t : Subscriber} {other : Nat} (apart : other ≠ number) :
      (x.subscribers.set other t)[number]? = some s := by
    rw [List.getElem?_set_ne apart]
    exact there
  have changed (t : Subscriber) : (x.subscribers.set number t)[number]? = some t :=
    List.getElem?_set_self (List.getElem?_eq_some_iff.mp there).1
  cases move with
  | publisher move =>
    simp only [step, subscriberMoves]
    split <;> exact there
  | subscriber other move =>
    by_cases here : other = number
    · subst here
      simp only [step, subscriberMoves, there, true_and]
      split
      · exact changed _
      · exact there
    · simp only [subscriberMoves, here, false_and, if_false]
      simp only [step]
      split
      · split
        · exact kept here
        · exact there
      · exact there
  | join other =>
    rcases x.join_cases other with ⟨t, connection, listener, dials⟩ | ⟨-, silent, same⟩
    · obtain ⟨-, made, eq⟩ := step_join dials
      by_cases here : other = number
      · subst here
        obtain rfl : s = t := Option.some.inj (there.symm.trans dials.subscriber)
        rw [eq, made]
        exact changed _
      · simp only [subscriberMoves, here, if_false, eq]
        exact kept here
    · rw [same, silent]
      exact there
  | carry place what =>
    rcases x.carry_cases place what with ⟨other, pipe, t, found, present⟩ | ⟨-, silent, same⟩
    · obtain ⟨-, subscriber, -⟩ := Joined.after_eq ⟨x.publisher, t, pipe⟩ what
      rw [carry_eq found present, subscriber]
      simp only [subscriberMoves, found]
      by_cases here : other = number
      · subst here
        obtain rfl : s = t := Option.some.inj (there.symm.trans present)
        simp only [if_true, there]
        exact changed _
      · rw [if_neg here]
        exact kept here
    · rw [same, silent]
      exact there

theorem run_publisher (x : Exchange) (moves : List Move) :
    (x.run moves).publisher = x.publisher.run (x.publisherRun moves) := by
  refine run_induction (motive := fun moves (y : Exchange) =>
    y.publisher = x.publisher.run (x.publisherRun moves)) rfl (fun moves move held => ?_) moves
  rw [publisherRun_snoc, Publisher.run_append, ← held]
  exact (x.run moves).step_publisher move

theorem run_subscriber (there : x.subscribers[number]? = some s) (moves : List Move) :
    (x.run moves).subscribers[number]? = some (s.run (x.subscriberRun number moves)) := by
  refine run_induction (motive := fun moves (y : Exchange) =>
    y.subscribers[number]? = some (s.run (x.subscriberRun number moves))) there
    (fun moves move held => ?_) moves
  rw [subscriberRun_snoc, Subscriber.run_append]
  exact step_subscriber held move

end Exchange

end TopicWire
