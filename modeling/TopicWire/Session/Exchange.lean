import TopicWire.Session.Pipe

/-!
# Exchanges

A publisher and its subscribers, with the pipes between them. `Exchange.step` makes one move of the
publisher, of a subscriber or of a pipe; they can come in any order.
-/

namespace TopicWire

structure Exchange where
  publisher : Publisher
  subscribers : List Subscriber
  /-- The pipes, each with the place of its subscriber. -/
  pipes : List (Nat × Pipe) := []

namespace Exchange

/-- What happens to the bytes in a pipe. -/
inductive Carry where
  | up (count : Nat)
  | down (count : Nat)
  | endUp
  | endDown
deriving DecidableEq, Repr

inductive Move where
  | publisher (move : Publisher.Move)
  | subscriber (number : Nat) (move : Subscriber.Move)
  | join (number : Nat)
  | carry (pipe : Nat) (what : Carry)

/-- A move of a publisher that does not come through a pipe. -/
def isOwn : Publisher.Move → Bool
  | .take .. => false
  | .register _ => false
  | .arrive .. => false
  | .hangUp _ => false
  | _ => true

def isSubscribersOwn : Subscriber.Move → Bool
  | .arrive .. => false
  | .hangUp _ => false
  | .connection _ (.dialled .connected) => false
  | _ => true

def dialling? (s : Subscriber) : Option Nat :=
  (s.connections.find? fun c => match c.stage with
    | .dialling => true
    | _ => false).map (·.id)

/-- A subscriber that dials reaches the publisher if one of its listeners waits. -/
def join (x : Exchange) (number : Nat) : Exchange :=
  match x.subscribers[number]?, x.publisher.free? with
  | some s, some listener =>
    match dialling? s with
    | none => x
    | some connection =>
      let pipe : Pipe := ⟨x.publisher.nextLink, connection, 0, 0⟩
      { publisher := x.publisher.accept ⟨listener.endpoint.ip, number⟩
        subscribers := x.subscribers.set number (s.step (.connection connection (.dialled .connected)))
        pipes := x.pipes ++ [(number, pipe)] }
  | _, _ => x

def carry (x : Exchange) (pipe : Nat) (what : Carry) : Exchange :=
  match x.pipes[pipe]? with
  | none => x
  | some (number, p) =>
    match x.subscribers[number]? with
    | none => x
    | some s =>
      let joined : Joined := ⟨x.publisher, s, p⟩
      let joined := match what with
        | .up count => joined.carryUp count
        | .down count => joined.carryDown count
        | .endUp => joined.endUp
        | .endDown => joined.endDown
      { publisher := joined.publisher
        subscribers := x.subscribers.set number joined.subscriber
        pipes := x.pipes.set pipe (number, joined.pipe) }

def step (x : Exchange) : Move → Exchange
  | .publisher move => if isOwn move then { x with publisher := x.publisher.step move } else x
  | .subscriber number move =>
    match x.subscribers[number]? with
    | some s =>
      if isSubscribersOwn move then
        { x with subscribers := x.subscribers.set number (s.step move) }
      else x
    | none => x
  | .join number => x.join number
  | .carry pipe what => x.carry pipe what

def run (x : Exchange) (moves : List Move) : Exchange :=
  moves.foldl step x

end Exchange

end TopicWire
