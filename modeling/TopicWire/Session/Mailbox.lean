import TopicWire.Session.Queue

/-!
# Waiting for a frame

A queue with one reader that waits while there is nothing to hand out. A push and a close change the
queue first and wake the reader afterwards, so that anything can come in between. A wake-up for a
reader that does not wait is kept as a permit, which the next wait uses up; a reader that gives up
after it was woken leaves its wake-up behind as a permit.
-/

namespace TopicWire

inductive Reader where
  | idle
  | looking
  /-- It has found nothing and is going to wait. -/
  | settling
  | waiting
  | woken
deriving DecidableEq, Repr

/-- A queue, its reader and the wake-ups between them. -/
structure Mailbox where
  queue : SendQueue
  reader : Reader := .idle
  /-- A wake-up that is kept for the next wait. -/
  permit : Bool := false
  /-- Wake-ups that are due for changes made already. -/
  due : Nat := 0
deriving DecidableEq

namespace Mailbox

inductive Move where
  | push (frame : Bytes)
  | close
  | wake
  | ask
  | look
  /-- The reader goes to sleep, unless there is a permit. -/
  | settle
  | resume
  | cancel
deriving DecidableEq

/-- Gives a wake-up: to the reader if it waits, else as a permit. -/
def notify (m : Mailbox) : Mailbox :=
  if m.reader = .waiting then { m with reader := .woken } else { m with permit := true }

/-- What the reader gets from looking into the queue; without a frame it goes on to wait. -/
def look (m : Mailbox) : Popped × Mailbox :=
  let (popped, queue) := m.queue.pop
  (popped, { m with queue := queue, reader := if popped = .nothing then .settling else .idle })

/-- One move. A move that is not possible changes nothing. -/
def step (m : Mailbox) : Move → Mailbox
  | .push frame =>
    let (outcome, queue) := m.queue.push frame
    if outcome = .closed then m else { m with queue := queue, due := m.due + 1 }
  | .close => { m with queue := m.queue.close, due := m.due + 1 }
  | .wake => if 0 < m.due then { m.notify with due := m.due - 1 } else m
  | .ask => if m.reader = .idle then { m with reader := .looking } else m
  | .look => if m.reader = .looking then m.look.2 else m
  | .settle =>
    if m.reader = .settling then
      if m.permit then { m with permit := false, reader := .looking }
      else { m with reader := .waiting }
    else m
  | .resume => if m.reader = .woken then { m with reader := .looking } else m
  | .cancel =>
    match m.reader with
    | .woken => { m with reader := .idle, permit := true }
    | _ => { m with reader := .idle }

def run (m : Mailbox) (moves : List Move) : Mailbox :=
  moves.foldl step m

/-- A push by someone whom nobody interrupts. -/
def push (m : Mailbox) (frame : Bytes) : Push × Mailbox :=
  ((m.queue.push frame).1, (m.step (.push frame)).step .wake)

def close (m : Mailbox) : Mailbox :=
  (m.step .close).step .wake

/-- The reader asks for a frame or goes on with its wait, as far as it can get: it ends with a frame,
with the end of the queue, or asleep. The fuel covers a permit that turns out to be stale. -/
def poll : (fuel : Nat) → Mailbox → Popped × Mailbox
  | 0, m => (.nothing, m)
  | fuel + 1, m =>
    match m.reader with
    | .idle => poll fuel (m.step .ask)
    | .woken => poll fuel (m.step .resume)
    | .settling => poll fuel (m.step .settle)
    | .waiting => (.nothing, m)
    | .looking =>
      match m.look with
      | (.nothing, m) => poll fuel m
      | (popped, m) => (popped, m)

end Mailbox

end TopicWire
