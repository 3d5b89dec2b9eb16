import TopicWire.Bytes
import TopicWire.Session.Settings

/-!
# Send queues

Frames on their way to one subscriber, first in, first out. A full queue either drops its oldest
frame or closes, and a closed queue stays closed and hands out nothing more.
-/

namespace TopicWire

inductive Push where
  | queued
  /-- It was queued, and the oldest frame was dropped for it. -/
  | droppedOldest
  /-- The queue was full, and it is closed now. -/
  | overflow
  | closed
deriving DecidableEq, Repr

/-- The frame will be sent. -/
def Push.isQueued : Push → Bool
  | .queued => true
  | .droppedOldest => true
  | _ => false

inductive Popped where
  | frame (f : Bytes)
  | ended
  /-- There is nothing to hand out yet. -/
  | nothing
deriving DecidableEq

/-- The frames for one subscriber, the oldest first. -/
structure SendQueue where
  capacity : Nat
  policy : OverflowPolicy
  frames : List Bytes := []
  closed : Bool := false
  /-- Those who wait for the end of the queue have been told of it. -/
  announced : Bool := false
  /-- The queue was closed because it was full. -/
  overflowed : Bool := false
  dropped : Nat := 0
deriving DecidableEq

namespace SendQueue

/-- An empty queue with room for at least one frame. -/
def new (capacity : Nat) (policy : OverflowPolicy) : SendQueue :=
  { capacity := max capacity 1, policy := policy }

def push (q : SendQueue) (frame : Bytes) : Push × SendQueue :=
  if q.closed then (.closed, q)
  else if q.frames.length < q.capacity then (.queued, { q with frames := q.frames ++ [frame] })
  else match q.policy with
    | .dropOldest =>
      (.droppedOldest,
        { q with frames := q.frames.tail ++ [frame], dropped := q.dropped + 1 })
    | .disconnect =>
      (.overflow, { q with frames := [], closed := true, announced := true, overflowed := true })

def pop (q : SendQueue) : Popped × SendQueue :=
  if q.closed then (.ended, q)
  else match q.frames with
    | [] => (.nothing, q)
    | frame :: rest => (.frame frame, { q with frames := rest })

/-- Closes the queue; what it holds will not be handed out. -/
def close (q : SendQueue) : SendQueue :=
  { q with closed := true, announced := true }

end SendQueue

end TopicWire
