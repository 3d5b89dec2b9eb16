import TopicWire.Session.Queue

/-!
# What leaves a send queue

A frame leaves a queue because it is taken or because it makes room for a newer one. `push_along`
and `pop_cases` say that frames leave in the order in which they came.
-/

namespace TopicWire

/-- A frame that has left a queue. -/
inductive Departure where
  | taken (frame : Bytes)
  | evicted (frame : Bytes)
deriving DecidableEq

namespace Departure

def frame : Departure → Bytes
  | .taken frame => frame
  | .evicted frame => frame

def taken? : Departure → Option Bytes
  | .taken frame => some frame
  | .evicted _ => none

theorem taken_sublist (ds : List Departure) : (ds.filterMap taken?).Sublist (ds.map frame) := by
  induction ds with
  | nil => exact .slnil
  | cons d ds ih =>
    cases d with
    | taken f => exact ih.cons_cons f
    | evicted f => exact ih.cons f

theorem taken_eq_of_length {ds : List Departure} (all : (ds.filterMap taken?).length = ds.length) :
    ds.filterMap taken? = ds.map frame :=
  (taken_sublist ds).eq_of_length (by rw [all, List.length_map])

end Departure

namespace SendQueue

variable {q : SendQueue} {frame : Bytes}

def evicts (q : SendQueue) (frame : Bytes) : List Departure :=
  if (q.push frame).1 = .droppedOldest then (q.frames.head?.map .evicted).toList else []

def hands (q : SendQueue) : List Departure :=
  match q.pop.1 with
  | .frame f => [.taken f]
  | _ => []

theorem push_closed (closed : q.closed = true) : q.push frame = (.closed, q) := by
  rw [push, if_pos closed]

theorem push_cases (q : SendQueue) (frame : Bytes) :
    (q.closed = true ∧ q.push frame = (.closed, q) ∧ q.evicts frame = []) ∨
    (q.closed = false ∧ q.frames.length < q.capacity ∧
      q.push frame = (.queued, { q with frames := q.frames ++ [frame] }) ∧ q.evicts frame = []) ∨
    (q.closed = false ∧ q.policy = .dropOldest ∧ q.capacity ≤ q.frames.length ∧ q.push frame =
        (.droppedOldest, { q with frames := q.frames.tail ++ [frame], dropped := q.dropped + 1 }) ∧
      q.evicts frame = (q.frames.head?.map .evicted).toList) ∨
    (q.closed = false ∧ q.policy = .disconnect ∧ q.capacity ≤ q.frames.length ∧ q.push frame =
        (.overflow, { q with frames := [], closed := true, announced := true, overflowed := true }) ∧
      q.evicts frame = []) := by
  unfold evicts push
  cases closed : q.closed with
  | true => simp
  | false =>
    by_cases room : q.frames.length < q.capacity
    · simp [room]
    · cases policy : q.policy <;> simp [room, Nat.le_of_not_lt room]

theorem push_keeps (q : SendQueue) (frame : Bytes) :
    (q.push frame).2.policy = q.policy ∧ (q.push frame).2.capacity = q.capacity := by
  rcases q.push_cases frame with ⟨-, eq, -⟩ | ⟨-, -, eq, -⟩ | ⟨-, -, -, eq, -⟩ | ⟨-, -, -, eq, -⟩ <;>
    rw [eq] <;> exact ⟨rfl, rfl⟩

theorem push_closes (q : SendQueue) (frame : Bytes) :
    (q.push frame).2.closed = q.closed ∧ (q.push frame).2.overflowed = q.overflowed ∨
      (q.push frame).2.overflowed = true := by
  rcases q.push_cases frame with ⟨-, eq, -⟩ | ⟨-, -, eq, -⟩ | ⟨-, -, -, eq, -⟩ | ⟨-, -, -, eq, -⟩ <;>
    rw [eq]
  · exact .inl ⟨rfl, rfl⟩
  · exact .inl ⟨rfl, rfl⟩
  · exact .inl ⟨rfl, rfl⟩
  · exact .inr rfl

/-- Those who wait for the end of a queue know of it as soon as the queue is closed. -/
def Told (q : SendQueue) : Prop :=
  q.announced = q.closed

theorem Told.push (told : q.Told) (frame : Bytes) : (q.push frame).2.Told := by
  rcases q.push_cases frame with ⟨-, eq, -⟩ | ⟨-, -, eq, -⟩ | ⟨-, -, -, eq, -⟩ | ⟨-, -, -, eq, -⟩ <;>
    rw [eq]
  · exact told
  · exact told
  · exact told
  · rfl

theorem told_close (q : SendQueue) : q.close.Told := rfl

theorem closed_of_push (opened : (q.push frame).2.closed = false) : q.closed = false := by
  cases closed : q.closed with
  | false => rfl
  | true => rw [push_closed closed, closed] at opened; cases opened

/-- A push adds the frame at the end and lets the evicted one go from the front. -/
theorem push_whole (opened : (q.push frame).2.closed = false) :
    (q.evicts frame).map Departure.frame ++ (q.push frame).2.frames = q.frames ++ [frame] := by
  rcases q.push_cases frame with ⟨closed, -⟩ | ⟨-, -, eq, none⟩ | ⟨-, -, -, eq, oldest⟩ |
    ⟨-, -, -, eq, -⟩
  · rw [closed_of_push opened] at closed
    cases closed
  · rw [eq, none]
    rfl
  · rw [eq, oldest]
    cases q.frames <;> rfl
  · rw [eq] at opened
    cases opened

theorem push_along (q : SendQueue) (frame : Bytes) :
    (q.evicts frame).map Departure.frame ++ (q.push frame).2.frames <+: q.frames ++ [frame] := by
  cases opened : (q.push frame).2.closed with
  | false => exact push_whole opened ▸ List.prefix_rfl
  | true =>
    -- Nothing is evicted, and what is left of the queue is all of it or nothing.
    rcases q.push_cases frame with ⟨-, eq, none⟩ | ⟨closed, -, eq, -⟩ | ⟨closed, -, -, eq, -⟩ |
      ⟨-, -, -, eq, none⟩
    · rw [eq, none]
      exact List.prefix_append _ _
    · rw [eq, closed] at opened
      cases opened
    · rw [eq, closed] at opened
      cases opened
    · rw [eq, none]
      exact List.nil_prefix

theorem evicts_taken (q : SendQueue) (frame : Bytes) :
    (q.evicts frame).filterMap Departure.taken? = [] := by
  rcases q.push_cases frame with ⟨-, -, none⟩ | ⟨-, -, -, none⟩ | ⟨-, -, -, -, oldest⟩ |
    ⟨-, -, -, -, none⟩
  · rw [none, List.filterMap_nil]
  · rw [none, List.filterMap_nil]
  · rw [oldest]
    cases q.frames <;> rfl
  · rw [none, List.filterMap_nil]

theorem push_dropped (room : 0 < q.capacity) (frame : Bytes) :
    (q.push frame).2.dropped = q.dropped + (q.evicts frame).length := by
  rcases q.push_cases frame with ⟨-, eq, none⟩ | ⟨-, -, eq, none⟩ | ⟨-, -, full, eq, oldest⟩ |
    ⟨-, -, -, eq, none⟩
  · rw [eq, none]
    rfl
  · rw [eq, none]
    rfl
  · rw [eq, oldest]
    cases frames : q.frames with
    | nil =>
      rw [frames, List.length_nil] at full
      omega
    | cons f rest => rfl
  · rw [eq, none]
    rfl

theorem evicts_of_disconnect (policy : q.policy = .disconnect) : q.evicts frame = [] := by
  rcases q.push_cases frame with ⟨-, -, none⟩ | ⟨-, -, -, none⟩ | ⟨-, other, -⟩ | ⟨-, -, -, -, none⟩
  · exact none
  · exact none
  · rw [policy] at other
    cases other
  · exact none

theorem push_new (capacity : Nat) (policy : OverflowPolicy) (frame : Bytes) :
    (new capacity policy).push frame = (.queued, { new capacity policy with frames := [frame] }) := by
  have room : (new capacity policy).frames.length < (new capacity policy).capacity :=
    Nat.le_max_right capacity 1
  have opened : ¬ (new capacity policy).closed = true := Bool.false_ne_true
  rw [push, if_neg opened, if_pos room]
  rfl

theorem pop_cases (q : SendQueue) :
    (q.closed = true ∧ q.pop = (.ended, q) ∧ q.hands = []) ∨
    (q.closed = false ∧ q.frames = [] ∧ q.pop = (.nothing, q) ∧ q.hands = []) ∨
    ∃ f rest, q.closed = false ∧ q.frames = f :: rest ∧
      q.pop = (.frame f, { q with frames := rest }) ∧ q.hands = [.taken f] := by
  unfold hands pop
  cases closed : q.closed with
  | true => simp
  | false => cases frames : q.frames <;> simp

end SendQueue

end TopicWire
