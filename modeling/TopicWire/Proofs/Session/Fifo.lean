import TopicWire.Proofs.History
import TopicWire.Proofs.Session.Queue

/-!
# Send queues as bounded queues

Pushes, pops and closes can follow each other in any order. `SendQueue.Ledger` says where every
accepted frame is: it has been taken or evicted, in the order of the pushes, or is still held.
`SendQueue.ledger_run` carries it through a run, and `SendQueue.bounded_fifo` says what the next push
and the next pop do then.
-/

namespace TopicWire

namespace Departure

def evicted? : Departure → Option Bytes
  | .taken _ => none
  | .evicted frame => some frame

end Departure

namespace SendQueue

inductive Move where
  | push (frame : Bytes)
  | pop
  | close

def step (q : SendQueue) : Move → SendQueue
  | .push frame => (q.push frame).2
  | .pop => q.pop.2
  | .close => q.close

def run (q : SendQueue) (moves : List Move) : SendQueue :=
  moves.foldl step q

def accepts (q : SendQueue) : Move → List Bytes
  | .push frame => if (q.push frame).1.isQueued then [frame] else []
  | _ => []

/-- The frames that leave the queue, as the result of a pop or for a newer one. -/
def departs (q : SendQueue) : Move → List Departure
  | .push frame => q.evicts frame
  | .pop => q.hands
  | .close => []

def accepted (q : SendQueue) : List Move → List Bytes :=
  history step accepts q

def departed (q : SendQueue) : List Move → List Departure :=
  history step departs q

/-- Where the accepted frames are. -/
structure Ledger (capacity : Nat) (policy : OverflowPolicy) (accepted : List Bytes)
    (departed : List Departure) (q : SendQueue) : Prop where
  capacity_eq : q.capacity = max capacity 1
  policy_eq : q.policy = policy
  /-- The queue does not hold more than it has room for. -/
  room : q.frames.length ≤ q.capacity
  /-- Frames leave in the order of the pushes, the taken ones and the evicted ones, and then come those
  that are held. -/
  along : departed.map Departure.frame ++ q.frames <+: accepted
  /-- Until an overflow no accepted frame is missing. -/
  whole : q.overflowed = false → departed.map Departure.frame ++ q.frames = accepted
  counted : q.dropped = (departed.filterMap Departure.evicted?).length
  /-- An overflow closes the queue and discards what it held. -/
  overflow : q.overflowed = true → q.closed = true ∧ q.frames = []
  told : q.Told

variable {capacity : Nat} {policy : OverflowPolicy} {taken : List Bytes} {gone : List Departure}
  {q : SendQueue}

theorem evicts_evicted (q : SendQueue) (frame : Bytes) :
    ((q.evicts frame).filterMap Departure.evicted?).length = (q.evicts frame).length := by
  rcases q.push_cases frame with ⟨-, -, none⟩ | ⟨-, -, -, none⟩ | ⟨-, -, -, -, oldest⟩ |
    ⟨-, -, -, -, none⟩
  · rw [none]
    rfl
  · rw [none]
    rfl
  · rw [oldest]
    cases q.frames <;> rfl
  · rw [none]
    rfl

namespace Ledger

theorem not_overflowed (ledger : q.Ledger capacity policy taken gone) (opened : q.closed = false) :
    q.overflowed = false := by
  refine Bool.eq_false_iff.mpr fun overflowed => ?_
  rw [(ledger.overflow overflowed).1] at opened
  cases opened

theorem room_pos (ledger : q.Ledger capacity policy taken gone) : 0 < q.capacity := by
  rw [ledger.capacity_eq]
  exact Nat.le_max_right capacity 1

theorem push (ledger : q.Ledger capacity policy taken gone) (frame : Bytes) :
    (q.push frame).2.Ledger capacity policy (taken ++ q.accepts (.push frame))
      (gone ++ q.evicts frame) := by
  have told := ledger.told.push frame
  have counted : (q.push frame).2.dropped =
      ((gone ++ q.evicts frame).filterMap Departure.evicted?).length := by
    rw [push_dropped ledger.room_pos, List.filterMap_append, List.length_append, evicts_evicted,
      ledger.counted]
  have whole (opened : (q.push frame).2.closed = false) :
      (gone ++ q.evicts frame).map Departure.frame ++ (q.push frame).2.frames = taken ++ [frame] := by
    have before := closed_of_push opened
    rw [List.map_append, List.append_assoc, push_whole opened, ← List.append_assoc,
      ledger.whole (ledger.not_overflowed before)]
  have calm (opened : q.closed = false) {P : Prop} (overflowed : q.overflowed = true) : P := by
    rw [ledger.not_overflowed opened] at overflowed
    cases overflowed
  rcases q.push_cases frame with ⟨closed, eq, none⟩ | ⟨opened, room, eq, none⟩ |
    ⟨opened, -, full, eq, oldest⟩ | ⟨opened, -, full, eq, none⟩ <;>
    rw [accepts, eq] <;> rw [eq] at told counted whole
  · rw [none]
    exact (List.append_nil taken).symm ▸ (List.append_nil gone).symm ▸ ledger
  · have room : (q.frames ++ [frame]).length ≤ q.capacity := by
      rw [List.length_append]
      exact room
    exact ⟨ledger.capacity_eq, ledger.policy_eq, room, whole opened ▸ List.prefix_rfl,
      fun _ => whole opened, counted, calm opened, told⟩
  · have room : (q.frames.tail ++ [frame]).length ≤ q.capacity := by
      have positive := ledger.room_pos
      have := ledger.room
      rw [List.length_append, List.length_tail, List.length_singleton]
      omega
    exact ⟨ledger.capacity_eq, ledger.policy_eq, room, whole opened ▸ List.prefix_rfl,
      fun _ => whole opened, counted, calm opened, told⟩
  · have along : (gone ++ q.evicts frame).map Departure.frame ++ [] <+: taken ++ [] := by
      rw [none, List.append_nil, List.append_nil, List.append_nil]
      exact (List.prefix_append _ _).trans ledger.along
    exact ⟨ledger.capacity_eq, ledger.policy_eq, Nat.zero_le _, along, (fun no => by cases no),
      counted, fun _ => ⟨rfl, rfl⟩, told⟩

theorem pop (ledger : q.Ledger capacity policy taken gone) :
    q.pop.2.Ledger capacity policy taken (gone ++ q.hands) := by
  rcases q.pop_cases with ⟨-, eq, none⟩ | ⟨-, -, eq, none⟩ | ⟨f, rest, opened, frames, eq, handed⟩
  · rw [eq, none, List.append_nil]
    exact ledger
  · rw [eq, none, List.append_nil]
    exact ledger
  · have moved : (gone ++ [Departure.taken f]).map Departure.frame ++ rest =
        gone.map Departure.frame ++ q.frames := by
      rw [frames, List.map_append, List.append_assoc]
      rfl
    have same : (gone ++ [Departure.taken f]).filterMap Departure.evicted? =
        gone.filterMap Departure.evicted? := by
      rw [List.filterMap_append]
      exact List.append_nil _
    have room : rest.length ≤ q.capacity := by
      have := ledger.room
      rw [frames, List.length_cons] at this
      omega
    rw [eq, handed]
    refine ⟨ledger.capacity_eq, ledger.policy_eq, room, ?_, fun calm => ?_, ?_, fun overflowed => ?_,
      ledger.told⟩
    · rw [moved]
      exact ledger.along
    · rw [moved]
      exact ledger.whole calm
    · rw [same]
      exact ledger.counted
    · rw [ledger.not_overflowed opened] at overflowed
      cases overflowed

theorem close (ledger : q.Ledger capacity policy taken gone) :
    q.close.Ledger capacity policy taken gone :=
  { ledger with
    overflow := fun overflowed => ⟨rfl, (ledger.overflow overflowed).2⟩
    told := q.told_close }

theorem step (ledger : q.Ledger capacity policy taken gone) (move : Move) :
    (q.step move).Ledger capacity policy (taken ++ q.accepts move) (gone ++ q.departs move) := by
  cases move with
  | push frame => exact ledger.push frame
  | pop =>
    have none : q.accepts .pop = [] := rfl
    rw [none, List.append_nil]
    exact ledger.pop
  | close =>
    have none : q.accepts .close = [] := rfl
    have stays : q.departs .close = [] := rfl
    rw [none, stays, List.append_nil, List.append_nil]
    exact ledger.close

end Ledger

theorem ledger_new (capacity : Nat) (policy : OverflowPolicy) :
    (new capacity policy).Ledger capacity policy [] [] where
  capacity_eq := rfl
  policy_eq := rfl
  room := Nat.zero_le _
  along := List.prefix_rfl
  whole := fun _ => rfl
  counted := rfl
  overflow := fun no => by cases no
  told := rfl

theorem ledger_run (capacity : Nat) (policy : OverflowPolicy) (moves : List Move) :
    ((new capacity policy).run moves).Ledger capacity policy ((new capacity policy).accepted moves)
      ((new capacity policy).departed moves) := by
  refine run_induction (motive := fun moves (q : SendQueue) => q.Ledger capacity policy
    ((new capacity policy).accepted moves) ((new capacity policy).departed moves))
    (ledger_new capacity policy) (fun moves move ledger => ?_) moves
  rw [accepted, departed, history_snoc, history_snoc]
  exact ledger.step move

/-! ### Once closed -/

theorem step_closed (closed : q.closed = true) (told : q.Told) (move : Move) : q.step move = q := by
  cases move with
  | push frame => rw [step, push_closed closed]
  | pop => rw [step, SendQueue.pop, if_pos closed]
  | close =>
    obtain ⟨capacity, policy, frames, _, _, overflowed, dropped⟩ := q
    obtain rfl : _ = true := closed
    obtain rfl : _ = true := told
    rfl

theorem run_closed (closed : q.closed = true) (told : q.Told) (moves : List Move) :
    q.run moves = q := by
  induction moves with
  | nil => rfl
  | cons move moves ih => rw [run, List.foldl_cons, step_closed closed told, ← run, ih]

/-! ### The next push and the next pop -/

/-- When a push has which result, and what it then does to the queue. -/
structure Answers (q : SendQueue) (frame : Bytes) : Prop where
  closed_iff : (q.push frame).1 = .closed ↔ q.closed = true
  queued_iff : (q.push frame).1 = .queued ↔ q.closed = false ∧ q.frames.length < q.capacity
  dropped_iff : (q.push frame).1 = .droppedOldest ↔
    q.closed = false ∧ q.frames.length = q.capacity ∧ q.policy = .dropOldest
  overflow_iff : (q.push frame).1 = .overflow ↔
    q.closed = false ∧ q.frames.length = q.capacity ∧ q.policy = .disconnect
  of_closed : (q.push frame).1 = .closed → (q.push frame).2 = q
  of_queued : (q.push frame).1 = .queued →
    (q.push frame).2 = { q with frames := q.frames ++ [frame] }
  of_dropped : (q.push frame).1 = .droppedOldest → ∃ oldest rest, q.frames = oldest :: rest ∧
    (q.push frame).2 = { q with frames := rest ++ [frame], dropped := q.dropped + 1 }
  of_overflow : (q.push frame).1 = .overflow → (q.push frame).2 =
    { q with frames := [], closed := true, announced := true, overflowed := true }

theorem Ledger.answers (ledger : q.Ledger capacity policy taken gone) (frame : Bytes) :
    q.Answers frame := by
  have positive := ledger.room_pos
  have room := ledger.room
  rcases q.push_cases frame with ⟨closed, eq, -⟩ | ⟨opened, less, eq, -⟩ |
    ⟨opened, policy, full, eq, -⟩ | ⟨opened, policy, full, eq, -⟩
  · constructor <;> rw [eq] <;> simp [closed]
  · constructor <;> rw [eq] <;> simp [opened, less, Nat.ne_of_lt less]
  · have filled := Nat.le_antisymm room full
    obtain ⟨oldest, rest, frames⟩ : ∃ oldest rest, q.frames = oldest :: rest :=
      List.exists_cons_of_length_pos (filled ▸ positive)
    constructor <;> rw [eq]
    case of_dropped => exact fun _ => ⟨oldest, rest, frames, by rw [frames, List.tail_cons]⟩
    all_goals simp [opened, policy, filled]
  · have filled := Nat.le_antisymm room full
    constructor <;> rw [eq] <;> simp [opened, policy, filled]

/-- When a pop has which result, and what it then does to the queue. -/
structure Yields (q : SendQueue) : Prop where
  ended_iff : q.pop.1 = .ended ↔ q.closed = true
  nothing_iff : q.pop.1 = .nothing ↔ q.closed = false ∧ q.frames = []
  frame_iff : ∀ frame, q.pop.1 = .frame frame ↔ q.closed = false ∧ q.frames.head? = some frame
  of_ended : q.pop.1 = .ended → q.pop.2 = q
  of_nothing : q.pop.1 = .nothing → q.pop.2 = q
  of_frame : ∀ frame, q.pop.1 = .frame frame → q.pop.2 = { q with frames := q.frames.tail }

theorem yields (q : SendQueue) : q.Yields := by
  rcases q.pop_cases with ⟨closed, eq, -⟩ | ⟨opened, empty, eq, -⟩ | ⟨f, rest, opened, frames, eq, -⟩
  · constructor <;> rw [eq] <;> simp [closed]
  · constructor <;> rw [eq] <;> simp [opened, empty]
  · constructor <;> rw [eq] <;> simp [opened, frames]

/-- Whatever was done with a queue, its frames are accounted for. The next push is accepted, evicts or
overflows as there is room and as the policy says; the next pop of an open queue hands out the oldest
frame, or nothing from an empty one; closing keeps all else; and a closed queue never changes again. -/
theorem bounded_fifo (capacity : Nat) (policy : OverflowPolicy) (moves : List Move) :
    let q := (new capacity policy).run moves
    q.Ledger capacity policy ((new capacity policy).accepted moves)
      ((new capacity policy).departed moves) ∧
    (∀ frame, q.Answers frame) ∧ q.Yields ∧
    q.close = { q with closed := true, announced := true } ∧
    (q.closed = true → ∀ more, q.run more = q ∧ q.pop = (.ended, q)) := by
  have ledger := ledger_run capacity policy moves
  refine ⟨ledger, ledger.answers, yields _, rfl, fun closed more =>
    ⟨run_closed closed ledger.told more, ?_⟩⟩
  rw [SendQueue.pop, if_pos closed]

end SendQueue

end TopicWire
