import TopicWire.Command.Echo
import TopicWire.Proofs.Json.Text

/-!
# What is echoed

An echo goes on as long as the publisher is there and fewer messages have come than were asked for
(`Echo.Waits`). What it has received so far determines it (`Echo.after`), so that it writes the first
messages that come before the end of the connection, one on each line, and receives nothing behind the
last of them (`echo_first_messages`).
-/

namespace TopicWire

namespace SubscriberEvent

def message? : SubscriberEvent → Option Message
  | .message m => some m
  | _ => none

def isEnd : SubscriberEvent → Bool
  | .disconnected => true
  | _ => false

end SubscriberEvent

namespace Echo

variable {count : Option Nat} {e : Echo} {event : SubscriberEvent}
  {events heard later : List SubscriberEvent}

def messagesIn (events : List SubscriberEvent) : List Message :=
  events.filterMap SubscriberEvent.message?

/-- As many of the first messages as are asked for, all of them without a count. -/
def upTo (count : Option Nat) (ms : List Message) : List Message :=
  match count with
  | none => ms
  | some n => ms.take n

/-- The messages that are to be echoed: those that come before the publisher goes away, up to the count. -/
def due (count : Option Nat) (events : List SubscriberEvent) : List Message :=
  upTo count (messagesIn (events.takeWhile (!·.isEnd)))

/-- After these events the publisher is still there and more messages are asked for. -/
def Waits (count : Option Nat) (heard : List SubscriberEvent) : Prop :=
  (∀ event ∈ heard, event.isEnd = false) ∧ ∀ n, count = some n → (messagesIn heard).length < n

/-- An echo that has received these events. -/
def after (count : Option Nat) (heard : List SubscriberEvent) : Echo where
  count := count
  received := (messagesIn heard).length
  lines := (messagesIn heard).map (·.toJson.compact)
  ended := heard.any (·.isEnd)

theorem messagesIn_append : messagesIn (heard ++ later) = messagesIn heard ++ messagesIn later :=
  List.filterMap_append

theorem after_nil (count : Option Nat) : after count [] = { count := count } :=
  rfl

theorem hear_after : (after count heard).hear event = after count (heard ++ [event]) := by
  rw [after, after, messagesIn_append, List.length_append, List.map_append, List.any_append]
  cases event <;> simp [hear, messagesIn, SubscriberEvent.message?, SubscriberEvent.isEnd]

theorem isDone_after : (after count heard).isDone = false ↔ Waits count heard := by
  rw [isDone, Bool.or_eq_false_iff]
  refine and_congr ?_ ?_
  · simp [after]
  · cases count with
    | none => simp [after]
    | some n =>
      have few : (∀ m, some n = some m → (messagesIn heard).length < m) ↔ (messagesIn heard).length < n :=
        ⟨fun all => all n rfl, fun lt m eq => Option.some.inj eq ▸ lt⟩
      rw [few, ← Nat.not_le]
      exact decide_eq_false_iff_not

/-! ### One run -/

theorem run_of_isDone (done : e.isDone = true) : e.run events = (e, events) := by
  cases events with
  | nil => rfl
  | cons event events => rw [run, if_pos done]

/-- What comes in parts is echoed as if it came at once. -/
theorem run_append :
    e.run (heard ++ later) = (e.run heard).1.run ((e.run heard).2 ++ later) := by
  induction heard generalizing e with
  | nil => rfl
  | cons event events ih =>
    cases done : e.isDone with
    | true =>
      rw [run_of_isDone done, run_of_isDone done]
      exact (run_of_isDone done).symm
    | false => rw [List.cons_append, run, run, if_neg (by simp [done]), if_neg (by simp [done]), ih]

/-- From what was received before, a run receives events as long as it waits for them. -/
theorem run_after (before events : List SubscriberEvent) :
    ∃ heard, heard ++ ((after count before).run events).2 = events ∧
      ((after count before).run events).1 = after count (before ++ heard) ∧
      (∀ part, part <+: heard → part ≠ heard → Waits count (before ++ part)) ∧
      (((after count before).run events).2 = [] ∨ ¬ Waits count (before ++ heard)) := by
  have nothing {before part : List SubscriberEvent} (sub : part <+: []) (ne : part ≠ []) :
      Waits count (before ++ part) := absurd (List.prefix_nil.mp sub) ne
  induction events generalizing before with
  | nil => exact ⟨[], rfl, by rw [List.append_nil, run], fun _ => nothing, .inl rfl⟩
  | cons event events ih =>
    by_cases waits : Waits count before
    · have going := isDone_after.mpr waits
      obtain ⟨heard, all, state, parts, last⟩ := ih (before ++ [event])
      rw [run, if_neg (by simp [going]), hear_after]
      rw [List.append_assoc] at state last
      refine ⟨event :: heard, congrArg (event :: ·) all, state, fun part sub ne => ?_, last⟩
      cases part with
      | nil => rwa [List.append_nil]
      | cons first part =>
        obtain ⟨rfl, shorter⟩ := List.cons_prefix_cons.mp sub
        have waits := parts part shorter fun eq => ne (congrArg (first :: ·) eq)
        rwa [List.append_assoc] at waits
    · have done : (after count before).isDone = true := by
        rw [← Bool.not_eq_false, isDone_after]
        exact waits
      rw [run_of_isDone done]
      refine ⟨[], rfl, by rw [List.append_nil], fun _ => nothing, .inr ?_⟩
      rwa [List.append_nil]

/-! ### The messages of a run -/

theorem takeWhile_of_no_end (none : ∀ event ∈ heard, event.isEnd = false)
    (later : List SubscriberEvent) :
    (heard ++ later).takeWhile (!·.isEnd) = heard ++ later.takeWhile (!·.isEnd) :=
  List.takeWhile_append_of_pos fun event mem => by rw [none event mem]; rfl

theorem due_of_waits (waits : Waits count heard) (silent : later.takeWhile (!·.isEnd) = []) :
    due count (heard ++ later) = messagesIn heard := by
  rw [due, takeWhile_of_no_end waits.1, silent, List.append_nil]
  cases count with
  | none => rfl
  | some n => exact List.take_of_length_le (Nat.le_of_lt (waits.2 n rfl))

/-- An event behind which no more is waited for is the end or the last message asked for. -/
theorem waits_append_iff (waits : Waits count heard) :
    Waits count (heard ++ [event]) ↔
      event.isEnd = false ∧ ∀ n, count = some n → (messagesIn (heard ++ [event])).length < n := by
  constructor
  · exact fun more => ⟨more.1 event (by simp), more.2⟩
  · rintro ⟨going, few⟩
    refine ⟨fun other mem => ?_, few⟩
    rcases List.mem_append.mp mem with mem | mem
    · exact waits.1 other mem
    · rwa [List.mem_singleton.mp mem]

/-- What was received, as long as it was waited for, holds just the messages that are due. -/
theorem due_eq {rest : List SubscriberEvent}
    (parts : ∀ part, part <+: heard → part ≠ heard → Waits count part)
    (last : rest = [] ∨ ¬ Waits count heard) : due count (heard ++ rest) = messagesIn heard := by
  by_cases waits : Waits count heard
  · rcases last with rfl | full
    · exact due_of_waits waits rfl
    · exact absurd waits full
  rcases List.eq_nil_or_concat heard with rfl | ⟨init, event, rfl⟩
  · -- Nothing was waited for at all: no messages were asked for.
    have asked : ∃ n, count = some n ∧ n = 0 := by
      simpa [Waits, messagesIn] using waits
    obtain ⟨_, rfl, rfl⟩ := asked
    rfl
  rw [List.concat_eq_append] at parts waits ⊢
  have before : Waits count init := parts init (List.prefix_append _ _) (by simp)
  cases ended : event.isEnd with
  | true =>
    have silent : (event :: rest).takeWhile (!·.isEnd) = [] := by simp [ended]
    have unheard : messagesIn [event] = [] := by
      cases event <;> first | rfl | cases ended
    rw [List.append_assoc, messagesIn_append, unheard, List.append_nil]
    exact due_of_waits before silent
  | false =>
    -- The event is the last message asked for.
    rw [waits_append_iff before] at waits
    have full : ∃ n, count = some n ∧ n ≤ (messagesIn (init ++ [event])).length := by
      simpa [ended] using waits
    obtain ⟨n, rfl, most⟩ := full
    have fewer := before.2 n rfl
    have one : (messagesIn [event]).length ≤ 1 := List.length_filterMap_le _ _
    have exact : (messagesIn (init ++ [event])).length = n := by
      rw [messagesIn_append, List.length_append] at most ⊢
      omega
    have none : ∀ other ∈ init ++ [event], other.isEnd = false := by
      simpa [or_imp, forall_and, ended] using before.1
    rw [due, takeWhile_of_no_end none, messagesIn_append]
    exact List.take_left' exact

/-! ### What is written -/

/-- With one line for each text, there are as many line breaks as texts. -/
theorem count_newline_join {lines : List String} (single : ∀ line ∈ lines, SingleLine line) :
    (String.join (lines.map (· ++ "\n"))).toList.count '\n' = lines.length := by
  induction lines with
  | nil => rfl
  | cons line lines ih =>
    obtain ⟨first, rest⟩ := List.forall_mem_cons.mp single
    have none : line.toList.count '\n' = 0 := List.count_eq_zero_of_not_mem first.not_mem_newline
    have one : ("\n" : String).toList.count '\n' = 1 := by decide
    rw [List.map_cons, String.join_cons, String.toList_append, String.toList_append, List.count_append,
      List.count_append, none, one, ih rest, List.length_cons]
    omega

/-- What an echo has come to that was offered these events and has not received the rest of them. -/
structure Account (count : Option Nat) (events rest : List SubscriberEvent) (done : Echo) : Prop where
  lines : done.lines = (due count events).map (·.toJson.compact)
  single : ∀ line ∈ done.lines, SingleLine line
  received : done.received = done.lines.length
  output : done.output.toList.count '\n' = done.lines.length
  heard : ∃ heard, heard ++ rest = events ∧ messagesIn heard = due count events ∧
    (∀ part, part <+: heard → part ≠ heard → Waits count part) ∧ (rest = [] ∨ ¬ Waits count heard)

theorem account_run (count : Option Nat) (events : List SubscriberEvent) :
    Account count events (({ count := count } : Echo).run events).2
      (({ count := count } : Echo).run events).1 := by
  obtain ⟨heard, all, state, parts, last⟩ := @run_after count [] events
  rw [after_nil] at all state last
  have same : due count events = messagesIn heard := by rw [← all, due_eq parts last]
  rw [state, List.nil_append]
  have single : ∀ line ∈ (after count heard).lines, SingleLine line := by
    intro line mem
    obtain ⟨m, _, rfl⟩ := List.mem_map.mp mem
    exact Json.singleLine_compact _
  exact {
    lines := by rw [same, after]
    single := single
    received := (List.length_map _).symm
    output := count_newline_join single
    heard := ⟨heard, all, same.symm, parts, last⟩ }

end Echo

/-- The messages before the end of the connection are echoed, the first ones up to the count, and nothing
is received behind the last of them. A node echoes what its subscriber tells. -/
theorem echo_first_messages :
    (∀ count events, Echo.Account count events (({ count := count } : Echo).run events).2
      (({ count := count } : Echo).run events).1) ∧
    ∀ (n : Node) (network : Network) (request : EchoRequest) (remote : Remote),
      match n.subscribe network request.topic request.typeId remote with
      | (.error e, _) => (n.echo network request remote {}).1 = .error (.session e)
      | (.ok number, n') => ∃ done rest, (n.echo network request remote {}).1 = .ok done ∧
        Echo.Account request.count ((n'.told.filter (·.1 == number)).map (·.2)) rest done := by
  refine ⟨Echo.account_run, fun n network request remote => ?_⟩
  rw [Node.echo]
  obtain ⟨e | number, n'⟩ := n.subscribe network request.topic request.typeId remote
  · rfl
  · exact ⟨_, _, rfl, Echo.account_run _ _⟩

/-- A frame that is no message is not counted, and what comes behind the last message is left. -/
example : (({ count := some 1 } : Echo).run [.connected {}, .failed (.failed "cut off"),
    .message ⟨"demo/Empty", []⟩, .message ⟨"demo/Empty", []⟩]).1.lines = ["\x7b\x7d"] := by
  decide

end TopicWire
