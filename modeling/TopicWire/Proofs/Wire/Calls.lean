import TopicWire.Proofs.Wire.Acts

/-!
# Calls on one reader

Bytes, numbers and messages can be read from one buffer in turn. Each call goes on where the call before
it left the cursor, also if that one failed. The cursor never leaves the buffer and never moves back, and
a fault tells where it lies (`Call.locates_faults`).
-/

namespace TopicWire

/-- The cursor stands in the buffer, and the bytes of the buffer behind it are those that remain. -/
structure Cursor.Over (c : Cursor) (buffer : Bytes) : Prop where
  rest : c.rest = buffer.drop c.position
  length : c.position + c.remaining = buffer.length

namespace Cursor

variable {c c' : Cursor} {buffer bytes : Bytes}

theorem start_over (buffer : Bytes) : (start buffer).Over buffer :=
  ⟨rfl, Nat.zero_add _⟩

theorem Over.passed (placed : c.Over buffer) (passed : c.Passed bytes c') : c'.Over buffer where
  rest := by
    rw [passed.position, ← List.drop_drop, ← placed.rest, passed.rest, List.drop_left]
  length := by
    have whole := placed.length
    rw [passed.remaining] at whole
    rw [passed.position]
    omega

theorem Passed.position_le (passed : c.Passed bytes c') : c.position ≤ c'.position := by
  rw [passed.position]
  exact Nat.le_add_right ..

end Cursor

/-- What can be asked of a reader. -/
inductive Call where
  | take (n : Nat)
  /-- A little-endian number of four bytes. -/
  | number
  | message (type : MessageType)

inductive Answer where
  | bytes (bytes : Bytes)
  | number (n : Nat)
  | message (m : Message)

namespace Call

def run : Call → Decoder Answer
  | .take n => do return .bytes (← Decoder.take n)
  | .number => do return .number (← Decoder.word 4)
  | .message type => do return .message (← type.decodeFrom)

/-- What a call does. -/
def acts : Call → Cursor → List Act
  | .take n, c => [.take n c]
  | .number, c => [.take 4 c]
  | .message type, c => type.acts "" c

/-- The cursor that a call leaves, whether it fails or not. -/
def leaves (call : Call) (c : Cursor) : Cursor :=
  match call.run c with
  | .ok _ last | .error _ last => last

/-- The cursor that calls leave which are made in turn. -/
def leavesAll : List Call → Cursor → Cursor
  | [], c => c
  | call :: calls, c => leavesAll calls (call.leaves c)

/-- The cursor over a buffer behind calls that were made in turn. -/
def reached (buffer : Bytes) (calls : List Call) : Cursor :=
  leavesAll calls (.start buffer)

theorem run_does (call : Call) (c : Cursor) : call.run.Does c (call.acts c) := by
  cases call with
  | take n => exact (Decoder.take_does n c).bind_quiet fun _ => .pure _
  | number => exact (Decoder.word_does 4 c).bind_quiet fun _ => .pure _
  | message type => exact (type.decodeFrom_does c).bind_quiet fun _ => .pure _

theorem exists_goes (call : Call) (c : Cursor) :
    ∃ fault, c.Goes (call.acts c) fault (call.leaves c) := by
  have ends : c.Ends (call.acts c) (call.run c) := call.run_does c
  unfold leaves
  cases ended : call.run c with
  | ok a last =>
    rw [ended] at ends
    exact ⟨none, ends⟩
  | error e last =>
    rw [ended] at ends
    exact ⟨some e, ends⟩

theorem goes_of_error {call : Call} {c last : Cursor} {e : WireError}
    (failed : call.run c = .error e last) : c.Goes (call.acts c) (some e) last := by
  have ends : c.Ends (call.acts c) (call.run c) := call.run_does c
  rwa [failed] at ends

/-! ### One call -/

/-- A call at a cursor over a buffer keeps to the buffer, and its faults tell where they lie. -/
structure Bounded (call : Call) (buffer : Bytes) (c : Cursor) : Prop where
  /-- Bytes are taken if they are there, and else the cursor stays where it is. -/
  take : ∀ n, call = .take n →
    (n ≤ c.remaining → call.run c = .ok (.bytes ((buffer.drop c.position).take n))
      ⟨c.position + n, buffer.drop (c.position + n)⟩) ∧
    (c.remaining < n → call.run c = .error (.truncated n c.remaining c.position) c)
  /-- What the acts take is all that lies between the cursors, also if the call fails. -/
  consumes : c.Passed ((call.acts c).flatMap Act.bytes) (call.leaves c)
  /-- Each act begins in the buffer, where the acts before it ended. -/
  begins : ∀ before act after, call.acts c = before ++ act :: after →
    c.Passed (before.flatMap Act.bytes) act.cursor ∧ act.cursor.Over buffer
  /-- Where bytes are missing the call ends, and the cursor stays there. -/
  short : ∀ n place, .take n place ∈ call.acts c → place.remaining < n →
    call.run c = .error (.truncated n place.remaining place.position) place
  /-- The bytes that were asked for last are missing, and the fault tells where and how many. -/
  truncated : ∀ needed remaining offset last,
    call.run c = .error (.truncated needed remaining offset) last →
      remaining < needed ∧ offset + remaining = buffer.length ∧ last.position = offset ∧
        ∃ before, call.acts c = before ++ [.take needed last]
  /-- The bytes of a number of items were taken last, and the fault counts those behind them. -/
  countTooLarge : ∀ path count remaining last,
    call.run c = .error (.countTooLarge path count remaining) last →
      0 < count ∧ remaining = last.remaining ∧ ∃ before place,
        call.acts c = before ++ [.take 4 place] ∧ place.Passed (Bytes.littleEndian 4 count) last
  /-- No loop begins with more items than bytes are left. -/
  loops : ∀ count place, .loop count place ∈ call.acts c → count ≤ place.remaining

variable {buffer : Bytes} {c : Cursor}

theorem take_run (placed : c.Over buffer) (n : Nat) :
    (n ≤ c.remaining → (Call.take n).run c =
      .ok (.bytes ((buffer.drop c.position).take n)) ⟨c.position + n, buffer.drop (c.position + n)⟩) ∧
    (c.remaining < n → (Call.take n).run c = .error (.truncated n c.remaining c.position) c) := by
  constructor
  · intro enough
    have taken : Decoder.take n c =
        .ok ((buffer.drop c.position).take n) ⟨c.position + n, buffer.drop (c.position + n)⟩ := by
      rw [Decoder.take, if_pos enough, placed.rest, List.drop_drop]
    exact Stateful.bind_of_ok taken
  · intro missing
    exact Stateful.bind_of_error (Decoder.take_error_iff.mpr ⟨missing, rfl, rfl⟩)

theorem short_of_take {call : Call} {place : Cursor} {n : Nat}
    (member : .take n place ∈ call.acts c) (missing : place.remaining < n) :
    call.run c = .error (.truncated n place.remaining place.position) place := by
  have ends : c.Ends (call.acts c) (call.run c) := call.run_does c
  cases ended : call.run c with
  | ok a last =>
    rw [ended] at ends
    obtain ⟨unfailed, -⟩ := Cursor.Goes.short_take ends member missing
    cases unfailed
  | error e last =>
    obtain ⟨same, rfl⟩ := (goes_of_error ended).short_take member missing
    rw [Option.some.inj same]

theorem bounded (placed : c.Over buffer) (call : Call) : call.Bounded buffer c := by
  obtain ⟨fault, goes⟩ := call.exists_goes c
  refine ⟨?_, goes.passed, fun before act after whole => ?_, fun n place => short_of_take, ?_, ?_, ?_⟩
  · rintro n rfl
    exact take_run placed n
  · have front := goes.begins whole
    exact ⟨front, placed.passed front⟩
  · intro needed remaining offset last failed
    obtain ⟨fewer, left, place, acts⟩ := (goes_of_error failed).of_truncated
    have whole := (placed.passed (goes_of_error failed).passed).length
    rw [← left, ← place] at whole
    exact ⟨fewer, whole, place.symm, acts⟩
  · intro path count remaining last failed
    exact (goes_of_error failed).of_countTooLarge
  · intro count place member
    exact goes.loop_room member

/-! ### Calls in turn -/

theorem leavesAll_append (calls more : List Call) (c : Cursor) :
    leavesAll (calls ++ more) c = leavesAll more (leavesAll calls c) := by
  induction calls generalizing c with
  | nil => rfl
  | cons call calls ih => exact ih (call.leaves c)

theorem leavesAll_over (placed : c.Over buffer) (calls : List Call) :
    (leavesAll calls c).Over buffer := by
  induction calls generalizing c with
  | nil => exact placed
  | cons call calls ih => exact ih (placed.passed (bounded placed call).consumes)

theorem leavesAll_position_le (calls : List Call) (c : Cursor) :
    c.position ≤ (leavesAll calls c).position := by
  induction calls generalizing c with
  | nil => exact Nat.le_refl _
  | cons call calls ih =>
    obtain ⟨fault, goes⟩ := call.exists_goes c
    exact Nat.le_trans goes.passed.position_le (ih (call.leaves c))

/-- However bytes, numbers and messages are read from a buffer in turn, the cursor stays in the buffer
and never moves back, also behind calls that fail. Each call keeps to the buffer, and its faults tell
where they lie. -/
theorem locates_faults (buffer : Bytes) (calls : List Call) :
    (reached buffer calls).Over buffer ∧
    (∀ more, (reached buffer calls).position ≤ (reached buffer (calls ++ more)).position) ∧
    ∀ call : Call, call.Bounded buffer (reached buffer calls) := by
  have placed : (reached buffer calls).Over buffer := leavesAll_over (Cursor.start_over buffer) calls
  refine ⟨placed, fun more => ?_, bounded placed⟩
  rw [reached, reached, leavesAll_append]
  exact leavesAll_position_le more _

/-- Any number of texts: `string[] tags`. -/
def tagsType : MessageType :=
  ⟨"geo/Tags", some "geo", "Tags", "tags", "",
    [⟨⟨"tags", "string[]", none, 1⟩, "tags", .primitive .string, .many, none⟩]⟩

theorem tagsType_compiled : tagsType.Compiled := by
  have made : MessageType.ofLines "geo/Tags" [⟨"tags", "string[]", none, 1⟩] "tags" (fun _ => none) =
      .ok tagsType := by rfl
  exact .alone made

/-- Two tags, of which the second one has one byte of five. -/
def cutTags : Bytes :=
  [2, 0, 0, 0, 1, 0, 0, 0, 97, 5, 0, 0, 0, 98]

theorem tags_located :
    tagsType.Compiled ∧ reached cutTags [.take 99] = .start cutTags ∧
      (Call.message tagsType).run (.start cutTags) = .error (.truncated 5 1 13) ⟨13, [98]⟩ ∧
      13 + 1 = cutTags.length ∧
      (∃ before, (Call.message tagsType).acts (.start cutTags) = before ++ [.take 5 ⟨13, [98]⟩]) ∧
      reached cutTags [.take 5] = ⟨5, cutTags.drop 5⟩ ∧
      (Call.message tagsType).run ⟨5, cutTags.drop 5⟩ =
        .error (.countTooLarge "tags" 0x61000000 5) ⟨9, cutTags.drop 9⟩ ∧
      ∃ before place, (Call.message tagsType).acts ⟨5, cutTags.drop 5⟩ = before ++ [.take 4 place] ∧
        place.Passed (Bytes.littleEndian 4 0x61000000) ⟨9, cutTags.drop 9⟩ := by
  have failed : (Call.message tagsType).run (.start cutTags) =
      .error (.truncated 5 1 13) ⟨13, [98]⟩ := by rfl
  have crowded : (Call.message tagsType).run ⟨5, cutTags.drop 5⟩ =
      .error (.countTooLarge "tags" 0x61000000 5) ⟨9, cutTags.drop 9⟩ := by rfl
  have here := (locates_faults cutTags [.take 99]).2.2 (.message tagsType)
  have there := (locates_faults cutTags [.take 5]).2.2 (.message tagsType)
  obtain ⟨-, whole, -, acts⟩ := here.truncated _ _ _ _ failed
  obtain ⟨-, -, counted⟩ := there.countTooLarge _ _ _ _ crowded
  exact ⟨tagsType_compiled, rfl, failed, whole, acts, rfl, crowded, counted⟩

end Call

end TopicWire
