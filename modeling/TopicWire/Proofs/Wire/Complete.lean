import TopicWire.Proofs.MessageType.Complete
import TopicWire.Proofs.Wire.Canonical
import TopicWire.Proofs.Wire.Body

/-!
# Complete messages on the wire

What is decoded is complete (`MessageType.complete_of_decodeBody`). A complete message has a size, and
it is encoded if the size and the counts of its arrays can be told in four bytes
(`MessageType.Complete.encode`).
-/

namespace TopicWire

/-! ### What is decoded -/

/-- Only what the element type can hold is read as a value of it. -/
def ReadsHeld (guard : Guard) (e : Element) : Prop :=
  ∀ ⦃v path c c'⦄, e.readUnder guard path c = .ok v c' → e.Holds v

variable {guard : Guard}

theorem readItems_held {e : Element} (held : ReadsHeld guard e) {path : String} {index count : Nat}
    {items : List Value} {c c' : Cursor}
    (read : readItems (e.readUnder guard) path index count c = .ok items c') :
    items.length = count ∧ ∀ item ∈ items, e.Holds item := by
  induction count generalizing index items c with
  | zero =>
    obtain ⟨rfl, rfl⟩ := Stateful.pure_ok_iff.mp read
    exact ⟨rfl, nofun⟩
  | succ count ih =>
    obtain ⟨v, middle, rest, first, others, rfl⟩ := readItems_succ_iff.mp read
    obtain ⟨length, each⟩ := ih others
    exact ⟨congrArg (· + 1) length, List.forall_mem_cons.mpr ⟨held first, each⟩⟩

namespace Field

variable {f : Field} {fs : List Field} {path : String} {c c' : Cursor}

theorem readUnder_held (held : ReadsHeld guard f.element) {v : Value}
    (read : f.readUnder guard path c = .ok v c') : f.Holds v := by
  rcases f.constant_or_one_or_array with constant | ⟨sent, one⟩ | ⟨sent, array⟩
  · obtain ⟨literal, given⟩ := Option.isSome_iff_exists.mp constant
    rw [readUnder_constant given] at read
    obtain ⟨rfl, rfl⟩ := Stateful.pure_ok_iff.mp read
    exact (holds_constant given).mpr (.inl rfl)
  · rw [readUnder_one sent one] at read
    exact (holds_one sent one).mpr (held read)
  · obtain ⟨count, middle, items, counted, readAll, rfl⟩ := (readUnder_array_iff sent array).mp read
    obtain ⟨allowed, -⟩ := readCountUnder_ok_iff.mp counted
    obtain ⟨rfl, each⟩ := readItems_held held readAll
    exact (holds_array sent array).mpr ⟨items, rfl, allowed, each⟩

theorem readAllUnder_held (held : ∀ f ∈ fs, ReadsHeld guard f.element)
    {entries : List (String × Value)} (read : readAllUnder guard fs path c = .ok entries c') :
    ∀ f ∈ fs, ∃ v, (f.accessor, v) ∈ entries ∧ f.Holds v := by
  induction fs generalizing entries c with
  | nil => exact nofun
  | cons g fs ih =>
    obtain ⟨v, middle, rest, first, others, rfl⟩ := readAllUnder_cons_iff.mp read
    intro f member
    rcases List.mem_cons.mp member with rfl | later
    · exact ⟨v, .head _, readUnder_held (held f member) first⟩
    · obtain ⟨w, there, holds⟩ := ih (fun h among => held h (.tail _ among)) others f later
      exact ⟨w, .tail _ there, holds⟩

end Field

theorem Element.readsHeld {e : Element} (wellFormed : e.Everywhere MessageType.WellFormed) :
    ReadsHeld guard e := by
  refine wellFormed.induction (fun p => ?_) fun type here fields => ?_
  · intro v path c c' read
    rw [readUnder, Primitive.read_ok_iff path] at read
    obtain ⟨_, -, kind, -⟩ := read
    rwa [Holds]
  · intro v path c c' read
    obtain ⟨entries, readAll, rfl⟩ := readUnder_message_iff.mp read
    exact MessageType.holds_message_iff.mpr (MessageType.complete_ofList here.distinct
      (Field.readAllUnder_keys readAll) (Field.readAllUnder_held fields readAll))

theorem MessageType.complete_of_decodeBody {type : MessageType} (wellFormed : type.Everywhere WellFormed)
    {body : Bytes} {m : Message} (decoded : type.decodeBody body = .ok m) : type.Complete m := by
  rw [← decodeBodyUnder_clamped] at decoded
  obtain ⟨last, read, -⟩ := decodeBodyUnder_ok_iff.mp decoded
  exact holds_message_iff.mp (Element.readsHeld wellFormed.element (readUnder_ok_iff.mp read))

/-! ### What can be encoded -/

mutual

/-- The number of items of every array, at any depth, can be told in four bytes. -/
def Value.countsFit : Value → Bool
  | .array items => items.length < 0x100000000 && Value.allCountsFit items
  | .message m => m.countsFit
  | _ => true

def Message.countsFit : Message → Bool
  | ⟨_, fields⟩ => Value.fieldCountsFit fields

def Value.allCountsFit : List Value → Bool
  | [] => true
  | v :: vs => v.countsFit && Value.allCountsFit vs

def Value.fieldCountsFit : List (String × Value) → Bool
  | [] => true
  | (_, v) :: rest => v.countsFit && Value.fieldCountsFit rest

end

theorem Message.countsFit_of_get? {m : Message} (fit : m.countsFit = true) {key : String} {v : Value}
    (held : m.get? key = some v) : v.countsFit = true := by
  obtain ⟨typeId, fields⟩ := m
  rw [countsFit] at fit
  change fields.lookup key = some v at held
  induction fields with
  | nil => cases held
  | cons entry rest ih =>
    obtain ⟨k, w⟩ := entry
    rw [Value.fieldCountsFit, Bool.and_eq_true] at fit
    rw [Keyed.lookup_cons] at held
    split at held
    · cases held
      exact fit.1
    · exact ih fit.2 held

/-- What has a size, and is written if the size and the counts inside it can be told in four bytes. -/
def Writable (fit : Bool) (size : Except WireError Nat) (written : Written) : Prop :=
  ∃ n, size = .ok n ∧ (fit = true → n < 0x100000000 → ∃ bytes, written = .ofBytes bytes)

theorem Writable.andThen {fit fit' : Bool} {size size' : Except WireError Nat}
    {first rest : Written} (h : Writable fit size first) (later : Writable fit' size' rest) :
    Writable (fit && fit') (do let n ← size; let n' ← size'; return n + n') (first.andThen rest) := by
  obtain ⟨n, rfl, written⟩ := h
  obtain ⟨n', rfl, writtenLater⟩ := later
  refine ⟨n + n', rfl, fun fits small => ?_⟩
  rw [Bool.and_eq_true] at fits
  obtain ⟨xs, start⟩ := written fits.1 (by omega)
  obtain ⟨ys, left⟩ := writtenLater fits.2 (by omega)
  exact ⟨_, Written.andThen_eq_ofBytes_iff.mpr ⟨xs, ys, start, left, rfl⟩⟩

theorem Value.primitive_writable {v : Value} {p : Primitive} (kind : v.primitive? = some p)
    (path : String) : Writable v.countsFit (p.size v path) (v.primitiveBytes path) := by
  cases v with
  | string s =>
    cases kind
    refine ⟨4 + s.utf8ByteSize, by simp [Primitive.size, primitive?], fun _ small => ?_⟩
    have length : s.utf8ByteSize < 0x100000000 := by omega
    exact ⟨_, Written.andThen_eq_ofBytes_iff.mpr
      ⟨_, _, lengthBytes_ok_iff.mpr ⟨length, rfl⟩, rfl, rfl⟩⟩
  | array | message => cases kind
  | _ =>
    cases kind
    exact ⟨_, rfl, fun _ _ => ⟨_, rfl⟩⟩

/-- Every value that the element type can hold can be written if it is small. -/
def Element.WritesHeld (e : Element) : Prop :=
  ∀ ⦃v⦄, e.Holds v → ∀ path, Writable v.countsFit (e.size v path) (e.write v path)

theorem Element.WritesHeld.items {e : Element} (writes : e.WritesHeld) {items : List Value}
    (each : ∀ item ∈ items, e.Holds item) (path : String) (index : Nat) :
    Writable (Value.allCountsFit items) (sumItems e.size path index items)
      (writeItems e.write path index items) := by
  induction items generalizing index with
  | nil => exact ⟨0, rfl, fun _ _ => ⟨[], rfl⟩⟩
  | cons v vs ih =>
    obtain ⟨holds, others⟩ := List.forall_mem_cons.mp each
    exact (writes holds (itemPath path index)).andThen (ih others (index + 1))

namespace Field

variable {f : Field} {fs : List Field} {m : Message} {v : Value}

theorem writable (writes : f.element.WritesHeld) (held : m.get? f.accessor = some v)
    (holds : f.Holds v) (path : String) :
    Writable m.countsFit (f.sizeIn m path) (f.writeIn m path) := by
  rcases f.constant_or_one_or_array with constant | ⟨sent, one⟩ | ⟨sent, array⟩
  · exact ⟨0, sizeIn_constant constant, fun _ _ => ⟨[], writeIn_constant constant⟩⟩
  · obtain ⟨n, sized, written⟩ := writes ((holds_one sent one).mp holds) (fieldPath path f.accessor)
    refine ⟨n, by rw [sizeIn_one sent one held, sized], fun fit small => ?_⟩
    obtain ⟨bytes, write⟩ := written (Message.countsFit_of_get? fit held) small
    exact ⟨bytes, (writeIn_one_iff sent one).mpr ⟨v, held, write⟩⟩
  · obtain ⟨items, rfl, allowed, each⟩ := (holds_array sent array).mp holds
    obtain ⟨n, sized, written⟩ := writes.items each (fieldPath path f.accessor) 0
    refine ⟨4 + n, by rw [sizeIn_array sent array held, sized]; rfl, fun fit small => ?_⟩
    have counts := Message.countsFit_of_get? fit held
    rw [Value.countsFit, Bool.and_eq_true, decide_eq_true_iff] at counts
    obtain ⟨ys, write⟩ := written counts.2 (by omega)
    exact ⟨_, (writeIn_array_iff sent array).mpr ⟨items, ys, held, allowed, counts.1, write, rfl⟩⟩

theorem all_writable (writes : ∀ f ∈ fs, f.element.WritesHeld)
    (held : ∀ f ∈ fs, ∃ v, m.get? f.accessor = some v ∧ f.Holds v) (path : String) :
    Writable m.countsFit (sizeAll fs m path) (writeAll fs m path) := by
  induction fs with
  | nil => exact ⟨0, by rw [sizeAll], fun _ _ => ⟨[], by rw [writeAll]; rfl⟩⟩
  | cons f fs ih =>
    obtain ⟨writesHere, writesLater⟩ := List.forall_mem_cons.mp writes
    obtain ⟨⟨v, here, holds⟩, later⟩ := List.forall_mem_cons.mp held
    have both := (writable writesHere here holds path).andThen (ih writesLater later)
    rwa [Bool.and_self, ← sizeAll, ← writeAll] at both

end Field

theorem Element.writesHeld (e : Element) : e.WritesHeld := by
  induction e using Element.induction with
  | primitive p =>
    intro v holds path
    rw [Holds] at holds
    rw [size, write, if_pos holds]
    exact Value.primitive_writable holds path
  | message type ih =>
    intro v holds path
    rw [Holds] at holds
    obtain ⟨m, rfl, complete⟩ := holds
    rw [size, write, MessageType.sizeAt_eq, MessageType.writeAt_eq, Value.countsFit]
    exact Field.all_writable ih (fun f member => complete.held member) path

/-- A complete message has a size, and there is a frame of it if that and the numbers of items of its
arrays can be told in four bytes. -/
theorem MessageType.Complete.encode {type : MessageType} {m : Message} (complete : type.Complete m) :
    ∃ size, type.size m = .ok size ∧
      (m.countsFit = true → size < 0x100000000 → ∃ frame, type.encode m = .ok frame) := by
  obtain ⟨n, sized, written⟩ :=
    (Element.message type).writesHeld (holds_message_iff.mpr complete) ""
  rw [Element.size] at sized
  rw [Element.write, Value.countsFit] at written
  refine ⟨n, sized, fun fit small => ?_⟩
  obtain ⟨body, write⟩ := written fit small
  obtain rfl : n = body.length := Except.ok.inj (sized.symm.trans (writeAt_ok write "").2)
  exact ⟨_, encode_ok_iff.mpr ⟨body, write, small, rfl⟩⟩

end TopicWire
