import TopicWire.Proofs.Wire.Guard

/-!
# Messages without a body

A type is bodiless if nothing of its messages is ever sent: all its fields are constants or single
messages of such types. These are the types whose least size is zero (`Element.bodiless_iff`), and
their messages are read from any place without moving the cursor.
-/

namespace TopicWire

mutual

/-- Nothing of a message of the type is sent. -/
def MessageType.bodiless : MessageType → Bool
  | ⟨_, _, _, _, _, fields⟩ => Field.allBodiless fields

def Field.allBodiless : List Field → Bool
  | [] => true
  | f :: fs => f.bodiless && Field.allBodiless fs

def Field.bodiless : Field → Bool
  | ⟨_, _, element, arity, constant⟩ => constant.isSome || (arity == .one && element.bodiless)

def Element.bodiless : Element → Bool
  | .primitive _ => false
  | .message type => type.bodiless

end

theorem Primitive.minSize_pos (p : Primitive) : 0 < p.minSize := by
  cases p <;> decide

namespace Field

variable {f : Field} {fs : List Field}

theorem bodiless_constant (h : f.constant.isSome = true) : f.bodiless = true := by
  obtain ⟨_, _, _, _, constant⟩ := f
  simp only at h
  rw [bodiless, h, Bool.true_or]

theorem bodiless_one (h : f.constant = none) (one : f.arity = .one) :
    f.bodiless = f.element.bodiless := by
  obtain ⟨_, _, _, arity, constant⟩ := f
  obtain rfl : constant = none := h
  obtain rfl : arity = .one := one
  simp [bodiless]

theorem bodiless_array (h : f.constant = none) (array : f.arity ≠ .one) : f.bodiless = false := by
  obtain ⟨_, _, _, arity, constant⟩ := f
  obtain rfl : constant = none := h
  cases arity with
  | one => exact (array rfl).elim
  | many | exactly => simp [bodiless]

theorem bodiless_iff (same : f.element.bodiless = true ↔ f.element.minSize = 0) :
    f.bodiless = true ↔ f.minSize = 0 := by
  rcases f.constant_or_one_or_array with constant | ⟨sent, one⟩ | ⟨sent, array⟩
  · simp [bodiless_constant constant, minSize_constant constant]
  · rw [bodiless_one sent one, minSize_one sent one, same]
  · simp [bodiless_array sent array, minSize_array sent array]

theorem allBodiless_iff (same : ∀ f ∈ fs, f.element.bodiless = true ↔ f.element.minSize = 0) :
    allBodiless fs = true ↔ minSizes fs = 0 := by
  induction fs with
  | nil => simp [allBodiless, minSizes]
  | cons f fs ih =>
    rw [allBodiless, minSizes, Bool.and_eq_true, bodiless_iff (same f List.mem_cons_self),
      ih fun g member => same g (List.mem_cons_of_mem _ member)]
    omega

end Field

theorem MessageType.bodiless_eq (type : MessageType) :
    type.bodiless = Field.allBodiless type.fields := by
  cases type
  rw [bodiless]

theorem Element.bodiless_iff (e : Element) : e.bodiless = true ↔ e.minSize = 0 := by
  induction e using Element.induction with
  | primitive p =>
    have := p.minSize_pos
    simp only [bodiless, minSize, Bool.false_eq_true, false_iff]
    omega
  | message type ih =>
    rw [bodiless, minSize, MessageType.bodiless_eq, MessageType.minSize_eq, Field.allBodiless_iff ih]

/-! ### Writing and reading nothing -/

theorem Field.writeAll_bodiless {fs : List Field} {m : Message} {path : String} {bytes : Bytes}
    (inner : ∀ f ∈ fs, f.element.bodiless = true →
      ∀ v path bytes, f.element.write v path = .ofBytes bytes → bytes = [])
    (none : allBodiless fs = true) (written : writeAll fs m path = .ofBytes bytes) : bytes = [] := by
  induction fs generalizing bytes with
  | nil =>
    rw [writeAll] at written
    exact Written.nothing_eq_ofBytes.mp written
  | cons f fs ih =>
    rw [allBodiless, Bool.and_eq_true] at none
    obtain ⟨xs, ys, first, others, rfl⟩ := writeAll_cons_iff.mp written
    obtain rfl := ih (fun g member => inner g (List.mem_cons_of_mem _ member)) none.2 others
    rw [List.append_nil]
    rcases f.constant_or_one_or_array with constant | ⟨sent, one⟩ | ⟨sent, array⟩
    · rw [writeIn_constant constant] at first
      exact Written.nothing_eq_ofBytes.mp first
    · obtain ⟨v, _, write⟩ := (writeIn_one_iff sent one).mp first
      rw [bodiless_one sent one] at none
      exact inner f List.mem_cons_self none.1 _ _ _ write
    · rw [bodiless_array sent array] at none
      exact (Bool.false_ne_true none.1).elim

theorem Element.write_bodiless (e : Element) :
    e.bodiless = true → ∀ v path bytes, e.write v path = .ofBytes bytes → bytes = [] := by
  induction e using Element.induction with
  | primitive p =>
    intro none
    exact (Bool.false_ne_true none).elim
  | message type ih =>
    intro none v path bytes written
    rw [bodiless, MessageType.bodiless_eq] at none
    cases v with
    | message m =>
      rw [write, MessageType.writeAt_eq] at written
      exact Field.writeAll_bodiless ih none written
    | _ => simp [write] at written

theorem writeItems_bodiless {e : Element} (none : e.bodiless = true) {path : String} {index : Nat}
    {items : List Value} {bytes : Bytes} (written : writeItems e.write path index items = .ofBytes bytes) :
    bytes = [] := by
  induction items generalizing index bytes with
  | nil => exact Written.nothing_eq_ofBytes.mp written
  | cons v vs ih =>
    obtain ⟨xs, ys, first, others, rfl⟩ := writeItems_cons_iff.mp written
    rw [e.write_bodiless none _ _ _ first, ih others]
    rfl

section Reading

variable {guard : Guard}

theorem Field.readAllUnder_bodiless {fs : List Field}
    (inner : ∀ f ∈ fs, f.element.bodiless = true →
      ∀ path c, ∃ v, f.element.readUnder guard path c = .ok v c)
    (none : allBodiless fs = true) (path : String) (c : Cursor) :
    ∃ entries, readAllUnder guard fs path c = .ok entries c := by
  induction fs with
  | nil =>
    refine ⟨[], ?_⟩
    rw [readAllUnder]
    rfl
  | cons f fs ih =>
    rw [allBodiless, Bool.and_eq_true] at none
    obtain ⟨rest, others⟩ := ih (fun g member => inner g (List.mem_cons_of_mem _ member)) none.2
    have first : ∃ v, f.readUnder guard (fieldPath path f.accessor) c = .ok v c := by
      rcases f.constant_or_one_or_array with constant | ⟨sent, one⟩ | ⟨sent, array⟩
      · obtain ⟨literal, given⟩ := Option.isSome_iff_exists.mp constant
        rw [readUnder_constant given]
        exact ⟨literal, rfl⟩
      · rw [readUnder_one sent one]
        rw [bodiless_one sent one] at none
        exact inner f List.mem_cons_self none.1 _ c
      · rw [bodiless_array sent array] at none
        exact (Bool.false_ne_true none.1).elim
    obtain ⟨v, read⟩ := first
    exact ⟨_, readAllUnder_cons_iff.mpr ⟨v, c, rest, read, others, rfl⟩⟩

theorem Element.readUnder_bodiless (e : Element) :
    e.bodiless = true → ∀ path c, ∃ v, e.readUnder guard path c = .ok v c := by
  induction e using Element.induction with
  | primitive p =>
    intro none
    exact (Bool.false_ne_true none).elim
  | message type ih =>
    intro none path c
    rw [bodiless, MessageType.bodiless_eq] at none
    obtain ⟨entries, read⟩ := Field.readAllUnder_bodiless ih none path c
    exact ⟨_, readUnder_message_iff.mpr ⟨entries, read, rfl⟩⟩

theorem readItems_bodiless {e : Element} (none : e.bodiless = true) (path : String)
    (index count : Nat) (c : Cursor) :
    ∃ items, readItems (e.readUnder guard) path index count c = .ok items c := by
  induction count generalizing index with
  | zero => exact ⟨[], rfl⟩
  | succ count ih =>
    obtain ⟨v, first⟩ := e.readUnder_bodiless none (itemPath path index) c
    obtain ⟨rest, others⟩ := ih (index + 1)
    exact ⟨_, readItems_succ_iff.mpr ⟨v, c, rest, first, others, rfl⟩⟩

end Reading

/-- At no depth an array has items of a type without a body. -/
def MessageType.ItemsHaveBodies (type : MessageType) : Prop :=
  type.Everywhere fun type => ∀ f ∈ type.fields, f.constant = none → f.arity ≠ .one →
    f.element.bodiless = false

end TopicWire
