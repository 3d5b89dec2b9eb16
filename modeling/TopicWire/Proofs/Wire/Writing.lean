import TopicWire.Proofs.MessageType.Nesting
import TopicWire.Wire.Decode
import TopicWire.Wire.Encode

/-!
# What a successful write says

Equivalences that take a write apart into its parts, and from them `Element.write_ok`: what was
written does not depend on the path, is as long as the size that was counted before, and is no
shorter than the least size of the type.
-/

namespace TopicWire

namespace Written

variable {first rest : Written} {bytes other : Bytes}

@[simp] theorem ofBytes_inj : ofBytes bytes = ofBytes other ↔ bytes = other := by
  simp [ofBytes]

@[simp] theorem nothing_eq_ofBytes : nothing = ofBytes bytes ↔ bytes = [] := by
  simp [nothing, ofBytes, eq_comm]

@[simp] theorem ofFault_ne_ofBytes {e : WireError} : ofFault e ≠ ofBytes bytes := by
  simp [ofFault, ofBytes]

theorem andThen_eq_ofBytes_iff :
    first.andThen rest = ofBytes bytes ↔
      ∃ xs ys, first = ofBytes xs ∧ rest = ofBytes ys ∧ bytes = xs ++ ys := by
  obtain ⟨xs, fault⟩ := first
  obtain ⟨ys, fault'⟩ := rest
  cases fault with
  | some e => simp [andThen, ofBytes]
  | none =>
    simp only [andThen, ofBytes, Written.mk.injEq, and_true]
    constructor
    · rintro ⟨rfl, rfl⟩
      exact ⟨xs, ys, rfl, ⟨rfl, rfl⟩, rfl⟩
    · rintro ⟨_, _, rfl, ⟨rfl, rfl⟩, rfl⟩
      exact ⟨rfl, rfl⟩

theorem result_eq_ok_iff : first.result = .ok bytes ↔ first = ofBytes bytes := by
  obtain ⟨xs, fault⟩ := first
  cases fault <;> simp [result, ofBytes]

end Written

theorem lengthBytes_ok_iff {length : Nat} {path : String} {bytes : Bytes} :
    lengthBytes length path = .ofBytes bytes ↔
      length < 0x100000000 ∧ bytes = Bytes.littleEndian 4 length := by
  unfold lengthBytes
  split
  · rename_i small
    rw [Written.ofBytes_inj]
    exact ⟨fun same => ⟨small, same.symm⟩, fun h => h.2.symm⟩
  · rename_i large
    constructor
    · intro h
      exact (Written.ofFault_ne_ofBytes h).elim
    · rintro ⟨small, _⟩
      exact (large small).elim

def Arity.Allows (arity : Arity) (count : Nat) : Prop :=
  ∀ n, arity.length? = some n → count = n

theorem writeCount_ok_iff {arity : Arity} {path : String} {count : Nat} {bytes : Bytes} :
    writeCount arity path count = .ofBytes bytes ↔
      arity.Allows count ∧ count < 0x100000000 ∧ bytes = Bytes.littleEndian 4 count := by
  cases arity with
  | one | many => simp [writeCount, lengthBytes_ok_iff, Arity.Allows, Arity.length?]
  | exactly n =>
    simp only [writeCount, Arity.Allows, Arity.length?, Option.some.injEq, forall_eq']
    split
    · rename_i same
      simp [lengthBytes_ok_iff, same]
    · rename_i different
      simp [different]

/-- Writing does not depend on the path, and what is written is as long as was counted before and no
shorter than the least size. -/
def Sized (write : Value → String → Written) (size : Value → String → Except WireError Nat)
    (least : Nat) : Prop :=
  ∀ ⦃v path bytes⦄, write v path = .ofBytes bytes → ∀ path',
    write v path' = .ofBytes bytes ∧ size v path' = .ok bytes.length ∧ least ≤ bytes.length

section Items

variable {write : Value → String → Written} {size : Value → String → Except WireError Nat}
  {path : String} {index least : Nat} {v : Value} {vs items : List Value} {bytes : Bytes}

theorem writeItems_cons_iff :
    writeItems write path index (v :: vs) = .ofBytes bytes ↔
      ∃ xs ys, write v (itemPath path index) = .ofBytes xs ∧
        writeItems write path (index + 1) vs = .ofBytes ys ∧ bytes = xs ++ ys := by
  rw [writeItems, Written.andThen_eq_ofBytes_iff]

theorem writeItems_ok (sized : Sized write size least)
    (written : writeItems write path index items = .ofBytes bytes) (path' : String) (index' : Nat) :
    writeItems write path' index' items = .ofBytes bytes ∧
      sumItems size path' index' items = .ok bytes.length ∧ items.length * least ≤ bytes.length := by
  induction items generalizing index index' bytes with
  | nil =>
    obtain rfl := Written.nothing_eq_ofBytes.mp written
    exact ⟨rfl, rfl, by simp⟩
  | cons v vs ih =>
    obtain ⟨xs, ys, first, others, rfl⟩ := writeItems_cons_iff.mp written
    obtain ⟨again, counted, low⟩ := sized first (itemPath path' index')
    obtain ⟨againAll, countedAll, lowAll⟩ := ih others (index' + 1)
    refine ⟨writeItems_cons_iff.mpr ⟨xs, ys, again, againAll, rfl⟩, ?_, ?_⟩
    · rw [sumItems, counted, countedAll, List.length_append]
      rfl
    · rw [List.length_cons, List.length_append, Nat.add_mul, Nat.one_mul]
      omega

end Items

/-! ### Fields -/

namespace Field

variable {f : Field} {fs : List Field} {m : Message} {path : String} {bytes : Bytes}

theorem constant_or_one_or_array (f : Field) :
    f.constant.isSome = true ∨ (f.constant = none ∧ f.arity = .one) ∨
      (f.constant = none ∧ f.arity ≠ .one) := by
  cases f.constant with
  | some _ => simp
  | none =>
    by_cases one : f.arity = .one
    · simp [one]
    · simp [one]

theorem writeIn_constant (h : f.constant.isSome = true) : f.writeIn m path = .nothing := by
  obtain ⟨_, _, _, _, constant⟩ := f
  unfold writeIn
  exact if_pos h

theorem writeIn_one_iff (h : f.constant = none) (one : f.arity = .one) :
    f.writeIn m path = .ofBytes bytes ↔
      ∃ v, m.get? f.accessor = some v ∧
        f.element.write v (fieldPath path f.accessor) = .ofBytes bytes := by
  obtain ⟨_, accessor, element, arity, constant⟩ := f
  obtain rfl : constant = none := h
  obtain rfl : arity = .one := one
  simp only [writeIn, Option.isSome_none, Bool.false_eq_true, if_false]
  cases m.get? accessor <;> simp

theorem writeIn_array_iff (h : f.constant = none) (array : f.arity ≠ .one) :
    f.writeIn m path = .ofBytes bytes ↔
      ∃ items ys, m.get? f.accessor = some (.array items) ∧ f.arity.Allows items.length ∧
        items.length < 0x100000000 ∧
        writeItems f.element.write (fieldPath path f.accessor) 0 items = .ofBytes ys ∧
        bytes = Bytes.littleEndian 4 items.length ++ ys := by
  obtain ⟨_, accessor, element, arity, constant⟩ := f
  obtain rfl : constant = none := h
  simp only [writeIn, Option.isSome_none, Bool.false_eq_true, if_false]
  cases m.get? accessor with
  | none => simp
  | some v =>
    cases arity with
    | one => exact (array rfl).elim
    | many | exactly =>
      cases v <;> simp [Written.andThen_eq_ofBytes_iff, writeCount_ok_iff, and_assoc]

theorem sizeIn_constant (h : f.constant.isSome = true) : f.sizeIn m path = .ok 0 := by
  obtain ⟨_, _, _, _, constant⟩ := f
  unfold sizeIn
  exact if_pos h

theorem sizeIn_one (h : f.constant = none) (one : f.arity = .one) {v : Value}
    (held : m.get? f.accessor = some v) :
    f.sizeIn m path = f.element.size v (fieldPath path f.accessor) := by
  obtain ⟨_, accessor, element, arity, constant⟩ := f
  obtain rfl : constant = none := h
  obtain rfl : arity = .one := one
  simp only at held
  simp [sizeIn, held]

theorem sizeIn_array (h : f.constant = none) (array : f.arity ≠ .one) {items : List Value}
    (held : m.get? f.accessor = some (.array items)) :
    f.sizeIn m path =
      (sumItems f.element.size (fieldPath path f.accessor) 0 items).map (4 + ·) := by
  obtain ⟨_, accessor, element, arity, constant⟩ := f
  obtain rfl : constant = none := h
  simp only at held
  cases arity with
  | one => exact (array rfl).elim
  | many | exactly =>
    simp only [sizeIn, held, Option.isSome_none, Bool.false_eq_true, if_false]
    cases sumItems element.size (fieldPath path accessor) 0 items <;> rfl

theorem minSize_constant (h : f.constant.isSome = true) : f.minSize = 0 := by
  obtain ⟨_, _, _, _, constant⟩ := f
  unfold minSize
  exact if_pos h

theorem minSize_one (h : f.constant = none) (one : f.arity = .one) :
    f.minSize = f.element.minSize := by
  obtain ⟨_, accessor, element, arity, constant⟩ := f
  obtain rfl : constant = none := h
  obtain rfl : arity = .one := one
  simp [minSize]

theorem minSize_array (h : f.constant = none) (array : f.arity ≠ .one) : f.minSize = 4 := by
  obtain ⟨_, accessor, element, arity, constant⟩ := f
  obtain rfl : constant = none := h
  cases arity with
  | one => exact (array rfl).elim
  | many | exactly => simp [minSize]

theorem writeAll_cons_iff :
    writeAll (f :: fs) m path = .ofBytes bytes ↔
      ∃ xs ys, f.writeIn m path = .ofBytes xs ∧ writeAll fs m path = .ofBytes ys ∧
        bytes = xs ++ ys := by
  rw [writeAll, Written.andThen_eq_ofBytes_iff]

end Field

/-! ### Messages -/

namespace MessageType

theorem writeAt_eq (type : MessageType) (m : Message) (path : String) :
    type.writeAt m path = Field.writeAll type.fields m path := by
  cases type
  rw [writeAt]

theorem sizeAt_eq (type : MessageType) (m : Message) (path : String) :
    type.sizeAt m path = Field.sizeAll type.fields m path := by
  cases type
  rw [sizeAt]

theorem minSize_eq (type : MessageType) : type.minSize = Field.minSizes type.fields := by
  cases type
  rw [minSize]

end MessageType

/-! ### Whole values -/

theorem Value.primitiveBytes_ok {v : Value} {p : Primitive} (h : v.primitive? = some p)
    {path : String} {bytes : Bytes} (written : v.primitiveBytes path = .ofBytes bytes) (path' : String) :
    v.primitiveBytes path' = .ofBytes bytes ∧ p.size v path' = .ok bytes.length ∧
      p.minSize ≤ bytes.length := by
  cases v with
  | string s =>
    cases h
    simp only [primitiveBytes, Written.andThen_eq_ofBytes_iff, lengthBytes_ok_iff, Written.ofBytes_inj]
      at written ⊢
    obtain ⟨_, _, ⟨small, rfl⟩, rfl, rfl⟩ := written
    refine ⟨⟨_, _, ⟨small, rfl⟩, rfl, rfl⟩, ?_, ?_⟩
    · simp [Primitive.size, primitive?, Bytes.length_ofText]
    · simp [Primitive.minSize, Primitive.fixedSize?]
  | array | message => cases h
  | _ =>
    cases h
    obtain rfl := Written.ofBytes_inj.mp written
    exact ⟨rfl, rfl, by simp [Primitive.minSize, Primitive.fixedSize?]⟩

namespace Field

variable {f : Field} {fs : List Field} {m : Message} {path : String} {bytes : Bytes}

theorem writeIn_ok (sized : Sized f.element.write f.element.size f.element.minSize)
    (written : f.writeIn m path = .ofBytes bytes) (path' : String) :
    f.writeIn m path' = .ofBytes bytes ∧ f.sizeIn m path' = .ok bytes.length ∧
      f.minSize ≤ bytes.length := by
  rcases f.constant_or_one_or_array with constant | ⟨sent, one⟩ | ⟨sent, array⟩
  · rw [writeIn_constant constant] at written ⊢
    obtain rfl := Written.nothing_eq_ofBytes.mp written
    exact ⟨rfl, sizeIn_constant constant, by rw [minSize_constant constant]; simp⟩
  · obtain ⟨v, held, write⟩ := (writeIn_one_iff sent one).mp written
    obtain ⟨again, counted, low⟩ := sized write (fieldPath path' f.accessor)
    exact ⟨(writeIn_one_iff sent one).mpr ⟨v, held, again⟩,
      by rw [sizeIn_one sent one held, counted], by rwa [minSize_one sent one]⟩
  · obtain ⟨items, ys, held, allowed, small, write, rfl⟩ := (writeIn_array_iff sent array).mp written
    obtain ⟨again, counted, _⟩ :=
      writeItems_ok sized write (fieldPath path' f.accessor) 0
    refine ⟨(writeIn_array_iff sent array).mpr ⟨items, ys, held, allowed, small, again, rfl⟩, ?_, ?_⟩
    · rw [sizeIn_array sent array held, counted]
      simp [Except.map]
    · rw [minSize_array sent array, List.length_append, Bytes.length_littleEndian]
      omega

theorem writeAll_ok
    (sized : ∀ f ∈ fs, Sized f.element.write f.element.size f.element.minSize)
    (written : writeAll fs m path = .ofBytes bytes) (path' : String) :
    writeAll fs m path' = .ofBytes bytes ∧ sizeAll fs m path' = .ok bytes.length ∧
      minSizes fs ≤ bytes.length := by
  induction fs generalizing bytes with
  | nil =>
    rw [writeAll] at written
    obtain rfl := Written.nothing_eq_ofBytes.mp written
    exact ⟨by rw [writeAll]; rfl, by rw [sizeAll]; rfl, by rw [minSizes]; simp⟩
  | cons f fs ih =>
    obtain ⟨xs, ys, first, others, rfl⟩ := writeAll_cons_iff.mp written
    obtain ⟨again, counted, low⟩ := writeIn_ok (sized f List.mem_cons_self) first path'
    obtain ⟨againAll, countedAll, lowAll⟩ :=
      ih (fun g member => sized g (List.mem_cons_of_mem _ member)) others
    refine ⟨writeAll_cons_iff.mpr ⟨xs, ys, again, againAll, rfl⟩, ?_, ?_⟩
    · rw [sizeAll, counted, countedAll, List.length_append]
      rfl
    · rw [minSizes, List.length_append]
      omega

end Field

theorem Element.sized (e : Element) : Sized e.write e.size e.minSize := by
  induction e using Element.induction with
  | primitive p =>
    intro v path bytes written path'
    rw [write] at written ⊢
    split at written
    · rename_i same
      rw [if_pos same, size, minSize]
      exact Value.primitiveBytes_ok same written path'
    · exact (Written.ofFault_ne_ofBytes written).elim
  | message type ih =>
    intro v path bytes written path'
    cases v with
    | message m =>
      simp only [write, size, minSize, MessageType.writeAt_eq, MessageType.sizeAt_eq,
        MessageType.minSize_eq] at written ⊢
      exact Field.writeAll_ok ih written path'
    | _ => simp [write] at written

/-- What was written of a message does not depend on the path, and is as long as its size. -/
theorem MessageType.writeAt_ok {type : MessageType} {m : Message} {path : String} {bytes : Bytes}
    (written : type.writeAt m path = .ofBytes bytes) (path' : String) :
    type.writeAt m path' = .ofBytes bytes ∧ type.sizeAt m path' = .ok bytes.length := by
  rw [writeAt_eq] at written ⊢
  rw [sizeAt_eq]
  obtain ⟨again, counted, _⟩ := Field.writeAll_ok (fun f _ => f.element.sized) written path'
  exact ⟨again, counted⟩

end TopicWire
