import TopicWire.Proofs.Wire.Bodiless

/-!
# Which arrays a guard lets through

A sound guard can refuse what was written only at an array of bodiless items: it is asked for the
number of items and the bytes behind the array. `admits` asks it at every such array of a message.
-/

namespace TopicWire

/-- The property holds of every item, with the bytes of the later items and `after` more behind it. -/
def admitsItems (admits : Value → Nat → Bool) (write : Value → String → Written) :
    List Value → (after : Nat) → Bool
  | [], _ => true
  | v :: vs, after =>
    admits v ((writeItems write "" 0 vs).bytes.length + after) && admitsItems admits write vs after

mutual

/-- The guard lets every array of bodiless items in a message through, if `after` bytes follow the
message. -/
def MessageType.admits (guard : Guard) : MessageType → Message → (after : Nat) → Bool
  | ⟨_, _, _, _, _, fields⟩, m, after => Field.admitsAll guard fields m after

def Field.admitsAll (guard : Guard) : List Field → Message → (after : Nat) → Bool
  | [], _, _ => true
  | f :: fs, m, after =>
    f.admitsIn guard m ((Field.writeAll fs m "").bytes.length + after) &&
      Field.admitsAll guard fs m after

def Field.admitsIn (guard : Guard) : Field → Message → (after : Nat) → Bool
  | ⟨_, accessor, element, arity, constant⟩, m, after =>
    if constant.isSome then true
    else match m.get? accessor, arity with
      | none, _ => true
      | some v, .one => element.admits guard v after
      | some (.array items), _ =>
        (!element.bodiless || guard 0 items.length after) &&
          admitsItems (element.admits guard) element.write items after
      | some _, _ => true

def Element.admits (guard : Guard) : Element → Value → (after : Nat) → Bool
  | .primitive _, _, _ => true
  | .message type, v, after =>
    match v with
    | .message m => type.admits guard m after
    | _ => true

end

variable {guard : Guard}

namespace Field

variable {f : Field} {m : Message} {after : Nat}

theorem admitsIn_constant (h : f.constant.isSome = true) : f.admitsIn guard m after = true := by
  obtain ⟨_, _, _, _, constant⟩ := f
  unfold admitsIn
  exact if_pos h

theorem admitsIn_one (h : f.constant = none) (one : f.arity = .one) {v : Value}
    (held : m.get? f.accessor = some v) :
    f.admitsIn guard m after = f.element.admits guard v after := by
  obtain ⟨_, accessor, element, arity, constant⟩ := f
  obtain rfl : constant = none := h
  obtain rfl : arity = .one := one
  simp only at held
  simp [admitsIn, held]

theorem admitsIn_array (h : f.constant = none) (array : f.arity ≠ .one) {items : List Value}
    (held : m.get? f.accessor = some (.array items)) :
    f.admitsIn guard m after = ((!f.element.bodiless || guard 0 items.length after) &&
      admitsItems (f.element.admits guard) f.element.write items after) := by
  obtain ⟨_, accessor, element, arity, constant⟩ := f
  obtain rfl : constant = none := h
  simp only at held
  cases arity with
  | one => exact (array rfl).elim
  | many | exactly => simp [admitsIn, held]

end Field

theorem MessageType.admits_eq (type : MessageType) (m : Message) (after : Nat) :
    type.admits guard m after = Field.admitsAll guard type.fields m after := by
  cases type
  rw [admits]

/-! ### When nothing is refused -/

/-- Arrays of bodiless items do not occur in the type itself, or the guard lets them through. -/
def Guard.Passes (guard : Guard) (type : MessageType) : Prop :=
  ∀ f ∈ type.fields, f.constant = none → f.arity ≠ .one →
    f.element.bodiless = true → ∀ count after, guard 0 count after = true

theorem admitsItems_of_forall {admits : Value → Nat → Bool} {write : Value → String → Written}
    (all : ∀ v after, admits v after = true) (items : List Value) (after : Nat) :
    admitsItems admits write items after = true := by
  induction items with
  | nil => rfl
  | cons v vs ih => rw [admitsItems, all, ih, Bool.and_self]

theorem Field.admitsIn_of_passes {f : Field}
    (inner : ∀ v after, f.element.admits guard v after = true)
    (free : f.constant = none → f.arity ≠ .one → f.element.bodiless = true →
      ∀ count after, guard 0 count after = true) (m : Message) (after : Nat) :
    f.admitsIn guard m after = true := by
  obtain ⟨_, accessor, element, arity, constant⟩ := f
  cases constant with
  | some literal => simp [admitsIn]
  | none =>
    simp only [admitsIn, Option.isSome_none, Bool.false_eq_true, if_false]
    split
    · rfl
    · exact inner _ _
    · rename_i items _ array
      rw [admitsItems_of_forall inner, Bool.and_true]
      cases none : element.bodiless with
      | false => rfl
      | true => exact free rfl array none _ _
    · rfl

theorem Field.admitsAll_of_forall {fs : List Field} {m : Message}
    (all : ∀ f ∈ fs, ∀ after, f.admitsIn guard m after = true) (after : Nat) :
    admitsAll guard fs m after = true := by
  induction fs with
  | nil => rw [admitsAll]
  | cons f fs ih =>
    rw [admitsAll, all f List.mem_cons_self, ih fun g member => all g (List.mem_cons_of_mem _ member),
      Bool.and_self]

theorem Element.admits_of_passes {e : Element} (passes : e.Everywhere guard.Passes) (v : Value)
    (after : Nat) : e.admits guard v after = true := by
  refine passes.induction (Q := fun e => ∀ v after, e.admits guard v after = true) ?_ ?_ v after
  · intro p v after
    rw [admits]
  · intro type free ih v after
    cases v with
    | message m =>
      rw [admits, MessageType.admits_eq]
      exact Field.admitsAll_of_forall
        (fun f member => Field.admitsIn_of_passes (ih f member) (free f member) m) after
    | _ => simp [admits]

namespace MessageType

/-- No guard refuses what was written for a type without arrays of bodiless items. -/
theorem admits_of_itemsHaveBodies {type : MessageType} (bodies : type.ItemsHaveBodies) (m : Message)
    (after : Nat) : type.admits guard m after = true := by
  have passes : type.Everywhere guard.Passes := by
    refine bodies.imp fun type here f member sent array none => ?_
    rw [here f member sent array] at none
    exact (Bool.false_ne_true none).elim
  have := Element.admits_of_passes passes.element (.message m) after
  rwa [Element.admits] at this

/-- A guard that lets any number of bodiless items through refuses nothing that was written. -/
theorem admits_of_forall (free : ∀ count after, guard 0 count after = true) (type : MessageType)
    (m : Message) (after : Nat) : type.admits guard m after = true := by
  have passes : (Element.message type).Everywhere guard.Passes :=
    Element.everywhere_of_forall (fun _ _ _ _ _ _ => free) _
  have := Element.admits_of_passes passes (.message m) after
  rwa [Element.admits] at this

end MessageType

end TopicWire
