import Mathlib.Data.List.Nodup
import TopicWire.Proofs.Keyed
import TopicWire.Proofs.MessageType.Nesting
import TopicWire.Proofs.Wire.Writing

/-!
# Complete messages

A message is complete for a type if it has exactly the keys of the type and under each key a value
that the field can hold, at every depth. The default of a type is complete (`default_complete`), and
a complete message stays so when a value that the field can hold is stored in it (`Complete.set`).
-/

namespace TopicWire

/-! ### Constants of compiled types -/

theorem FieldLine.constant?_eq_some {e : Element} {arity : Arity} {literal : String} {value : Value}
    (h : constant? e arity literal = some value) :
    arity = .one ∧ ∃ p, e = .primitive p ∧ value.primitive? = some p := by
  unfold constant? at h
  split at h
  · exact ⟨rfl, _, rfl, Primitive.primitive?_of_literal? h⟩
  · cases h

namespace MessageType

/-- No two fields have the same accessor, and a constant is a single value of a primitive type. -/
structure WellFormed (type : MessageType) : Prop where
  distinct : type.accessors.Nodup
  constants : ∀ f ∈ type.fields, ∀ literal, f.constant = some literal →
    f.arity = .one ∧ ∃ p, f.element = .primitive p ∧ literal.primitive? = some p

theorem Compiled.wellFormed {type : MessageType} (made : type.Compiled) :
    type.Everywhere WellFormed := by
  have fields := made.everywhere (P := fun fields => (fields.map Field.accessor).Nodup ∧
      ∀ f ∈ fields, ∀ literal, f.constant = some literal →
        f.arity = .one ∧ ∃ p, f.element = .primitive p ∧ literal.primitive? = some p) ?_
  · exact fields.imp fun type ⟨distinct, constants⟩ => ⟨distinct, constants⟩
  intro _ _ _ _ fields compiled
  refine ⟨(FieldLine.compileAll_accessors compiled).1, fun f member literal given => ?_⟩
  obtain ⟨line, _, made⟩ := FieldLine.compileAll_member compiled member
  obtain ⟨-, -, -, -, bare, marked⟩ := FieldLine.compile_ok made
  cases text : line.literal with
  | none =>
    rw [bare text] at given
    cases given
  | some text' =>
    obtain ⟨value, read, held⟩ := marked text' text
    obtain rfl : value = literal := Option.some.inj (held.symm.trans given)
    exact FieldLine.constant?_eq_some read

end MessageType

/-! ### Values that a field can hold -/

mutual

/-- The message has the id of the type, the accessors of the type as its keys, in order, and under each
a value that the field can hold. -/
def MessageType.Complete : MessageType → Message → Prop
  | ⟨id, _, _, _, _, fields⟩, m =>
    m.typeId = id ∧ m.keys.Perm (fields.map (·.accessor)) ∧ m.keys.Pairwise (· < ·) ∧
      Field.HeldAll fields m

/-- Every field has a value that it can hold. -/
def Field.HeldAll : List Field → Message → Prop
  | [], _ => True
  | f :: fs, m => (∃ v, m.get? f.accessor = some v ∧ f.Holds v) ∧ Field.HeldAll fs m

/-- A constant holds its literal, or what compares equal to it. -/
def Field.Holds : Field → Value → Prop
  | ⟨_, _, element, arity, constant⟩, v =>
    match constant with
    | some literal => v = literal ∨ v.same literal = true
    | none =>
      match arity with
      | .one => element.Holds v
      | arity => ∃ items, v = .array items ∧ arity.Allows items.length ∧ ∀ item ∈ items, element.Holds item

def Element.Holds : Element → Value → Prop
  | .primitive p, v => v.primitive? = some p
  | .message type, v => ∃ m, v = .message m ∧ type.Complete m

end

namespace Field

variable {f : Field} {fs : List Field} {m : Message} {v : Value}

theorem heldAll_iff : HeldAll fs m ↔ ∀ f ∈ fs, ∃ v, m.get? f.accessor = some v ∧ f.Holds v := by
  induction fs with
  | nil => simp [HeldAll]
  | cons f fs ih => simp [HeldAll, ih]

theorem holds_constant {literal : Value} (constant : f.constant = some literal) :
    f.Holds v ↔ v = literal ∨ v.same literal = true := by
  obtain ⟨_, _, _, _, _⟩ := f
  obtain rfl : _ = some literal := constant
  rw [Holds]

theorem holds_one (sent : f.constant = none) (one : f.arity = .one) :
    f.Holds v ↔ f.element.Holds v := by
  obtain ⟨_, _, _, _, _⟩ := f
  obtain rfl := sent
  obtain rfl := one
  rw [Holds]

theorem holds_array (sent : f.constant = none) (array : f.arity ≠ .one) :
    f.Holds v ↔ ∃ items, v = .array items ∧ f.arity.Allows items.length ∧
      ∀ item ∈ items, f.element.Holds item := by
  obtain ⟨_, _, _, arity, _⟩ := f
  obtain rfl := sent
  cases arity with
  | one => exact (array rfl).elim
  | many | exactly => rw [Holds]; exact nofun

end Field

namespace MessageType

variable {type : MessageType} {m : Message}

theorem complete_iff : type.Complete m ↔ m.typeId = type.id ∧ m.keys.Perm type.accessors ∧
    m.keys.Pairwise (· < ·) ∧ ∀ f ∈ type.fields, ∃ v, m.get? f.accessor = some v ∧ f.Holds v := by
  obtain ⟨id, _, _, _, _, fields⟩ := type
  rw [Complete, Field.heldAll_iff]
  rfl

theorem Complete.held (complete : type.Complete m) {f : Field} (member : f ∈ type.fields) :
    ∃ v, m.get? f.accessor = some v ∧ f.Holds v :=
  (complete_iff.mp complete).2.2.2 f member

theorem holds_message_iff : (Element.message type).Holds (.message m) ↔ type.Complete m := by
  rw [Element.Holds]
  constructor
  · rintro ⟨_, same, complete⟩
    cases same
    exact complete
  · intro complete
    exact ⟨m, rfl, complete⟩

/-- Entries in schema order make a complete message. -/
theorem complete_ofList (distinct : type.accessors.Nodup) {entries : List (String × Value)}
    (keys : entries.map (·.1) = type.accessors)
    (values : ∀ f ∈ type.fields, ∃ v, (f.accessor, v) ∈ entries ∧ f.Holds v) :
    type.Complete ⟨type.id, Keyed.ofList entries⟩ := by
  have once : (entries.map (·.1)).Nodup := keys ▸ distinct
  obtain ⟨same, ascending⟩ := Keyed.keys_ofList once
  refine complete_iff.mpr ⟨rfl, keys ▸ same, ascending, fun f member => ?_⟩
  obtain ⟨v, there, holds⟩ := values f member
  refine ⟨v, ?_, holds⟩
  show (Keyed.ofList entries).lookup f.accessor = some v
  rw [Keyed.lookup_ofList once, Keyed.lookup_eq_some once there]

theorem field?_of_mem (distinct : type.accessors.Nodup) {f : Field} (member : f ∈ type.fields) :
    type.field? f.accessor = some f := by
  cases found : type.field? f.accessor with
  | none =>
    have other := List.find?_eq_none.mp found f member
    simp at other
  | some g =>
    have same := List.find?_some found
    rw [List.inj_on_of_nodup_map distinct (List.mem_of_find?_eq_some found) member (beq_iff_eq.mp same)]

theorem Complete.set (complete : type.Complete m) (distinct : type.accessors.Nodup) {f : Field}
    (member : f ∈ type.fields) {v : Value} (holds : f.Holds v) :
    type.Complete (m.set f.accessor v) := by
  obtain ⟨id, keys, ascending, values⟩ := complete_iff.mp complete
  have there : f.accessor ∈ m.keys := keys.mem_iff.mpr (List.mem_map_of_mem member)
  have kept : (m.set f.accessor v).keys = m.keys := Keyed.keys_insert_of_mem ascending there
  refine complete_iff.mpr ⟨id, kept ▸ keys, kept ▸ ascending, fun g other => ?_⟩
  rw [Message.get?_set]
  split
  · rename_i same
    obtain rfl : g = f := List.inj_on_of_nodup_map distinct other member same
    exact ⟨v, rfl, holds⟩
  · exact values g other

end MessageType

/-! ### Defaults -/

theorem Field.defaults_eq (fs : List Field) :
    Field.defaults fs = fs.map fun f => (f.accessor, f.default) := by
  induction fs with
  | nil => rw [defaults, List.map_nil]
  | cons f fs ih => rw [defaults, ih, List.map_cons]

theorem Field.keys_defaults (fs : List Field) :
    (Field.defaults fs).map (·.1) = fs.map (·.accessor) := by
  rw [defaults_eq, List.map_map]
  rfl

theorem MessageType.default_eq (type : MessageType) :
    type.default = ⟨type.id, Keyed.ofList (Field.defaults type.fields)⟩ := by
  cases type
  rw [default]

theorem Field.lookup_defaults (fs : List Field) (key : String) :
    (defaults fs).lookup key = (fs.find? (·.accessor == key)).map (·.default) := by
  induction fs with
  | nil =>
    rw [defaults]
    rfl
  | cons f fs ih =>
    rw [defaults, Keyed.lookup_cons, List.find?_cons, ih]
    by_cases here : key = f.accessor
    · rw [if_pos here, here, beq_self_eq_true]
      rfl
    · rw [if_neg here, beq_eq_false_iff_ne.mpr (Ne.symm here)]

theorem MessageType.ascending_default {type : MessageType} (distinct : type.accessors.Nodup) :
    type.default.keys.Pairwise (· < ·) := by
  rw [default_eq]
  exact (Keyed.keys_ofList (Field.keys_defaults type.fields ▸ distinct)).2

theorem MessageType.get?_default {type : MessageType} (distinct : type.accessors.Nodup) (key : String) :
    type.default.get? key = (type.field? key).map (·.default) := by
  rw [default_eq]
  exact (Keyed.lookup_ofList (Field.keys_defaults type.fields ▸ distinct) key).trans
    (Field.lookup_defaults type.fields key)

theorem Field.default_holds {f : Field} (element : f.element.Holds f.element.default) :
    f.Holds f.default := by
  obtain ⟨_, _, e, arity, constant⟩ := f
  cases constant with
  | some literal =>
    rw [Holds, default]
    exact .inl rfl
  | none =>
    cases arity with
    | one =>
      rw [Holds, default]
      exact element
    | many =>
      simp only [Holds, default]
      exact ⟨[], rfl, nofun, nofun⟩
    | exactly n =>
      simp only [Holds, default]
      refine ⟨List.replicate n e.default, rfl, ?_, fun item member => ?_⟩
      · intro declared length
        cases length
        exact List.length_replicate
      · rw [List.eq_of_mem_replicate member]
        exact element

theorem MessageType.complete_defaults {type : MessageType} (distinct : type.accessors.Nodup)
    (fields : ∀ f ∈ type.fields, f.element.Holds f.element.default) : type.Complete type.default := by
  rw [default_eq]
  refine complete_ofList distinct (Field.keys_defaults _) fun f member => ?_
  rw [Field.defaults_eq]
  exact ⟨f.default, List.mem_map_of_mem member, Field.default_holds (fields f member)⟩

theorem Element.default_holds {e : Element} (wellFormed : e.Everywhere MessageType.WellFormed) :
    e.Holds e.default := by
  refine wellFormed.induction (Q := fun e => e.Holds e.default) (fun p => ?_) fun type here fields => ?_
  · rw [Holds, default]
    exact p.primitive?_zero
  · rw [default]
    exact MessageType.holds_message_iff.mpr (MessageType.complete_defaults here.distinct fields)

theorem MessageType.default_complete {type : MessageType} (wellFormed : type.Everywhere WellFormed) :
    type.Complete type.default :=
  complete_defaults wellFormed.here.distinct fun _ member =>
    Element.default_holds (wellFormed.field member)

end TopicWire
