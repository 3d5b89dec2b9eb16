import Mathlib.Data.List.Forall2
import Mathlib.Data.List.Nodup
import TopicWire.Proofs.Keyed
import TopicWire.Proofs.MessageType.Check
import TopicWire.Proofs.MessageType.Complete
import TopicWire.Proofs.Wire.Normal
import TopicWire.Proofs.Wire.Writing

/-!
# Messages with what was left out filled in

A message that may be sent can leave out constants and type ids. `MessageType.Fills` says that another
message is the same with these filled in, at every depth, and `MessageType.fills_normalized` that a
message which is valid and complete is received so.
-/

namespace TopicWire

mutual

/-- The second message is the first with its type id and its constants filled in. -/
def MessageType.Fills : MessageType → Message → Message → Prop
  | ⟨id, _, _, _, _, fields⟩, m, filled =>
    (m.typeId = "" ∨ m.typeId = id) ∧ filled.typeId = id ∧
      (∀ key, key ∉ fields.map (·.accessor) → m.get? key = none ∧ filled.get? key = none) ∧
      Field.FillsAll fields m filled

def Field.FillsAll : List Field → Message → Message → Prop
  | [], _, _ => True
  | f :: fs, m, filled => f.FillsIn m filled ∧ Field.FillsAll fs m filled

/-- A constant has its literal, and had it before unless it was left out. Any other field has the same
value, filled in. -/
def Field.FillsIn : Field → Message → Message → Prop
  | ⟨_, accessor, element, arity, constant⟩, m, filled =>
    match constant with
    | some literal => filled.get? accessor = some literal ∧
        ∀ v, m.get? accessor = some v → v.same literal = true
    | none =>
      match arity with
      | .one => ∃ v w, m.get? accessor = some v ∧ filled.get? accessor = some w ∧ element.Fills v w
      | _ => ∃ items filledIn, m.get? accessor = some (.array items) ∧
          filled.get? accessor = some (.array filledIn) ∧ List.Forall₂ element.Fills items filledIn

def Element.Fills : Element → Value → Value → Prop
  | .primitive _, v, filled => filled = v
  | .message type, v, filled => ∃ m w, v = .message m ∧ filled = .message w ∧ type.Fills m w

end

/-! ### What a write says -/

theorem writeItems_ofBytes {write : Value → String → Written} {path : String} {index : Nat}
    {items : List Value} {bytes : Bytes} (written : writeItems write path index items = .ofBytes bytes) :
    ∀ v ∈ items, ∃ path bytes, write v path = .ofBytes bytes := by
  induction items generalizing index bytes with
  | nil => exact nofun
  | cons v vs ih =>
    obtain ⟨xs, ys, first, rest, -⟩ := writeItems_cons_iff.mp written
    intro w member
    rcases List.mem_cons.mp member with rfl | later
    · exact ⟨_, _, first⟩
    · exact ih rest w later

namespace Field

variable {f : Field} {fs : List Field} {m filled : Message} {path : String} {bytes : Bytes}

theorem fillsAll_iff : FillsAll fs m filled ↔ ∀ f ∈ fs, f.FillsIn m filled := by
  induction fs with
  | nil => simp [FillsAll]
  | cons f fs ih => simp [FillsAll, ih]

theorem writeAll_member (written : writeAll fs m path = .ofBytes bytes) (member : f ∈ fs) :
    ∃ bytes, f.writeIn m path = .ofBytes bytes := by
  induction fs generalizing bytes with
  | nil => cases member
  | cons g fs ih =>
    obtain ⟨xs, ys, first, rest, -⟩ := writeAll_cons_iff.mp written
    rcases List.mem_cons.mp member with rfl | later
    · exact ⟨xs, first⟩
    · exact ih rest later

theorem fillsIn_constant {literal : Value} (constant : f.constant = some literal) :
    f.FillsIn m filled ↔ filled.get? f.accessor = some literal ∧
      ∀ v, m.get? f.accessor = some v → v.same literal = true := by
  obtain ⟨_, _, _, _, _⟩ := f
  obtain rfl : _ = some literal := constant
  rw [FillsIn]

theorem fillsIn_one (sent : f.constant = none) (one : f.arity = .one) :
    f.FillsIn m filled ↔ ∃ v w, m.get? f.accessor = some v ∧ filled.get? f.accessor = some w ∧
      f.element.Fills v w := by
  obtain ⟨_, _, _, _, _⟩ := f
  obtain rfl := sent
  obtain rfl := one
  rw [FillsIn]

theorem fillsIn_array (sent : f.constant = none) (array : f.arity ≠ .one) :
    f.FillsIn m filled ↔ ∃ items filledIn, m.get? f.accessor = some (.array items) ∧
      filled.get? f.accessor = some (.array filledIn) ∧
      List.Forall₂ f.element.Fills items filledIn := by
  obtain ⟨_, _, _, arity, _⟩ := f
  obtain rfl := sent
  cases arity with
  | one => exact (array rfl).elim
  | many | exactly => rw [FillsIn]; exact nofun

end Field

namespace MessageType

variable {type : MessageType} {m filled : Message} {path : String}

theorem fills_iff : type.Fills m filled ↔ (m.typeId = "" ∨ m.typeId = type.id) ∧
    filled.typeId = type.id ∧
    (∀ key, key ∉ type.accessors → m.get? key = none ∧ filled.get? key = none) ∧
    ∀ f ∈ type.fields, f.FillsIn m filled := by
  obtain ⟨id, _, _, _, _, fields⟩ := type
  rw [Fills, Field.fillsAll_iff]
  rfl

end MessageType

theorem Message.get?_eq_none {m : Message} {key : String} (absent : key ∉ m.keys) : m.get? key = none :=
  Keyed.lookup_eq_none absent

/-! ### What is received -/

/-- The values of an element type that are valid and can be written come back filled in. -/
def Element.Received (e : Element) : Prop :=
  ∀ v path path' bytes, e.check true v path = .ok () → e.write v path' = .ofBytes bytes →
    e.Fills v (e.normalized v)

theorem Element.Received.items {e : Element} (received : e.Received) {path path' : String}
    {index index' : Nat} {items : List Value} {bytes : Bytes}
    (checked : checkItems (e.check true) path index items = .ok ())
    (written : writeItems e.write path' index' items = .ofBytes bytes) :
    List.Forall₂ e.Fills items (items.map e.normalized) := by
  rw [List.forall₂_map_right_iff, List.forall₂_same]
  intro v member
  obtain ⟨_, valid⟩ := checkItems_ok checked v member
  obtain ⟨_, _, complete⟩ := writeItems_ofBytes written v member
  exact received _ _ _ _ valid complete

theorem Field.fillsIn_normalized {f : Field} (received : f.element.Received) {m filled : Message}
    {path : String} {bytes : Bytes} (found : filled.get? f.accessor = f.normalizedIn m)
    (checked : ∀ v, m.get? f.accessor = some v → ∃ path, f.check true v path = .ok ())
    (written : f.writeIn m path = .ofBytes bytes) : f.FillsIn m filled := by
  rcases f.constant_or_one_or_array with constant | ⟨sent, one⟩ | ⟨sent, array⟩
  · obtain ⟨literal, constant⟩ := Option.isSome_iff_exists.mp constant
    rw [normalizedIn_constant constant] at found
    refine (fillsIn_constant constant).mpr ⟨found, fun v held => ?_⟩
    obtain ⟨_, valid⟩ := checked v held
    exact check_constant constant valid
  · obtain ⟨v, held, complete⟩ := (writeIn_one_iff sent one).mp written
    rw [normalizedIn_one sent one held] at found
    obtain ⟨_, valid⟩ := checked v held
    exact (fillsIn_one sent one).mpr
      ⟨v, _, held, found, received _ _ _ _ (check_one sent one valid) complete⟩
  · obtain ⟨items, ys, held, -, -, complete, -⟩ := (writeIn_array_iff sent array).mp written
    rw [normalizedIn_array sent array held] at found
    obtain ⟨_, valid⟩ := checked _ held
    exact (fillsIn_array sent array).mpr
      ⟨items, _, held, found, received.items (check_array sent array valid) complete⟩

theorem MessageType.fills_of_received {type : MessageType} (distinct : type.accessors.Nodup)
    (received : ∀ f ∈ type.fields, f.element.Received) {m : Message} {path path' : String} {bytes : Bytes}
    (checked : type.check true m path = .ok ()) (written : type.writeAt m path' = .ofBytes bytes) :
    type.Fills m (type.normalized m) := by
  obtain ⟨own, known, fields⟩ := check_ok checked
  rw [writeAt_eq] at written
  refine fills_iff.mpr ⟨own, by rw [normalized_eq], fun key foreign => ⟨?_, ?_⟩, fun f member => ?_⟩
  · exact Message.get?_eq_none fun there => foreign (known key there)
  · have none : type.field? key = none := by
      refine List.find?_eq_none.mpr fun f member same => foreign ?_
      rw [← beq_iff_eq.mp same]
      exact List.mem_map_of_mem member
    rw [get?_normalized distinct, none, Option.bind_none]
  · obtain ⟨_, complete⟩ := Field.writeAll_member written member
    refine Field.fillsIn_normalized (received f member) ?_ (fun v held => ?_) complete
    · rw [get?_normalized distinct, field?_of_mem distinct member, Option.bind_some]
    · exact ⟨_, Field.checkAll_ok fields member held⟩

theorem Element.received {e : Element} (distinct : e.Everywhere fun type => type.accessors.Nodup) :
    e.Received := by
  refine distinct.induction (Q := Element.Received) (fun p => ?_) fun type distinct fields => ?_
  · intro v _ _ _ _ _
    rw [Fills, normalized]
  · intro v path path' bytes checked written
    cases v with
    | message m =>
      rw [check] at checked
      rw [write] at written
      rw [Fills, normalized]
      exact ⟨_, _, rfl, rfl, MessageType.fills_of_received distinct fields checked written⟩
    | _ => simp [check] at checked

/-- A valid and complete message comes back with what was left out filled in. -/
theorem MessageType.fills_normalized {type : MessageType}
    (distinct : type.Everywhere fun type => type.accessors.Nodup) {m : Message} {bytes : Bytes}
    (valid : type.validate m true = .ok ()) (written : type.writeAt m "" = .ofBytes bytes) :
    type.Fills m (type.normalized m) :=
  fills_of_received distinct.here (fun _ member => Element.received (distinct.field member)) valid written

end TopicWire
