import TopicWire.Json.Message
import TopicWire.Proofs.MessageType.Valid
import TopicWire.Proofs.Wire.Complete

/-!
# Messages from outside

What is read from a JSON value is complete (`MessageType.complete_of_ofJson`), as what is decoded is.
So a message from outside can be sent, except for a constant that is NaN
(`MessageType.received_complete`).
-/

namespace TopicWire

/-! ### JSON forms -/

theorem Value.itemsToJson_eq (items : List Value) : itemsToJson items = items.map Value.toJson := by
  induction items with
  | nil => rw [itemsToJson, List.map_nil]
  | cons v vs ih => rw [itemsToJson, ih, List.map_cons]

theorem Value.fieldsToJson_eq (fields : List (String × Value)) :
    fieldsToJson fields = fields.map fun (key, v) => (key, v.toJson) := by
  induction fields with
  | nil => rw [fieldsToJson, List.map_nil]
  | cons entry rest ih => rw [fieldsToJson, ih, List.map_cons]

theorem Message.toJson_eq (m : Message) : m.toJson = .object (Value.fieldsToJson m.fields) := by
  cases m
  rw [toJson]

/-! ### Primitive values -/

namespace Primitive

variable {p : Primitive} {v : Value} {path : String}

theorem primitive?_of_ofInteger {n : Int} (h : p.ofInteger path n = .ok v) : v.primitive? = some p := by
  unfold ofInteger at h
  split at h
  · rename_i found
    cases h
    exact primitive?_of_ofInteger? found
  · cases h

theorem primitive?_of_singleOfDouble {bits : UInt64} (h : singleOfDouble bits path = .ok v) :
    v.primitive? = some float32 := by
  unfold singleOfDouble at h
  split at h
  · cases h
  · cases h
    rfl

theorem timeOfJson_ok {members : List (String × Json)} (h : timeOfJson members path = .ok v) :
    ∃ m n a b, stampPart members path "secs" = .ok m ∧ stampPart members path "nsecs" = .ok n ∧
      v = .time a b := by
  unfold timeOfJson at h
  obtain ⟨_, secs, h⟩ := Result.bind_ok_iff.mp h
  obtain ⟨_, nsecs, h⟩ := Result.bind_ok_iff.mp h
  obtain ⟨_, -, h⟩ := Result.bind_ok_iff.mp h
  obtain ⟨_, -, h⟩ := Result.bind_ok_iff.mp h
  exact ⟨_, _, _, _, secs, nsecs, (Result.pure_ok_iff.mp h).symm⟩

theorem durationOfJson_ok {members : List (String × Json)} (h : durationOfJson members path = .ok v) :
    ∃ m n a b, stampPart members path "secs" = .ok m ∧ stampPart members path "nsecs" = .ok n ∧
      v = .duration a b := by
  unfold durationOfJson at h
  obtain ⟨_, secs, h⟩ := Result.bind_ok_iff.mp h
  obtain ⟨_, nsecs, h⟩ := Result.bind_ok_iff.mp h
  obtain ⟨_, -, h⟩ := Result.bind_ok_iff.mp h
  obtain ⟨_, -, h⟩ := Result.bind_ok_iff.mp h
  exact ⟨_, _, _, _, secs, nsecs, (Result.pure_ok_iff.mp h).symm⟩

theorem primitive?_of_ofJson {j : Json} (h : p.ofJson j path = .ok v) : v.primitive? = some p := by
  unfold ofJson at h
  split at h
  · cases h
    rfl
  · cases h
    rfl
  · obtain ⟨_, _, _, _, -, -, rfl⟩ := timeOfJson_ok h
    rfl
  · obtain ⟨_, _, _, _, -, -, rfl⟩ := durationOfJson_ok h
    rfl
  · exact primitive?_of_singleOfDouble h
  · exact primitive?_of_singleOfDouble h
  · cases h
    rfl
  · cases h
    rfl
  · split at h
    · exact primitive?_of_ofInteger h
    · cases h
  · cases h
  · cases h

end Primitive

/-! ### Fields -/

/-- Only what the element type can hold is made of a JSON value. -/
def Element.MakesHeld (e : Element) : Prop :=
  ∀ ⦃j path v⦄, e.ofJson j path = .ok v → e.Holds v

theorem itemsOfJson_forall₂ {item : Json → String → Except Violation Value} {path : String} {index : Nat}
    {js : List Json} {values : List Value} (h : itemsOfJson item path index js = .ok values) :
    List.Forall₂ (fun j v => ∃ path, item j path = .ok v) js values := by
  induction js generalizing index values with
  | nil =>
    cases h
    exact .nil
  | cons j js ih =>
    obtain ⟨v, first, h⟩ := Result.bind_ok_iff.mp h
    obtain ⟨rest, others, h⟩ := Result.bind_ok_iff.mp h
    obtain rfl := Result.pure_ok_iff.mp h
    exact .cons ⟨_, first⟩ (ih others)

theorem Element.MakesHeld.items {e : Element} (made : e.MakesHeld) {path : String} {index : Nat}
    {js : List Json} {values : List Value} (h : itemsOfJson e.ofJson path index js = .ok values) :
    values.length = js.length ∧ ∀ v ∈ values, e.Holds v := by
  have each := itemsOfJson_forall₂ h
  refine ⟨each.length_eq.symm, fun v there => ?_⟩
  obtain ⟨j, _, read⟩ := Result.exists_of_forall₂ each.flip v there
  exact made read

namespace Field

variable {f : Field} {fs : List Field} {path key : String} {j : Json} {v : Value}

theorem ofJson_constant {literal : Value} (given : f.constant = some literal) (one : f.arity = .one)
    (h : f.ofJson j path = .ok v) : v.same literal = true := by
  obtain ⟨_, _, _, _, _⟩ := f
  obtain rfl : _ = some literal := given
  obtain rfl := one
  rw [ofJson] at h
  obtain ⟨w, -, h⟩ := Result.bind_ok_iff.mp h
  dsimp only at h
  split at h
  · rename_i same
    exact Result.pure_ok_iff.mp h ▸ same
  · cases h

theorem ofJson_one (one : f.arity = .one) (h : f.ofJson j path = .ok v) :
    f.element.ofJson j path = .ok v := by
  obtain ⟨_, _, _, _, constant⟩ := f
  obtain rfl := one
  rw [ofJson] at h
  obtain ⟨w, made, h⟩ := Result.bind_ok_iff.mp h
  cases constant with
  | none => exact Result.pure_ok_iff.mp h ▸ made
  | some literal =>
    dsimp only at h
    split at h
    · exact Result.pure_ok_iff.mp h ▸ made
    · cases h

theorem ofJson_array (array : f.arity ≠ .one) (h : f.ofJson j path = .ok v) :
    ∃ js items, j = .array js ∧ f.arity.Allows js.length ∧
      itemsOfJson f.element.ofJson path 0 js = .ok items ∧ v = .array items := by
  obtain ⟨_, _, _, arity, _⟩ := f
  cases arity with
  | one => exact (array rfl).elim
  | many =>
    simp only [ofJson] at h
    split at h
    · obtain ⟨items, made, h⟩ := Result.bind_ok_iff.mp h
      exact ⟨_, items, rfl, nofun, made, (Result.pure_ok_iff.mp h).symm⟩
    · cases h
  | exactly n =>
    simp only [ofJson] at h
    split at h
    · simp only [Arity.length?] at h
      split at h
      · cases h
      · rename_i same
        obtain ⟨items, made, h⟩ := Result.bind_ok_iff.mp h
        refine ⟨_, items, rfl, fun declared length => ?_, made, (Result.pure_ok_iff.mp h).symm⟩
        cases length
        exact not_not.mp same
    · cases h

theorem ofJson_holds (made : f.element.MakesHeld)
    (constants : ∀ literal, f.constant = some literal → f.arity = .one)
    (h : f.ofJson j path = .ok v) : f.Holds v := by
  rcases f.constant_or_one_or_array with constant | ⟨sent, one⟩ | ⟨sent, array⟩
  · obtain ⟨literal, given⟩ := Option.isSome_iff_exists.mp constant
    exact (holds_constant given).mpr (.inr (ofJson_constant given (constants literal given) h))
  · exact (holds_one sent one).mpr (made (ofJson_one one h))
  · obtain ⟨js, items, -, allowed, converted, rfl⟩ := ofJson_array array h
    obtain ⟨length, each⟩ := made.items converted
    exact (holds_array sent array).mpr ⟨items, rfl, length ▸ allowed, each⟩

theorem ofMember_eq (fs : List Field) (path key : String) (j : Json) : ofMember fs path key j =
    (fs.find? (·.accessor == key)).map fun f => f.ofJson j (fieldPath path key) := by
  induction fs with
  | nil => rw [ofMember]; rfl
  | cons f fs ih =>
    rw [ofMember, List.find?_cons, ih]
    cases f.accessor == key <;> rfl

theorem ofMember_eq_some {result : Except Violation Value} (h : ofMember fs path key j = some result) :
    ∃ f ∈ fs, f.accessor = key ∧ f.ofJson j (fieldPath path key) = result := by
  rw [ofMember_eq, Option.map_eq_some_iff] at h
  obtain ⟨f, found, made⟩ := h
  have same := List.find?_some found
  exact ⟨f, List.mem_of_find?_eq_some found, beq_iff_eq.mp same, made⟩

end Field

/-! ### Messages -/

/-- What storing one member keeps, storing all of them keeps. -/
theorem storeMembers_keeps {member : String → Json → Option (Except Violation Value)}
    {typeId path : String} {keeps : Message → Prop} {members : List (String × Json)} {m last : Message}
    (start : keeps m)
    (stored : ∀ m key j v, keeps m → member key j = some (.ok v) → keeps (m.set key v))
    (h : storeMembers member typeId path m members = .ok last) : keeps last := by
  induction members generalizing m with
  | nil =>
    cases h
    exact start
  | cons entry rest ih =>
    obtain ⟨key, j⟩ := entry
    rw [storeMembers] at h
    split at h
    · cases h
    · cases h
    · rename_i found
      exact ih (stored m key j _ start found) h

theorem MessageType.ofJsonAt_object (type : MessageType) (members : List (String × Json)) (path : String) :
    type.ofJsonAt (.object members) path =
      storeMembers (Field.ofMember type.fields path) type.id path type.default members := by
  cases type
  rw [ofJsonAt, default]

theorem MessageType.ofJsonAt_ok {type : MessageType} {j : Json} {path : String} {m : Message}
    (h : type.ofJsonAt j path = .ok m) : ∃ members, j = .object members ∧
      storeMembers (Field.ofMember type.fields path) type.id path type.default members = .ok m := by
  cases j with
  | object members => exact ⟨members, rfl, ofJsonAt_object type members path ▸ h⟩
  | _ =>
    cases type
    simp [ofJsonAt] at h

theorem MessageType.ofMember_of_mem {type : MessageType} (distinct : type.accessors.Nodup) {f : Field}
    (member : f ∈ type.fields) (path : String) (j : Json) :
    Field.ofMember type.fields path f.accessor j = some (f.ofJson j (fieldPath path f.accessor)) := by
  have found : type.fields.find? (·.accessor == f.accessor) = some f := field?_of_mem distinct member
  rw [Field.ofMember_eq, found]
  rfl

theorem Element.makesHeld {e : Element} (wellFormed : e.Everywhere MessageType.WellFormed) :
    e.MakesHeld := by
  induction e using Element.induction with
  | primitive p =>
    intro j path v h
    rw [ofJson] at h
    rw [Holds]
    exact Primitive.primitive?_of_ofJson h
  | message type ih =>
    have all : type.Everywhere MessageType.WellFormed := wellFormed type rfl
    intro j path v h
    rw [ofJson] at h
    obtain ⟨m, read, rfl⟩ := Result.map_ok_iff.mp h
    obtain ⟨members, -, stored⟩ := MessageType.ofJsonAt_ok read
    rw [MessageType.holds_message_iff]
    -- The default is complete, and so is the message after each member.
    refine storeMembers_keeps (MessageType.default_complete all) (fun m key j v complete made => ?_) stored
    obtain ⟨f, member, rfl, made⟩ := Field.ofMember_eq_some made
    have constants : ∀ literal, f.constant = some literal → f.arity = .one :=
      fun literal given => (all.here.constants f member literal given).1
    exact complete.set all.here.distinct member
      (Field.ofJson_holds (ih f member (all.field member)) constants made)

namespace MessageType

variable {type : MessageType} {m : Message}

theorem complete_of_ofJson (wellFormed : type.Everywhere WellFormed) {j : Json}
    (made : type.ofJson j = .ok m) : type.Complete m := by
  have read : (Element.message type).ofJson j "" = .ok (.message m) := by
    rw [Element.ofJson]
    exact congrArg (Except.map Value.message) made
  exact holds_message_iff.mp (Element.makesHeld wellFormed.element read)

/-- What is decoded or read from a JSON value has the keys of its type and values that the fields can
hold, at every depth. Nothing but a constant that is NaN makes it invalid, and it is encoded if its
lengths can be told in four bytes. -/
theorem received_complete (made : type.Compiled)
    (received : (∃ body, type.decodeBody body = .ok m) ∨ ∃ j, type.ofJson j = .ok m) :
    type.Complete m ∧
    (type.validate m true = .ok () ∨
      ∃ path, type.validate m true = .error (.constantModified path) ∧ type.NaNAt m path) ∧
    ∃ size, type.size m = .ok size ∧
      (m.countsFit = true → size < 0x100000000 → ∃ frame, type.encode m = .ok frame) := by
  have complete : type.Complete m := by
    rcases received with ⟨body, decoded⟩ | ⟨j, read⟩
    · exact complete_of_decodeBody made.wellFormed decoded
    · exact complete_of_ofJson made.wellFormed read
  exact ⟨complete, complete.validate_settles made.wellFormed, complete.encode⟩

/-- Two limits from a JSON object. The constant is that of the type, so it is not valid. -/
theorem limits_received :
    rangeType.Compiled ∧
      ∃ m, rangeType.ofJson (.object [("limits", .array
          [.object [("x", .integer 1)], .object [("x", .integer 2)]])]) = .ok m ∧
        rangeType.Complete m ∧
        rangeType.validate m true = .error (.constantModified "limits[0].LIMIT") ∧
        ∃ frame, rangeType.encode m = .ok frame := by
  have read : rangeType.ofJson (.object [("limits", .array
      [.object [("x", .integer 1)], .object [("x", .integer 2)]])]) =
      .ok ⟨"geo/Range", [("limits", .array
        [.message ⟨"geo/Limit", [("LIMIT", .float32 0x7FC00000), ("x", .uint8 1)]⟩,
          .message ⟨"geo/Limit", [("LIMIT", .float32 0x7FC00000), ("x", .uint8 2)]⟩])]⟩ := by rfl
  obtain ⟨complete, -, size, sized, encoded⟩ := received_complete rangeType_compiled (.inr ⟨_, read⟩)
  obtain rfl : 6 = size := Except.ok.inj sized
  exact ⟨rangeType_compiled, _, read, complete, by decide +kernel, encoded rfl (by decide)⟩

end MessageType

end TopicWire
