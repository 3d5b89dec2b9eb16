import TopicWire.MessageType.Validate
import TopicWire.Proofs.Result

/-!
# What a check says

The check of a field is that of a constant, of one value or of the items of an array. A check that
succeeds does so for every field with a value and for every item, and a strict one has found no other
keys.
-/

namespace TopicWire

section

variable {check : Value → String → Except Violation Unit} {path : String} {index : Nat}
  {items : List Value}

theorem checkItems_ok_iff : checkItems check path index items = .ok () ↔
    ∀ i v, items[i]? = some v → check v (itemPath path (index + i)) = .ok () := by
  induction items generalizing index with
  | nil => simp [checkItems]
  | cons v vs ih =>
    have shift : ∀ i, index + 1 + i = index + (i + 1) := by omega
    rw [checkItems, Result.bind_ok_iff]
    constructor
    · rintro ⟨⟨⟩, first, rest⟩ i w there
      cases i with
      | zero =>
        cases there
        exact first
      | succ i =>
        rw [← shift]
        exact ih.mp rest i w there
    · intro each
      refine ⟨(), each 0 v rfl, ih.mpr ?_⟩
      intro i w there
      rw [shift]
      exact each (i + 1) w there

theorem checkItems_ok (checked : checkItems check path index items = .ok ()) :
    ∀ v ∈ items, ∃ path, check v path = .ok () := by
  intro v member
  obtain ⟨i, there⟩ := List.getElem?_of_mem member
  exact ⟨_, checkItems_ok_iff.mp checked i v there⟩

end

namespace Field

variable {f : Field} {fs : List Field} {m : Message} {path : String} {strict : Bool}

theorem checkAll_ok_iff : checkAll strict fs m path = .ok () ↔
    ∀ f ∈ fs, ∀ v, m.get? f.accessor = some v →
      f.check strict v (fieldPath path f.accessor) = .ok () := by
  induction fs with
  | nil => simp [checkAll]
  | cons g fs ih =>
    rw [checkAll, List.forall_mem_cons, ← ih]
    cases held : m.get? g.accessor with
    | none => simp
    | some v =>
      simp only [Option.some.injEq, forall_eq']
      constructor
      · intro checked
        obtain ⟨⟨⟩, first, rest⟩ := Result.bind_ok_iff.mp checked
        exact ⟨first, rest⟩
      · rintro ⟨first, rest⟩
        exact Result.bind_ok_iff.mpr ⟨(), first, rest⟩

theorem checkAll_ok (checked : checkAll strict fs m path = .ok ()) (member : f ∈ fs) {v : Value}
    (held : m.get? f.accessor = some v) : f.check strict v (fieldPath path f.accessor) = .ok () :=
  checkAll_ok_iff.mp checked f member v held

theorem check_of_constant {literal v : Value} (given : f.constant = some literal) :
    f.check strict v path = if v.same literal then .ok () else .error (.constantModified path) := by
  obtain ⟨_, _, _, _, _⟩ := f
  obtain rfl : _ = some literal := given
  rw [check]

theorem check_of_one {v : Value} (sent : f.constant = none) (one : f.arity = .one) :
    f.check strict v path = f.element.check strict v path := by
  obtain ⟨_, _, _, _, _⟩ := f
  obtain rfl := sent
  obtain rfl := one
  rw [check]

theorem check_of_array {items : List Value} (sent : f.constant = none) (array : f.arity ≠ .one) :
    f.check strict (.array items) path = (do
      checkLength f.arity path items.length
      checkItems (f.element.check strict) path 0 items) := by
  obtain ⟨_, _, _, arity, _⟩ := f
  obtain rfl := sent
  cases arity with
  | one => exact (array rfl).elim
  | many | exactly => simp only [check]

theorem check_of_other {v : Value} (sent : f.constant = none) (array : f.arity ≠ .one)
    (kind : ∀ items, v ≠ .array items) :
    f.check strict v path = .error (.ofKind path f.kindText v) := by
  obtain ⟨_, _, _, arity, _⟩ := f
  obtain rfl := sent
  cases arity with
  | one => exact (array rfl).elim
  | many | exactly =>
    simp only [check]
    rfl

theorem check_array_ok {v : Value} (sent : f.constant = none) (array : f.arity ≠ .one)
    (checked : f.check strict v path = .ok ()) :
    ∃ items, v = .array items ∧ checkLength f.arity path items.length = .ok () ∧
      checkItems (f.element.check strict) path 0 items = .ok () := by
  by_cases list : ∃ items, v = .array items
  · obtain ⟨items, rfl⟩ := list
    rw [check_of_array sent array] at checked
    obtain ⟨⟨⟩, length, each⟩ := Result.bind_ok_iff.mp checked
    exact ⟨items, rfl, length, each⟩
  · rw [check_of_other sent array fun items same => list ⟨items, same⟩] at checked
    cases checked

theorem check_constant {literal v : Value} (constant : f.constant = some literal)
    (checked : f.check strict v path = .ok ()) : v.same literal = true := by
  rw [check_of_constant constant] at checked
  split at checked
  · assumption
  · cases checked

theorem check_one {v : Value} (sent : f.constant = none) (one : f.arity = .one)
    (checked : f.check strict v path = .ok ()) : f.element.check strict v path = .ok () := by
  rwa [check_of_one sent one] at checked

theorem check_array {items : List Value} (sent : f.constant = none) (array : f.arity ≠ .one)
    (checked : f.check strict (.array items) path = .ok ()) :
    checkItems (f.element.check strict) path 0 items = .ok () := by
  rw [check_of_array sent array] at checked
  obtain ⟨⟨⟩, -, rest⟩ := Result.bind_ok_iff.mp checked
  exact rest

end Field

theorem unknownKey?_eq_none_iff {type : MessageType} {m : Message} :
    unknownKey? type.fields m = none ↔ ∀ key ∈ m.keys, key ∈ type.accessors := by
  rw [unknownKey?, List.find?_eq_none]
  simp [MessageType.accessors]

theorem MessageType.check_ok_iff {type : MessageType} {m : Message} {path : String} {strict : Bool} :
    type.check strict m path = .ok () ↔ (m.typeId = "" ∨ m.typeId = type.id) ∧
      (strict = true → ∀ key ∈ m.keys, key ∈ type.accessors) ∧
        Field.checkAll strict type.fields m path = .ok () := by
  rw [← unknownKey?_eq_none_iff]
  obtain ⟨id, _, _, _, _, fields⟩ := type
  have own : (!m.typeId.isEmpty && m.typeId != id) = true ↔ ¬ (m.typeId = "" ∨ m.typeId = id) := by
    simp
  rw [check]
  by_cases same : m.typeId = "" ∨ m.typeId = id
  · rw [if_neg (mt own.mp (not_not_intro same))]
    cases strict with
    | false => simp [same]
    | true => cases unknownKey? fields m <;> simp [same]
  · rw [if_pos (own.mpr same)]
    simp [same]

theorem MessageType.check_fields {type : MessageType} {m : Message} {path : String} {strict : Bool}
    (checked : type.check strict m path = .ok ()) :
    Field.checkAll strict type.fields m path = .ok () :=
  (check_ok_iff.mp checked).2.2

/-- Without the search for foreign keys only the fields are checked. -/
theorem MessageType.check_lenient {type : MessageType} {m : Message}
    (own : m.typeId = "" ∨ m.typeId = type.id) (path : String) :
    type.check false m path = Field.checkAll false type.fields m path := by
  obtain ⟨id, _, _, _, _, fields⟩ := type
  rw [check]
  rcases own with none | same
  · simp [none]
  · simp [same]

theorem MessageType.check_ok {type : MessageType} {m : Message} {path : String}
    (checked : type.check true m path = .ok ()) :
    (m.typeId = "" ∨ m.typeId = type.id) ∧ (∀ key ∈ m.keys, key ∈ type.accessors) ∧
      Field.checkAll true type.fields m path = .ok () := by
  obtain ⟨own, known, fields⟩ := check_ok_iff.mp checked
  exact ⟨own, known rfl, fields⟩

end TopicWire
