import TopicWire.Proofs.Wire.Validation

/-!
# What validation accepts

A message is valid exactly if the type that describes it admits it, and so does for each message
inside it the type that describes that one. `MessageType.Admits` says what one type asks of the
values of one message; `Element.check_ok_iff` puts the levels together.
-/

namespace TopicWire

/-! ### One level -/

/-- A value of the primitive type, or some message. -/
def Element.Kind : Element → Value → Prop
  | .primitive p, v => v.primitive? = some p
  | .message _, v => ∃ m, v = .message m

/-- One value of the element type's kind, or an array of as many of them as the field may have. -/
def Field.Kind (f : Field) (v : Value) : Prop :=
  match f.arity with
  | .one => f.element.Kind v
  | arity => ∃ items, v = .array items ∧ arity.Allows items.length ∧ ∀ item ∈ items, f.element.Kind item

/-- What a type asks of the type id, the keys and the values of a message, leaving what is inside the
values to the types of those. -/
structure MessageType.Admits (type : MessageType) (strict : Bool) (m : Message) : Prop where
  own : m.typeId = "" ∨ m.typeId = type.id
  known : strict = true → ∀ key ∈ m.keys, key ∈ type.accessors
  constants : ∀ f ∈ type.fields, ∀ literal v, f.constant = some literal →
    m.get? f.accessor = some v → v.same literal = true
  kinds : ∀ f ∈ type.fields, f.constant = none → ∀ v, m.get? f.accessor = some v → f.Kind v

theorem MessageType.admits_strict_iff {type : MessageType} {m : Message} :
    type.Admits true m ↔ type.Admits false m ∧ ∀ key ∈ m.keys, key ∈ type.accessors := by
  constructor
  · intro admits
    exact ⟨⟨admits.own, nofun, admits.constants, admits.kinds⟩, admits.known rfl⟩
  · rintro ⟨admits, known⟩
    exact ⟨admits.own, fun _ => known, admits.constants, admits.kinds⟩

namespace Field

variable {f : Field} {v : Value}

theorem kind_one (one : f.arity = .one) : f.Kind v ↔ f.element.Kind v := by
  unfold Kind
  rw [one]

theorem kind_array (array : f.arity ≠ .one) : f.Kind v ↔
    ∃ items, v = .array items ∧ f.arity.Allows items.length ∧ ∀ item ∈ items, f.element.Kind item := by
  unfold Kind
  cases arity : f.arity with
  | one => exact (array arity).elim
  | many | exactly => rfl

end Field

/-! ### All levels -/

/-- The value at `base` has the element type's kind, and each message that it is or has inside is
admitted by its type. -/
def Element.WellTyped (strict : Bool) (e : Element) (v : Value) (base : String) : Prop :=
  e.Kind v ∧ ∀ inner n path, e.Inside v base inner n path → inner.Admits strict n

variable {strict : Bool}

/-- A check of the element type accepts exactly the well-typed values. -/
def Element.ChecksTypes (strict : Bool) (e : Element) : Prop :=
  ∀ v path, e.check strict v path = .ok () ↔ e.WellTyped strict v path

namespace Field

variable {type : MessageType} {f : Field} {m : Message} {v : Value} {base : String}

theorem check_array_ok_iff {path : String} (sent : f.constant = none) (array : f.arity ≠ .one) :
    f.check strict v path = .ok () ↔ ∃ items, v = .array items ∧ f.arity.Allows items.length ∧
      ∀ i item, items[i]? = some item → f.element.check strict item (itemPath path i) = .ok () := by
  constructor
  · intro checked
    obtain ⟨items, rfl, length, each⟩ := check_array_ok sent array checked
    refine ⟨items, rfl, checkLength_ok_iff.mp length, ?_⟩
    intro i item there
    have := checkItems_ok_iff.mp each i item there
    rwa [Nat.zero_add] at this
  · rintro ⟨items, rfl, allowed, each⟩
    rw [check_of_array sent array, checkLength_ok_iff.mpr allowed]
    apply checkItems_ok_iff.mpr
    intro i item there
    rw [Nat.zero_add]
    exact each i item there

/-- The value passes if its message is admitted and what is inside the value is well-typed. -/
theorem check_of_admits (checks : f.element.ChecksTypes strict) (member : f ∈ type.fields)
    (held : m.get? f.accessor = some v)
    (levels : ∀ inner n path, (Element.message type).Inside (.message m) base inner n path →
      inner.Admits strict n) : f.check strict v (fieldPath base f.accessor) = .ok () := by
  have admits : type.Admits strict m := levels type m base .here
  rcases f.constant_or_one_or_array with constant | ⟨sent, one⟩ | ⟨sent, array⟩
  · obtain ⟨literal, given⟩ := Option.isSome_iff_exists.mp constant
    rw [check_of_constant given, if_pos (admits.constants f member literal v given held)]
  · rw [check_of_one sent one]
    apply (checks _ _).mpr
    refine ⟨(kind_one one).mp (admits.kinds f member sent v held), ?_⟩
    intro inner n path inside
    exact levels inner n path (.one member sent one held inside)
  · obtain ⟨items, rfl, allowed, kinds⟩ := (kind_array array).mp (admits.kinds f member sent v held)
    refine (check_array_ok_iff sent array).mpr ⟨items, rfl, allowed, ?_⟩
    intro i item there
    apply (checks _ _).mpr
    refine ⟨kinds item (List.mem_of_getElem? there), ?_⟩
    intro inner n path inside
    exact levels inner n path (.item member sent array held there inside)

theorem kind_of_check (checks : f.element.ChecksTypes strict) {path : String} (sent : f.constant = none)
    (checked : f.check strict v path = .ok ()) : f.Kind v := by
  by_cases one : f.arity = .one
  · rw [check_of_one sent one] at checked
    exact (kind_one one).mpr ((checks _ _).mp checked).1
  · obtain ⟨items, rfl, allowed, each⟩ := (check_array_ok_iff sent one).mp checked
    refine (kind_array one).mpr ⟨items, rfl, allowed, ?_⟩
    intro item member
    obtain ⟨i, there⟩ := List.getElem?_of_mem member
    exact ((checks _ _).mp (each i item there)).1

end Field

theorem MessageType.admits_of_check {type : MessageType} {m : Message} {path : String}
    (checks : ∀ f ∈ type.fields, f.element.ChecksTypes strict)
    (checked : type.check strict m path = .ok ()) : type.Admits strict m := by
  obtain ⟨own, known, fields⟩ := check_ok_iff.mp checked
  refine ⟨own, known, ?_, ?_⟩
  · intro f member literal v given held
    exact Field.check_constant given (Field.checkAll_ok fields member held)
  · intro f member sent v held
    exact Field.kind_of_check (checks f member) sent (Field.checkAll_ok fields member held)

/-- The induction is on the element type: a check of a message asks its type about this level, and the
checks of the values ask theirs. -/
theorem Element.check_ok_iff (strict : Bool) (e : Element) : e.ChecksTypes strict := by
  induction e using Element.induction with
  | primitive p =>
    intro v path
    rw [check, WellTyped, Kind]
    constructor
    · intro checked
      split at checked
      · rename_i kind
        refine ⟨kind, ?_⟩
        intro inner n at' inside
        cases inside
      · cases checked
    · rintro ⟨kind, -⟩
      exact if_pos kind
  | message type ih =>
    intro v path
    constructor
    · intro checked
      cases v with
      | message m =>
        rw [check] at checked
        have fields := MessageType.check_fields checked
        refine ⟨⟨m, rfl⟩, ?_⟩
        intro inner n at' inside
        cases inside with
        | here => exact MessageType.admits_of_check ih checked
        | one member sent one held inside =>
          have value := Field.check_one sent one (Field.checkAll_ok fields member held)
          exact ((ih _ member _ _).mp value).2 inner n at' inside
        | item member sent array held there inside =>
          obtain ⟨_, same, -, each⟩ :=
            (Field.check_array_ok_iff sent array).mp (Field.checkAll_ok fields member held)
          cases same
          exact ((ih _ member _ _).mp (each _ _ there)).2 inner n at' inside
      | _ => simp [check] at checked
    · rintro ⟨⟨m, rfl⟩, levels⟩
      have admits : type.Admits strict m := levels type m path .here
      rw [check]
      refine MessageType.check_ok_iff.mpr ⟨admits.own, admits.known, ?_⟩
      apply Field.checkAll_ok_iff.mpr
      intro f member v held
      exact Field.check_of_admits (ih f member) member held levels

namespace MessageType

/-- A message is valid exactly if it and each message inside it is admitted by the type that describes
it. What is valid strictly is so leniently as well, and only a key that its type does not have, at
whatever depth, makes a difference. -/
theorem validate_accepts (type : MessageType) (m : Message) :
    (∀ strict, type.validate m strict = .ok () ↔
      ∀ inner n path, type.Contains m inner n path → inner.Admits strict n) ∧
    (type.validate m true = .ok () ↔ type.validate m false = .ok () ∧
      ∀ inner n path, type.Contains m inner n path → ∀ key ∈ n.keys, key ∈ inner.accessors) := by
  have accepts : ∀ strict, type.validate m strict = .ok () ↔
      ∀ inner n path, type.Contains m inner n path → inner.Admits strict n := by
    intro strict
    have whole := Element.check_ok_iff strict (.message type) (.message m) ""
    rw [Element.check] at whole
    rw [validate, whole, Element.WellTyped]
    exact and_iff_right ⟨m, rfl⟩
  refine ⟨accepts, ?_⟩
  rw [accepts true, accepts false, ← forall_and]
  simp only [← forall_and, admits_strict_iff]

end MessageType

end TopicWire
