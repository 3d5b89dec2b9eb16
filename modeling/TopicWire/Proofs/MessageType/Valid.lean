import TopicWire.Proofs.MessageType.Check
import TopicWire.Proofs.MessageType.Complete

/-!
# Which complete messages are valid

A complete message is refused only for a constant whose literal is NaN, since a NaN is not equal to
itself (`Complete.validate_settles`), and for such a constant it always is (`Complete.valid_iff`).
-/

namespace TopicWire

/-- A floating-point value that is equal to none. -/
def Value.isNaN : Value → Bool
  | .float32 bits => Number.Format.single.isNaN bits.toNat
  | .float64 bits => Number.Format.double.isNaN bits.toNat
  | _ => false

namespace Value

variable {v w : Value}

theorem same_self {p : Primitive} (kind : v.primitive? = some p) : v.same v = !v.isNaN := by
  cases v with
  | array | message => cases kind
  | _ => simp [same, isNaN, Number.Format.same]

theorem isNaN_of_same (h : v.same w = true) : w.isNaN = false := by
  cases w with
  | float32 | float64 =>
    cases v <;> simp [same, Number.Format.same] at h
    simpa [isNaN] using h.1.2
  | _ => rfl

end Value

/-- In the value at `base`, which the message type describes, the field at `path` is a constant whose
literal is NaN. -/
inductive Element.NaNAt : Element → Value → (base path : String) → Prop
  | constant {type : MessageType} {m : Message} {base : String} {f : Field} {literal v : Value}
      (member : f ∈ type.fields) (given : f.constant = some literal) (nan : literal.isNaN = true)
      (held : m.get? f.accessor = some v) :
      NaNAt (.message type) (.message m) base (fieldPath base f.accessor)
  | one {type : MessageType} {m : Message} {base path : String} {f : Field} {v : Value}
      (member : f ∈ type.fields) (sent : f.constant = none) (one : f.arity = .one)
      (held : m.get? f.accessor = some v)
      (inside : NaNAt f.element v (fieldPath base f.accessor) path) :
      NaNAt (.message type) (.message m) base path
  | item {type : MessageType} {m : Message} {base path : String} {f : Field} {items : List Value}
      {index : Nat} {v : Value} (member : f ∈ type.fields) (sent : f.constant = none)
      (array : f.arity ≠ .one) (held : m.get? f.accessor = some (.array items))
      (there : items[index]? = some v)
      (inside : NaNAt f.element v (itemPath (fieldPath base f.accessor) index) path) :
      NaNAt (.message type) (.message m) base path

/-- In a message of the type, the field at `path` is a constant whose literal is NaN. -/
def MessageType.NaNAt (type : MessageType) (m : Message) (path : String) : Prop :=
  (Element.message type).NaNAt (.message m) "" path

/-! ### Nothing else is refused -/

/-- A check succeeds, or finds a constant that is not equal to its literal at one of these paths. -/
def Settles (check : Except Violation Unit) (paths : String → Prop) : Prop :=
  check = .ok () ∨ ∃ path, check = .error (.constantModified path) ∧ paths path

namespace Settles

variable {check rest : Except Violation Unit} {paths : String → Prop}

theorem imp {more : String → Prop} (h : Settles check paths)
    (among : ∀ path, paths path → more path) : Settles check more := by
  rcases h with valid | ⟨path, refused, here⟩
  · exact .inl valid
  · exact .inr ⟨path, refused, among path here⟩

theorem andThen (h : Settles check paths) (others : Settles rest paths) :
    Settles (check >>= fun _ => rest) paths := by
  rcases h with rfl | ⟨path, rfl, here⟩
  · exact others
  · exact .inr ⟨path, rfl, here⟩

end Settles

variable {strict : Bool}

theorem checkItems_settles {check : Value → String → Except Violation Unit} {path : String}
    {index : Nat} {items : List Value} {paths : String → Prop}
    (each : ∀ i v, items[i]? = some v → Settles (check v (itemPath path (index + i))) paths) :
    Settles (checkItems check path index items) paths := by
  induction items generalizing index with
  | nil => exact .inl rfl
  | cons v vs ih =>
    rw [checkItems]
    refine (each 0 v rfl).andThen (ih fun i w there => ?_)
    have later := each (i + 1) w there
    rwa [Nat.add_comm i 1, ← Nat.add_assoc] at later

theorem checkLength_ok_iff {arity : Arity} {path : String} {count : Nat} :
    checkLength arity path count = .ok () ↔ arity.Allows count := by
  cases arity with
  | one | many => simp [checkLength, Arity.Allows, Arity.length?]
  | exactly n => simp [checkLength, Arity.Allows, Arity.length?]

/-- Of an element type's values, those that it can hold are refused for a NaN only. -/
def Element.Settled (strict : Bool) (e : Element) : Prop :=
  ∀ v base, e.Holds v → Settles (e.check strict v base) (e.NaNAt v base)

namespace Field

variable {type : MessageType} {m : Message} {base : String} {f : Field} {v : Value}

theorem isNaN_of_different {literal : Value} {p : Primitive} (given : f.constant = some literal)
    (kind : literal.primitive? = some p) (holds : f.Holds v) (different : v.same literal = false) :
    literal.isNaN = true := by
  rcases (holds_constant given).mp holds with rfl | same
  · rw [Value.same_self kind] at different
    simpa using different
  · rw [same] at different
    cases different

theorem check_settles (member : f ∈ type.fields)
    (constants : ∀ literal, f.constant = some literal → ∃ p, literal.primitive? = some p)
    (settled : f.element.Settled strict) (held : m.get? f.accessor = some v) (holds : f.Holds v) :
    Settles (f.check strict v (fieldPath base f.accessor))
      ((Element.message type).NaNAt (.message m) base) := by
  rcases f.constant_or_one_or_array with constant | ⟨sent, one⟩ | ⟨sent, array⟩
  · obtain ⟨literal, given⟩ := Option.isSome_iff_exists.mp constant
    obtain ⟨p, kind⟩ := constants literal given
    rw [check_of_constant given]
    split
    · exact .inl rfl
    · rename_i different
      have nan := isNaN_of_different given kind holds (Bool.not_eq_true _ ▸ different)
      exact .inr ⟨_, rfl, .constant member given nan held⟩
  · rw [check_of_one sent one]
    have inner := settled v (fieldPath base f.accessor) ((holds_one sent one).mp holds)
    exact inner.imp fun _ inside => .one member sent one held inside
  · obtain ⟨items, rfl, allowed, each⟩ := (holds_array sent array).mp holds
    rw [check_of_array sent array, checkLength_ok_iff.mpr allowed]
    refine checkItems_settles fun i w there => ?_
    rw [Nat.zero_add]
    have inner := settled w (itemPath (fieldPath base f.accessor) i)
      (each w (List.mem_of_getElem? there))
    exact inner.imp fun _ inside => .item member sent array held there inside

theorem checkAll_settles {fs : List Field} {paths : String → Prop}
    (each : ∀ f ∈ fs, ∃ v, m.get? f.accessor = some v ∧
      Settles (f.check strict v (fieldPath base f.accessor)) paths) :
    Settles (checkAll strict fs m base) paths := by
  induction fs with
  | nil =>
    rw [checkAll]
    exact .inl rfl
  | cons f fs ih =>
    obtain ⟨v, held, first⟩ := each f (.head fs)
    rw [checkAll]
    simp only [held]
    exact first.andThen (ih fun g member => each g (.tail _ member))

end Field

namespace MessageType

variable {type : MessageType} {m : Message} {path : String}

theorem Complete.check_eq (complete : type.Complete m) :
    type.check strict m path = Field.checkAll strict type.fields m path := by
  obtain ⟨id, keys, -, -⟩ := complete_iff.mp complete
  have known : unknownKey? type.fields m = none := by
    apply unknownKey?_eq_none_iff.mpr
    intro key member
    exact keys.mem_iff.mp member
  obtain ⟨typeId, _, _, _, _, fields⟩ := type
  obtain rfl : m.typeId = typeId := id
  rw [check, known]
  cases strict <;> simp

end MessageType

theorem Element.settled {e : Element} (wellFormed : e.Everywhere MessageType.WellFormed) :
    e.Settled strict := by
  refine wellFormed.induction (Q := Element.Settled strict) (fun p => ?_) fun type here fields => ?_
  · intro v base holds
    rw [Holds] at holds
    rw [check, if_pos holds]
    exact .inl rfl
  · intro v base holds
    rw [Holds] at holds
    obtain ⟨m, rfl, complete⟩ := holds
    rw [check, complete.check_eq]
    refine Field.checkAll_settles fun f member => ?_
    obtain ⟨v, held, holds⟩ := complete.held member
    refine ⟨v, held, Field.check_settles member (fun literal given => ?_) (fields f member) held holds⟩
    obtain ⟨-, p, -, kind⟩ := here.constants f member literal given
    exact ⟨p, kind⟩

/-! ### A NaN is always refused -/

theorem Element.NaNAt.refused {e : Element} {v : Value} {base path : String} (h : e.NaNAt v base path) :
    ∀ base, e.check true v base ≠ .ok () := by
  induction h with
  | constant member given nan held =>
    intro base checked
    rw [check] at checked
    have same := Field.check_constant given
      (Field.checkAll_ok (MessageType.check_ok checked).2.2 member held)
    rw [Value.isNaN_of_same same] at nan
    cases nan
  | one member sent one held _ ih =>
    intro base checked
    rw [check] at checked
    exact ih _ (Field.check_one sent one
      (Field.checkAll_ok (MessageType.check_ok checked).2.2 member held))
  | item member sent array held there _ ih =>
    intro base checked
    rw [check] at checked
    have items := Field.check_array sent array
      (Field.checkAll_ok (MessageType.check_ok checked).2.2 member held)
    obtain ⟨_, valid⟩ := checkItems_ok items _ (List.mem_of_getElem? there)
    exact ih _ valid

namespace MessageType

variable {type : MessageType} {m : Message}

theorem Complete.validate_settles (complete : type.Complete m)
    (wellFormed : type.Everywhere WellFormed) : Settles (type.validate m strict) (type.NaNAt m) := by
  have settled : (Element.message type).Settled strict := Element.settled wellFormed.element
  have settles := settled (.message m) "" (holds_message_iff.mpr complete)
  rwa [Element.check] at settles

/-- A complete message is valid exactly if no constant in it is NaN. -/
theorem Complete.valid_iff (complete : type.Complete m) (wellFormed : type.Everywhere WellFormed) :
    type.validate m true = .ok () ↔ ∀ path, ¬ type.NaNAt m path := by
  constructor
  · intro valid path nan
    refine Element.NaNAt.refused nan "" ?_
    rw [Element.check]
    exact valid
  · intro none
    rcases complete.validate_settles wellFormed with valid | ⟨path, -, nan⟩
    · exact valid
    · exact (none path nan).elim

/-! ### A range of limits -/

/-- Limits: the constant `float32 LIMIT=nan` and `uint8 x`. -/
def limitType : MessageType :=
  ⟨"geo/Limit", some "geo", "Limit", "limit", "",
    [⟨⟨"LIMIT", "float32", some "nan", 1⟩, "LIMIT", .primitive .float32, .one,
        some (.float32 0x7FC00000)⟩,
      ⟨⟨"x", "uint8", none, 2⟩, "x", .primitive .uint8, .one, none⟩]⟩

/-- Ranges: `Limit[2] limits`. -/
def rangeType : MessageType :=
  ⟨"geo/Range", some "geo", "Range", "range", "",
    [⟨⟨"limits", "Limit[2]", none, 1⟩, "limits", .message limitType, .exactly 2, none⟩]⟩

theorem limitType_compiled : limitType.Compiled := by
  have made : ofLines "geo/Limit" [⟨"LIMIT", "float32", some "nan", 1⟩, ⟨"x", "uint8", none, 2⟩]
      "limit" (fun _ => none) = .ok limitType := by rfl
  exact .alone made

theorem rangeType_compiled : rangeType.Compiled := by
  have made : ofLines "geo/Range" [⟨"limits", "Limit[2]", none, 1⟩] "range"
      (fun id => if id = "geo/Limit" then some limitType else none) = .ok rangeType := by rfl
  exact limitType_compiled.above made

end MessageType

end TopicWire
