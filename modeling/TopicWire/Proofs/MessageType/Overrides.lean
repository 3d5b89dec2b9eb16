import TopicWire.MessageType.Override
import TopicWire.Proofs.MessageType.Valid

/-!
# Messages from overrides

What is given under a key is stored or refused, whatever was given before: `MessageType.Stores` and
`MessageType.Refuses` say which, and `stored_ok_iff` and `stored_error_iff` that `override` does so.
A list of overrides is then settled by its entries (`MessageType.messageWith_settles`).
-/

namespace TopicWire

namespace Message

variable {m : Message} {entries : List (String × Value)}

/-- Stores values one after the other. -/
def setAll (m : Message) (entries : List (String × Value)) : Message :=
  entries.foldl (fun m (key, value) => m.set key value) m

theorem setAll_cons (m : Message) (key : String) (value : Value) (entries : List (String × Value)) :
    m.setAll ((key, value) :: entries) = (m.set key value).setAll entries := rfl

theorem typeId_setAll (m : Message) (entries : List (String × Value)) :
    (m.setAll entries).typeId = m.typeId := by
  induction entries generalizing m with
  | nil => rfl
  | cons entry entries ih => exact ih (m.set entry.1 entry.2)

theorem ascending_setAll (ascending : m.keys.Pairwise (· < ·)) :
    (m.setAll entries).keys.Pairwise (· < ·) := by
  induction entries generalizing m with
  | nil => exact ascending
  | cons entry entries ih => exact ih (m := m.set entry.1 entry.2) (Keyed.ascending_insert ascending)

/-- The last value of a key is found. -/
theorem get?_setAll (m : Message) (entries : List (String × Value)) (key : String) :
    (m.setAll entries).get? key = (entries.reverse.lookup key).or (m.get? key) := by
  induction entries generalizing m with
  | nil => rfl
  | cons entry entries ih =>
    obtain ⟨k, v⟩ := entry
    rw [setAll_cons, ih, get?_set, List.reverse_cons, List.lookup_append, Keyed.lookup_cons]
    cases entries.reverse.lookup key with
    | some last => rfl
    | none => by_cases same : key = k <;> simp [same]

theorem mem_keys_setAll {key : String} :
    key ∈ (m.setAll entries).keys ↔ key ∈ entries.map (·.1) ∨ key ∈ m.keys := by
  induction entries generalizing m with
  | nil => simp [setAll]
  | cons entry entries ih =>
    obtain ⟨k, v⟩ := entry
    rw [setAll_cons, ih, List.map_cons, List.mem_cons]
    show _ ∨ key ∈ Keyed.keys (Keyed.insert k v m.fields) ↔ _
    rw [Keyed.mem_keys_insert]
    exact or_left_comm.trans or_assoc.symm

end Message

/-- The declared type of a field that holds one primitive value. -/
def Field.primitive? (f : Field) : Option Primitive :=
  match f.element, f.arity with
  | .primitive p, .one => some p
  | _, _ => none

namespace MessageType

variable {type : MessageType} {f : Field} {p : Primitive} {key : String} {value v : Value} {e : Violation}

/-- What can be given under a key: for a primitive field a value that the declared type can hold, for a
constant its own value, for all else anything. -/
def Accepts (type : MessageType) (key : String) (value : Value) : Prop :=
  ∀ f p, type.field? key = some f → f.primitive? = some p →
    ∃ v, value.coerce key p = .ok v ∧ ∀ literal, f.constant = some literal → literal.same v = true

/-- What is stored of a value that is given under a key. -/
inductive Stores (type : MessageType) (key : String) (value : Value) : Value → Prop
  | unknown (absent : type.field? key = none) : Stores type key value value
  | whole {f : Field} (found : type.field? key = some f) (other : f.primitive? = none) :
      Stores type key value value
  | primitive {f : Field} {p : Primitive} {v : Value} (found : type.field? key = some f)
      (kind : f.primitive? = some p) (fits : value.coerce key p = .ok v)
      (own : ∀ literal, f.constant = some literal → literal.same v = true) : Stores type key value v

/-- Why a value cannot be given under a key. -/
inductive Refuses (type : MessageType) (key : String) (value : Value) : Violation → Prop
  | unfit {f : Field} {p : Primitive} {e : Violation} (found : type.field? key = some f)
      (kind : f.primitive? = some p) (unfit : value.coerce key p = .error e) : Refuses type key value e
  | modified {f : Field} {p : Primitive} {v literal : Value} (found : type.field? key = some f)
      (kind : f.primitive? = some p) (fits : value.coerce key p = .ok v)
      (given : f.constant = some literal) (different : literal.same v = false) :
      Refuses type key value (.constantModified key)

/-! ### One override -/

theorem accepts_iff : type.Accepts key value ↔ ∃ v, type.Stores key value v := by
  constructor
  · intro accepts
    cases found : type.field? key with
    | none => exact ⟨value, .unknown found⟩
    | some f =>
      cases kind : f.primitive? with
      | none => exact ⟨value, .whole found kind⟩
      | some p =>
        obtain ⟨v, fits, own⟩ := accepts f p found kind
        exact ⟨v, .primitive found kind fits own⟩
  · rintro ⟨v, stores⟩ f p found kind
    cases stores with
    | unknown absent => cases absent.symm.trans found
    | whole found' other =>
      cases found'.symm.trans found
      cases other.symm.trans kind
    | primitive found' kind' fits own =>
      cases found'.symm.trans found
      cases kind'.symm.trans kind
      exact ⟨v, fits, own⟩

/-- The value to store under a key. -/
def stored (type : MessageType) (key : String) (value : Value) : Except Violation Value :=
  match type.field? key with
  | none => .ok value
  | some f => overrideValue f key value

theorem override_eq (m : Message) (key : String) (value : Value) :
    type.override m key value = (type.stored key value).map (m.set key) := by
  unfold override stored
  cases type.field? key <;> rfl

theorem overrideValue_primitive (kind : f.primitive? = some p) : overrideValue f key value = (do
    let v ← value.coerce key p
    match f.constant with
    | some literal => if literal.same v then return v else throw (.constantModified key)
    | none => return v) := by
  obtain ⟨_, _, element, arity, constant⟩ := f
  cases element with
  | message => cases kind
  | primitive q =>
    cases arity with
    | one =>
      cases kind
      unfold overrideValue
      cases constant <;> rfl
    | many | exactly => cases kind

theorem overrideValue_whole (other : f.primitive? = none) (sent : f.constant = none) :
    overrideValue f key value = .ok value := by
  obtain ⟨_, _, element, arity, _⟩ := f
  obtain rfl := sent
  cases element with
  | message => rfl
  | primitive p =>
    cases arity with
    | one => cases other
    | many | exactly => rfl

theorem WellFormed.primitive?_of_constant (wellFormed : type.WellFormed) (member : f ∈ type.fields)
    {literal : Value} (given : f.constant = some literal) : f.primitive?.isSome := by
  obtain ⟨one, p, element, -⟩ := wellFormed.constants f member literal given
  rw [Field.primitive?, one, element]
  rfl

theorem Stores.stored (wellFormed : type.WellFormed) (stores : type.Stores key value v) :
    type.stored key value = .ok v := by
  unfold MessageType.stored
  cases stores with
  | unknown absent => rw [absent]
  | @whole f found other =>
    have sent : f.constant = none := by
      by_contra constant
      obtain ⟨literal, given⟩ := Option.ne_none_iff_exists'.mp constant
      have kind := wellFormed.primitive?_of_constant (List.mem_of_find?_eq_some found) given
      rw [other] at kind
      cases kind
    rw [found]
    exact overrideValue_whole other sent
  | @primitive f p v found kind fits own =>
    simp only [found, overrideValue_primitive kind, fits]
    show (match f.constant with | some literal => _ | none => _) = _
    cases given : f.constant with
    | none => rfl
    | some literal => exact if_pos (own literal given)

theorem Refuses.stored (refuses : type.Refuses key value e) : type.stored key value = .error e := by
  unfold MessageType.stored
  cases refuses with
  | unfit found kind unfit =>
    simp only [found, overrideValue_primitive kind, unfit]
    rfl
  | @modified f p v literal found kind fits given different =>
    simp only [found, overrideValue_primitive kind, fits, given]
    show (if literal.same v = true then _ else _) = _
    rw [different]
    rfl

/-- A value that is not refused is stored. -/
theorem stores_or_refuses (type : MessageType) (key : String) (value : Value) :
    (∃ v, type.Stores key value v) ∨ ∃ e, type.Refuses key value e := by
  cases found : type.field? key with
  | none => exact .inl ⟨value, .unknown found⟩
  | some f =>
    cases kind : f.primitive? with
    | none => exact .inl ⟨value, .whole found kind⟩
    | some p =>
      cases fits : value.coerce key p with
      | error e => exact .inr ⟨e, .unfit found kind fits⟩
      | ok v =>
        by_cases own : ∀ literal, f.constant = some literal → literal.same v = true
        · exact .inl ⟨v, .primitive found kind fits own⟩
        · simp only [not_forall] at own
          obtain ⟨literal, given, different⟩ := own
          exact .inr ⟨_, .modified found kind fits given (Bool.not_eq_true _ ▸ different)⟩

theorem stored_ok_iff (wellFormed : type.WellFormed) :
    type.stored key value = .ok v ↔ type.Stores key value v := by
  constructor
  · intro stored
    rcases stores_or_refuses type key value with ⟨w, stores⟩ | ⟨e, refuses⟩
    · cases stored.symm.trans (stores.stored wellFormed)
      exact stores
    · cases stored.symm.trans refuses.stored
  · exact Stores.stored wellFormed

theorem stored_error_iff (wellFormed : type.WellFormed) :
    type.stored key value = .error e ↔ type.Refuses key value e := by
  constructor
  · intro stored
    rcases stores_or_refuses type key value with ⟨w, stores⟩ | ⟨e, refuses⟩
    · cases stored.symm.trans (stores.stored wellFormed)
    · cases stored.symm.trans refuses.stored
      exact refuses
  · exact Refuses.stored

/-! ### Overrides in order -/

/-- The value to store under a key, together with the key. -/
def storedEntry (type : MessageType) (entry : String × Value) : Except Violation (String × Value) :=
  (type.stored entry.1 entry.2).map (entry.1, ·)

theorem messageWith_eq (type : MessageType) (overrides : List (String × Value)) :
    type.messageWith overrides = overrides.foldlM
      (fun m entry => (type.storedEntry entry).map fun entry => m.set entry.1 entry.2) type.default := by
  have step : (fun (m : Message) (entry : String × Value) => type.override m entry.1 entry.2) =
      fun m entry => (type.storedEntry entry).map fun entry => m.set entry.1 entry.2 := by
    funext m entry
    rw [override_eq, storedEntry]
    cases type.stored entry.1 entry.2 <;> rfl
  rw [messageWith, ← step]

/-- What each override stores, and with the last of each key over the defaults the message. -/
theorem messageWith_ok (wellFormed : type.WellFormed) {overrides : List (String × Value)} {m : Message}
    (made : type.messageWith overrides = .ok m) : ∃ entries, m = type.default.setAll entries ∧
      List.Forall₂ (fun x y => y.1 = x.1 ∧ type.Stores x.1 x.2 y.2) overrides entries := by
  rw [messageWith_eq] at made
  obtain ⟨entries, all, rfl⟩ := Result.foldlM_map_ok_iff.mp made
  refine ⟨entries, rfl, all.imp fun x y stored => ?_⟩
  obtain ⟨v, value, rfl⟩ := Result.map_ok_iff.mp stored
  exact ⟨rfl, (stored_ok_iff wellFormed).mp value⟩

theorem storedEntry_ok_iff (wellFormed : type.WellFormed) {entry : String × Value} :
    (∃ stored, type.storedEntry entry = .ok stored) ↔ type.Accepts entry.1 entry.2 := by
  rw [accepts_iff]
  constructor
  · rintro ⟨_, stored⟩
    obtain ⟨v, stored, -⟩ := Result.map_ok_iff.mp stored
    exact ⟨v, (stored_ok_iff wellFormed).mp stored⟩
  · rintro ⟨v, stores⟩
    exact ⟨_, Result.map_ok_iff.mpr ⟨v, stores.stored wellFormed, rfl⟩⟩

theorem storedEntry_error_iff (wellFormed : type.WellFormed) {entry : String × Value} :
    type.storedEntry entry = .error e ↔ type.Refuses entry.1 entry.2 e := by
  rw [← stored_error_iff wellFormed, storedEntry]
  cases type.stored entry.1 entry.2 <;> simp [Except.map]

/-- Values given in order are stored over the defaults. They make a message if the type accepts each of
them, and otherwise the first that it does not accept says why. In the message every key that was given
has what is stored of its last value, every other accessor has its default, which for a constant is the
literal, and there are no other keys. -/
theorem messageWith_settles (made : type.Compiled) (overrides : List (String × Value)) :
    ((∃ m, type.messageWith overrides = .ok m) ↔
      ∀ entry ∈ overrides, type.Accepts entry.1 entry.2) ∧
    (∀ e, type.messageWith overrides = .error e ↔
      ∃ before key value after, overrides = before ++ (key, value) :: after ∧
        (∀ entry ∈ before, type.Accepts entry.1 entry.2) ∧ type.Refuses key value e) ∧
    ∀ m, type.messageWith overrides = .ok m → m.typeId = type.id ∧
      (∀ key value, overrides.reverse.lookup key = some value →
        ∃ v, m.get? key = some v ∧ type.Stores key value v) ∧
      (∀ f ∈ type.fields, f.accessor ∉ overrides.map (·.1) →
        m.get? f.accessor = some f.default ∧ ∀ literal, f.constant = some literal → f.default = literal) ∧
      (∀ key, key ∈ m.keys ↔ key ∈ overrides.map (·.1) ∨ key ∈ type.accessors) ∧
      m.keys.Pairwise (· < ·) := by
  have wellFormed := made.wellFormed.here
  have failed : ∀ e, type.messageWith overrides = .error e ↔
      ∃ before key value after, overrides = before ++ (key, value) :: after ∧
        (∀ entry ∈ before, type.Accepts entry.1 entry.2) ∧ type.Refuses key value e := by
    intro e
    rw [messageWith_eq, Result.foldlM_map_error_iff]
    simp only [storedEntry_ok_iff wellFormed, storedEntry_error_iff wellFormed, Prod.exists]
  refine ⟨?_, failed, ?_⟩
  · rw [messageWith_eq, Result.foldlM_map_succeeds_iff]
    simp only [storedEntry_ok_iff wellFormed]
  · intro m stored
    obtain ⟨entries, rfl, all⟩ := messageWith_ok wellFormed stored
    have keys : entries.map (·.1) = overrides.map (·.1) := by
      have same := all.imp fun _ _ related => related.1
      rw [← List.forall₂_eq_eq_eq, List.forall₂_map_left_iff, List.forall₂_map_right_iff]
      exact same.flip
    have ascending : (type.default.setAll entries).keys.Pairwise (· < ·) :=
      Message.ascending_setAll (ascending_default wellFormed.distinct)
    refine ⟨?_, ?_, ?_, ?_, ascending⟩
    · rw [Message.typeId_setAll, default_eq]
    · intro key value last
      have found := Keyed.lookup_forall₂ (List.forall₂_reverse_iff.mpr all) key
      rw [last] at found
      cases there : entries.reverse.lookup key with
      | none =>
        rw [there] at found
        cases found
      | some v =>
        rw [there] at found
        refine ⟨v, ?_, Option.rel_some_some.mp found⟩
        rw [Message.get?_setAll, there]
        rfl
    · intro f member untouched
      have absent : entries.reverse.lookup f.accessor = none := by
        refine Keyed.lookup_eq_none fun there => untouched ?_
        rwa [Keyed.keys, List.map_reverse, List.mem_reverse, keys] at there
      refine ⟨?_, fun literal given => ?_⟩
      · rw [Message.get?_setAll, absent, get?_default wellFormed.distinct,
          field?_of_mem wellFormed.distinct member]
        rfl
      · obtain ⟨_, _, _, _, _⟩ := f
        obtain rfl : _ = some literal := given
        rw [Field.default]
    · intro key
      rw [Message.mem_keys_setAll, keys, (complete_iff.mp (default_complete made.wellFormed)).2.1.mem_iff]

/-- Only the last `x` counts, and a foreign key is kept. A constant that is NaN cannot even be given
itself, whatever comes after it. -/
theorem limit_overridden : limitType.Compiled ∧
    limitType.messageWith [("x", .int64 7), ("y", .bool true), ("x", .uint16 255)] =
      .ok ⟨"geo/Limit", [("LIMIT", .float32 0x7FC00000), ("x", .uint8 255), ("y", .bool true)]⟩ ∧
    limitType.Stores "x" (.uint16 255) (.uint8 255) ∧
    limitType.messageWith [("x", .int64 7), ("LIMIT", .float32 0x7FC00000), ("x", .bool true)] =
      .error (.constantModified "LIMIT") := by
  have given : limitType.messageWith [("x", .int64 7), ("y", .bool true), ("x", .uint16 255)] =
      .ok ⟨"geo/Limit", [("LIMIT", .float32 0x7FC00000), ("x", .uint8 255), ("y", .bool true)]⟩ := by rfl
  have stores : limitType.Stores "x" (.uint16 255) (.uint8 255) := by
    obtain ⟨-, -, made⟩ := messageWith_settles limitType_compiled
      [("x", .int64 7), ("y", .bool true), ("x", .uint16 255)]
    obtain ⟨v, held, stores⟩ := (made _ given).2.1 "x" (.uint16 255) rfl
    cases held
    exact stores
  have accepts := (messageWith_settles limitType_compiled [("x", .int64 7)]).1.mp ⟨_, rfl⟩
  have refuses : limitType.Refuses "LIMIT" (.float32 0x7FC00000) (.constantModified "LIMIT") :=
    .modified rfl rfl rfl rfl (by decide +kernel)
  have failed := (messageWith_settles limitType_compiled
    [("x", .int64 7), ("LIMIT", .float32 0x7FC00000), ("x", .bool true)]).2.1 (.constantModified "LIMIT")
  exact ⟨limitType_compiled, given, stores, failed.mpr ⟨_, _, _, _, rfl, accepts, refuses⟩⟩

end MessageType

end TopicWire
