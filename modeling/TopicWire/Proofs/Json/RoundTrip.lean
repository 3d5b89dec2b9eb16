import TopicWire.Proofs.Json.Message
import TopicWire.Proofs.Number.Widening
import TopicWire.Proofs.Value.Everywhere
import TopicWire.Proofs.Wire.FilledIn

/-!
# Messages that come back from JSON

A valid message without infinities and NaNs is read back from its JSON form
(`MessageType.json_read_back`). What it left out is then filled in, at every depth:
`MessageType.completed` is the message with its type id and with the defaults of the fields that had
no value.
-/

namespace TopicWire

/-! ### Filling in what was left out -/

mutual

/-- The message with its type id and a value for every field, at every depth. -/
def MessageType.completed : MessageType → Message → Message
  | ⟨id, _, _, _, _, fields⟩, m =>
    Field.completeAll fields m { m with typeId := if m.typeId.isEmpty then id else m.typeId }

/-- Stores the values that fields have in `m`, or their defaults, in `done`. -/
def Field.completeAll : List Field → (m done : Message) → Message
  | [], _, done => done
  | f :: fs, m, done => Field.completeAll fs m (done.set f.accessor (f.completedIn m))

/-- The default if `m` has no value for the field. A constant that is there stays as it is. -/
def Field.completedIn : Field → Message → Value
  | ⟨line, accessor, element, arity, constant⟩, m =>
    match m.get? accessor with
    | none => Field.default ⟨line, accessor, element, arity, constant⟩
    | some v =>
      match constant, arity, v with
      | some _, _, v => v
      | none, .one, v => element.completed v
      | none, _, .array items => .array (items.map element.completed)
      | none, _, v => v

def Element.completed : Element → Value → Value
  | .primitive _, v => v
  | .message type, v =>
    match v with
    | .message m => .message (type.completed m)
    | v => v

end

/-- A floating-point value that is neither infinite nor NaN; any other value. -/
def Value.isFinite : Value → Bool
  | .float32 bits => Number.Format.single.isFinite bits.toNat
  | .float64 bits => Number.Format.double.isFinite bits.toNat
  | _ => true

/-- A message with its keys in ascending order, as `Message.set` keeps them; any other value. -/
def Value.isOrdered : Value → Bool
  | .message m => decide (m.keys.Pairwise (· < ·))
  | _ => true

namespace Field

variable {f : Field} {m : Message}

theorem completedIn_none (absent : m.get? f.accessor = none) : f.completedIn m = f.default := by
  obtain ⟨_, _, _, _, _⟩ := f
  simp only at absent
  simp only [completedIn, absent]

theorem completedIn_constant {literal v : Value} (given : f.constant = some literal)
    (held : m.get? f.accessor = some v) : f.completedIn m = v := by
  obtain ⟨_, _, _, _, _⟩ := f
  obtain rfl : _ = some literal := given
  simp only at held
  simp only [completedIn, held]

theorem completedIn_one {v : Value} (sent : f.constant = none) (one : f.arity = .one)
    (held : m.get? f.accessor = some v) : f.completedIn m = f.element.completed v := by
  obtain ⟨_, _, _, _, _⟩ := f
  obtain rfl := sent
  obtain rfl := one
  simp only at held
  simp only [completedIn, held]

theorem completedIn_array {items : List Value} (sent : f.constant = none) (array : f.arity ≠ .one)
    (held : m.get? f.accessor = some (.array items)) :
    f.completedIn m = .array (items.map f.element.completed) := by
  obtain ⟨_, _, _, arity, _⟩ := f
  obtain rfl := sent
  simp only at held
  cases arity with
  | one => exact (array rfl).elim
  | many | exactly => simp only [completedIn, held]

theorem typeId_completeAll (fs : List Field) (m done : Message) :
    (completeAll fs m done).typeId = done.typeId := by
  induction fs generalizing done with
  | nil => rw [completeAll]
  | cons f fs ih => rw [completeAll, ih, Message.set]

theorem ascending_completeAll (fs : List Field) (m : Message) {done : Message}
    (ascending : done.keys.Pairwise (· < ·)) : (completeAll fs m done).keys.Pairwise (· < ·) := by
  induction fs generalizing done with
  | nil => rwa [completeAll]
  | cons f fs ih =>
    rw [completeAll]
    exact ih (Keyed.ascending_insert ascending)

theorem get?_completeAll {fs : List Field} (distinct : (fs.map (·.accessor)).Nodup) (m done : Message)
    (key : String) : (completeAll fs m done).get? key =
      ((fs.find? (·.accessor == key)).map (·.completedIn m)).or (done.get? key) := by
  induction fs generalizing done with
  | nil => rw [completeAll]; rfl
  | cons f fs ih =>
    obtain ⟨once, others⟩ := List.nodup_cons.mp distinct
    rw [completeAll, ih others, Message.get?_set, List.find?_cons]
    by_cases here : f.accessor = key
    · subst here
      have later : fs.find? (·.accessor == f.accessor) = none := by
        refine List.find?_eq_none.mpr fun g member same => once ?_
        exact List.mem_map.mpr ⟨g, member, beq_iff_eq.mp same⟩
      rw [later, beq_self_eq_true, if_pos rfl]
      rfl
    · rw [beq_eq_false_iff_ne.mpr here, if_neg (Ne.symm here)]

end Field

/-! ### Primitive values -/

namespace Value

variable {v : Value} {p : Primitive} {n : Int}

theorem toJson_of_integer? (integer : v.integer? = some n) : v.toJson = .integer n := by
  cases v <;> simp only [integer?, Option.some.injEq, reduceCtorEq] at integer <;> subst integer <;>
    rw [toJson]

theorem isInteger_of_integer? (integer : v.integer? = some n) (kind : v.primitive? = some p) :
    p.isInteger = true := by
  cases v <;> cases kind <;> first | rfl | cases integer

theorem ofInteger?_of_integer? (integer : v.integer? = some n) (kind : v.primitive? = some p) :
    p.ofInteger? n = some v := by
  cases v with
  | int8 v | int16 v | int32 v | int64 v =>
    cases kind
    cases integer
    have low := v.le_toInt
    have high := v.toInt_lt
    refine (if_pos ⟨by omega, by omega⟩).trans (congrArg some ?_)
    exact congrArg _ v.ofInt_toInt
  | uint8 v | uint16 v | uint32 v | uint64 v =>
    cases kind
    cases integer
    have high := v.toNat_lt
    refine (if_pos ⟨by omega, by omega⟩).trans (congrArg some ?_)
    simp
  | _ => cases integer

theorem primitive?_of_same {w : Value} (same : v.same w = true) (kind : w.primitive? = some p) :
    v.primitive? = some p := by
  cases v <;> cases w <;> simp [Value.same] at same <;> exact kind

end Value

namespace Primitive

variable {p : Primitive} {path : String}

theorem ofJson_integer (integer : p.isInteger = true) (n : Int) :
    p.ofJson (.integer n) path = p.ofInteger path n := by
  cases p <;> first | rfl | cases integer

theorem stampWithin_of_bounds {low high n : Int} (bounds : low ≤ n ∧ n ≤ high) :
    stampWithin p low high path n = .ok n :=
  if_pos bounds

/-- A primitive value is read back from its JSON form. -/
theorem ofJson_toJson {v : Value} (kind : v.primitive? = some p) (finite : v.isFinite = true)
    (path : String) : p.ofJson v.toJson path = .ok v := by
  cases integer : v.integer? with
  | some n =>
    rw [Value.toJson_of_integer? integer, ofJson_integer (Value.isInteger_of_integer? integer kind),
      ofInteger, Value.ofInteger?_of_integer? integer kind]
  | none =>
    cases v with
    | bool | string =>
      cases kind
      rfl
    -- A JSON number has eight bytes, so four of them are widened and narrowed again.
    | float32 bits =>
      cases kind
      obtain ⟨wide, fits⟩ := Number.widen_holds finite
      rw [Value.toJson, Json.ofDouble, if_pos wide]
      show singleOfDouble _ path = _
      rw [singleOfDouble, fits, Number.narrow_widen finite]
      rfl
    | float64 bits =>
      cases kind
      rw [Value.toJson, Json.ofDouble]
      exact congrArg (float64.ofJson · path) (if_pos finite)
    | time secs nsecs =>
      cases kind
      have high := secs.toNat_lt
      have high' := nsecs.toNat_lt
      rw [Value.toJson]
      refine Result.bind_ok_iff.mpr ⟨(secs.toNat : Int), rfl, ?_⟩
      refine Result.bind_ok_iff.mpr ⟨(nsecs.toNat : Int), rfl, ?_⟩
      refine Result.bind_ok_iff.mpr ⟨_, stampWithin_of_bounds ⟨by omega, by omega⟩, ?_⟩
      refine Result.bind_ok_iff.mpr ⟨_, stampWithin_of_bounds ⟨by omega, by omega⟩, ?_⟩
      rw [Result.pure_ok_iff, Int.toNat_natCast, Int.toNat_natCast, UInt32.ofNat_toNat,
        UInt32.ofNat_toNat]
    | duration secs nsecs =>
      cases kind
      have low := secs.le_toInt
      have low' := nsecs.le_toInt
      have high := secs.toInt_lt
      have high' := nsecs.toInt_lt
      rw [Value.toJson]
      refine Result.bind_ok_iff.mpr ⟨secs.toInt, rfl, ?_⟩
      refine Result.bind_ok_iff.mpr ⟨nsecs.toInt, rfl, ?_⟩
      refine Result.bind_ok_iff.mpr ⟨_, stampWithin_of_bounds ⟨by omega, by omega⟩, ?_⟩
      refine Result.bind_ok_iff.mpr ⟨_, stampWithin_of_bounds ⟨by omega, by omega⟩, ?_⟩
      rw [Result.pure_ok_iff, Int32.ofInt_toInt, Int32.ofInt_toInt]
    | array | message => cases kind
    | _ => cases integer

end Primitive

/-! ### Fields -/

/-- The valid values of an element type are read back from their JSON form. -/
def Element.ReadsJson (e : Element) : Prop :=
  ∀ ⦃v path⦄, e.check true v path = .ok () → v.everywhere Value.isFinite = true →
    v.everywhere Value.isOrdered = true → ∀ path, e.ofJson v.toJson path = .ok (e.completed v)

theorem Element.ReadsJson.items {e : Element} (reads : e.ReadsJson) {items : List Value}
    (valid : ∀ v ∈ items, ∃ path, e.check true v path = .ok ())
    (finite : ∀ v ∈ items, v.everywhere Value.isFinite = true)
    (ordered : ∀ v ∈ items, v.everywhere Value.isOrdered = true) (path : String) (index : Nat) :
    itemsOfJson e.ofJson path index (Value.itemsToJson items) = .ok (items.map e.completed) := by
  induction items generalizing index with
  | nil => rw [Value.itemsToJson]; rfl
  | cons v vs ih =>
    rw [List.forall_mem_cons] at valid finite ordered
    obtain ⟨⟨_, here⟩, later⟩ := valid
    rw [Value.itemsToJson]
    refine Result.bind_ok_iff.mpr ⟨_, reads here finite.1 ordered.1 _, ?_⟩
    exact Result.bind_ok_iff.mpr ⟨_, ih later finite.2 ordered.2 (index + 1), rfl⟩

namespace Field

variable {f : Field} {m : Message} {v : Value} {j : Json} {path : String}

theorem ofJson_of_constant {literal : Value} (given : f.constant = some literal) (one : f.arity = .one)
    (read : f.element.ofJson j path = .ok v) (same : v.same literal = true) :
    f.ofJson j path = .ok v := by
  obtain ⟨_, _, _, _, _⟩ := f
  obtain rfl : _ = some literal := given
  obtain rfl := one
  rw [ofJson]
  refine Result.bind_ok_iff.mpr ⟨v, read, ?_⟩
  dsimp only
  rw [if_pos same]
  rfl

theorem ofJson_of_one (sent : f.constant = none) (one : f.arity = .one)
    (read : f.element.ofJson j path = .ok v) : f.ofJson j path = .ok v := by
  obtain ⟨_, _, _, _, _⟩ := f
  obtain rfl := sent
  obtain rfl := one
  rw [ofJson]
  exact Result.bind_ok_iff.mpr ⟨v, read, rfl⟩

theorem ofJson_of_array (array : f.arity ≠ .one) {js : List Json} {values : List Value}
    (allowed : f.arity.Allows js.length)
    (read : itemsOfJson f.element.ofJson path 0 js = .ok values) :
    f.ofJson (.array js) path = .ok (.array values) := by
  obtain ⟨_, _, _, arity, _⟩ := f
  cases arity with
  | one => exact (array rfl).elim
  | many =>
    simp only [ofJson]
    exact Result.bind_ok_iff.mpr ⟨values, read, rfl⟩
  | exactly n =>
    have length : ¬ js.length ≠ n := not_not.mpr (allowed n rfl)
    simp only [ofJson, Arity.length?, if_neg length]
    exact Result.bind_ok_iff.mpr ⟨values, read, rfl⟩

/-- A valid value of a field is read back, with what it left out filled in. -/
theorem ofJson_toJson (reads : f.element.ReadsJson)
    (constants : ∀ literal, f.constant = some literal →
      f.arity = .one ∧ ∃ p, f.element = .primitive p ∧ literal.primitive? = some p)
    (held : m.get? f.accessor = some v) (valid : f.check true v path = .ok ())
    (finite : v.everywhere Value.isFinite = true) (ordered : v.everywhere Value.isOrdered = true)
    (path : String) : f.ofJson v.toJson path = .ok (f.completedIn m) := by
  rcases f.constant_or_one_or_array with constant | ⟨sent, one⟩ | ⟨sent, array⟩
  · -- What is equal to a literal is of its kind, but need not be the same zero.
    obtain ⟨literal, given⟩ := Option.isSome_iff_exists.mp constant
    obtain ⟨one, p, element, kind⟩ := constants literal given
    have same := check_constant given valid
    have read := Primitive.ofJson_toJson (Value.primitive?_of_same same kind)
      (Value.everywhere_here finite) path
    rw [completedIn_constant given held]
    exact ofJson_of_constant given one (by rwa [element, Element.ofJson]) same
  · rw [completedIn_one sent one held]
    exact ofJson_of_one sent one (reads (check_one sent one valid) finite ordered path)
  · obtain ⟨items, rfl, length, each⟩ := check_array_ok sent array valid
    rw [completedIn_array sent array held, Value.toJson]
    refine ofJson_of_array array ?_ (reads.items (checkItems_ok each) (Value.everywhere_item finite)
      (Value.everywhere_item ordered) path 0)
    rw [Value.itemsToJson_eq, List.length_map]
    exact checkLength_ok_iff.mp length

end Field

/-! ### Messages -/

theorem Message.ext_get? {m n : Message} (typeId : m.typeId = n.typeId)
    (ascending : m.keys.Pairwise (· < ·)) (ascending' : n.keys.Pairwise (· < ·))
    (same : ∀ key, m.get? key = n.get? key) : m = n := by
  obtain ⟨_, _⟩ := m
  obtain ⟨_, _⟩ := n
  obtain rfl : _ = _ := typeId
  exact congrArg _ (Keyed.ext ascending ascending' same)

/-- Members that are read as the values of `target` are stored as these. -/
theorem storeMembers_ok {member : String → Json → Option (Except Violation Value)}
    {entries : List (String × Value)} {target : Message} (typeId path : String) (m : Message)
    (each : ∀ entry ∈ entries, ∃ v, member entry.1 entry.2.toJson = some (.ok v) ∧
      target.get? entry.1 = some v) :
    ∃ last, storeMembers member typeId path m (Value.fieldsToJson entries) = .ok last ∧
      last.typeId = m.typeId ∧ (m.keys.Pairwise (· < ·) → last.keys.Pairwise (· < ·)) ∧
      ∀ key, last.get? key =
        if key ∈ entries.map (·.1) then target.get? key else m.get? key := by
  induction entries generalizing m with
  | nil =>
    rw [Value.fieldsToJson]
    exact ⟨m, rfl, rfl, id, fun _ => rfl⟩
  | cons entry rest ih =>
    obtain ⟨⟨v, read, wanted⟩, later⟩ := List.forall_mem_cons.mp each
    obtain ⟨last, stored, typeId, ascending, values⟩ := ih (m.set entry.1 v) later
    refine ⟨last, ?_, typeId, fun before => ascending (Keyed.ascending_insert before), fun key => ?_⟩
    · rw [Value.fieldsToJson, storeMembers, read]
      exact stored
    · rw [values, Message.get?_set, List.map_cons]
      by_cases here : key = entry.1
      · simp [here, wanted]
      · simp only [if_neg here, List.mem_cons, or_iff_right here]

namespace MessageType

variable {type : MessageType} {m : Message} {path : String}

theorem completed_eq : type.completed m = Field.completeAll type.fields m
    { m with typeId := if m.typeId.isEmpty then type.id else m.typeId } := by
  cases type
  rw [completed]

theorem typeId_completed (own : m.typeId = "" ∨ m.typeId = type.id) :
    (type.completed m).typeId = type.id := by
  rw [completed_eq, Field.typeId_completeAll]
  rcases own with none | same
  · simp [none]
  · rw [same, ite_self]

theorem get?_completed (distinct : type.accessors.Nodup) (key : String) : (type.completed m).get? key =
    ((type.field? key).map (·.completedIn m)).or (m.get? key) := by
  rw [completed_eq, Field.get?_completeAll distinct]
  rfl

theorem get?_completed_of_mem (distinct : type.accessors.Nodup) {f : Field} (member : f ∈ type.fields) :
    (type.completed m).get? f.accessor = some (f.completedIn m) := by
  rw [get?_completed distinct, field?_of_mem distinct member]
  rfl

/-- Where the message has no value, it is completed with what the default has. -/
theorem get?_completed_of_absent (distinct : type.accessors.Nodup) {key : String}
    (absent : m.get? key = none) : (type.completed m).get? key = type.default.get? key := by
  rw [get?_default distinct, get?_completed distinct, absent, Option.or_none]
  cases found : type.field? key with
  | none => rfl
  | some f =>
    have here := List.find?_some found
    obtain rfl : f.accessor = key := beq_iff_eq.mp here
    exact congrArg some (Field.completedIn_none absent)

theorem ofJsonAt_toJson (wellFormed : type.WellFormed)
    (reads : ∀ f ∈ type.fields, f.element.ReadsJson) (valid : type.check true m path = .ok ())
    (finite : m.everywhere Value.isFinite = true) (ordered : m.everywhere Value.isOrdered = true)
    (path : String) : type.ofJsonAt m.toJson path = .ok (type.completed m) := by
  obtain ⟨own, known, checked⟩ := check_ok valid
  have ascending : m.keys.Pairwise (· < ·) := of_decide_eq_true (Message.everywhere_here ordered)
  have each : ∀ entry ∈ m.fields, ∃ v, Field.ofMember type.fields path entry.1 entry.2.toJson =
      some (.ok v) ∧ (type.completed m).get? entry.1 = some v := by
    rintro ⟨key, v⟩ there
    obtain ⟨f, member, rfl⟩ := List.mem_map.mp (known key (List.mem_map_of_mem there))
    have held : m.get? f.accessor = some v :=
      Keyed.lookup_eq_some (ascending.imp fun below => ne_of_lt below) there
    refine ⟨f.completedIn m, ?_, get?_completed_of_mem wellFormed.distinct member⟩
    rw [ofMember_of_mem wellFormed.distinct member]
    exact congrArg some (Field.ofJson_toJson (reads f member) (wellFormed.constants f member) held
      (Field.checkAll_ok checked member held) (Message.everywhere_entry finite _ there)
      (Message.everywhere_entry ordered _ there) _)
  obtain ⟨last, stored, typeId, sorted, values⟩ :=
    storeMembers_ok type.id path type.default each
  -- Both have the same values, and each has its keys in order.
  have same : last = type.completed m := by
    refine Message.ext_get? ?_ (sorted (ascending_default wellFormed.distinct)) ?_ fun key => ?_
    · rw [typeId, typeId_completed own, default_eq]
    · rw [completed_eq]
      exact Field.ascending_completeAll _ _ ascending
    · rw [values]
      split
      · rfl
      · rename_i absent
        exact (get?_completed_of_absent wellFormed.distinct (Message.get?_eq_none absent)).symm
  rw [Message.toJson_eq, ofJsonAt_object, stored, same]

end MessageType

theorem Element.readsJson {e : Element} (wellFormed : e.Everywhere MessageType.WellFormed) :
    e.ReadsJson := by
  refine wellFormed.induction (Q := Element.ReadsJson) (fun p => ?_) fun type here fields => ?_
  · intro v _ valid finite _ path
    rw [check] at valid
    split at valid
    · rename_i kind
      rw [ofJson, completed]
      exact Primitive.ofJson_toJson kind (Value.everywhere_here finite) path
    · cases valid
  · intro v _ valid finite ordered path
    cases v with
    | message m =>
      rw [check] at valid
      rw [Value.everywhere] at finite ordered
      rw [Value.toJson, ofJson, completed,
        MessageType.ofJsonAt_toJson here fields valid finite ordered path]
      rfl
    | _ => simp [check] at valid

namespace MessageType

/-- A valid message without infinities and NaNs is read back from its JSON form. It then has its type
id and the defaults of the fields without a value, at every depth, and is otherwise the same. -/
theorem json_read_back {type : MessageType} {m : Message} (made : type.Compiled)
    (valid : type.validate m true = .ok ()) (finite : m.everywhere Value.isFinite = true)
    (ordered : m.everywhere Value.isOrdered = true) :
    type.ofJson m.toJson = .ok (type.completed m) :=
  ofJsonAt_toJson made.wellFormed.here
    (fun _ member => Element.readsJson (made.wellFormed.field member)) valid finite ordered ""

/-! ### A log of readings -/

/-- Readings: `float32 level`, `uint64 count`, the constant `uint8 UNIT=3` and `string note`. -/
def readingType : MessageType :=
  ⟨"nav/Reading", some "nav", "Reading", "reading", "",
    [⟨⟨"level", "float32", none, 1⟩, "level", .primitive .float32, .one, none⟩,
      ⟨⟨"count", "uint64", none, 2⟩, "count", .primitive .uint64, .one, none⟩,
      ⟨⟨"UNIT", "uint8", some "3", 3⟩, "UNIT", .primitive .uint8, .one, some (.uint8 3)⟩,
      ⟨⟨"note", "string", none, 4⟩, "note", .primitive .string, .one, none⟩]⟩

/-- Logs: `Reading[] readings`, `Reading last` and `time stamp`. -/
def logType : MessageType :=
  ⟨"nav/Log", some "nav", "Log", "log", "",
    [⟨⟨"readings", "Reading[]", none, 1⟩, "readings", .message readingType, .many, none⟩,
      ⟨⟨"last", "Reading", none, 2⟩, "last", .message readingType, .one, none⟩,
      ⟨⟨"stamp", "time", none, 3⟩, "stamp", .primitive .time, .one, none⟩]⟩

theorem logType_compiled : logType.Compiled := by
  have reading : ofLines "nav/Reading" [⟨"level", "float32", none, 1⟩, ⟨"count", "uint64", none, 2⟩,
      ⟨"UNIT", "uint8", some "3", 3⟩, ⟨"note", "string", none, 4⟩] "reading" (fun _ => none) =
      .ok readingType := by rfl
  have log : ofLines "nav/Log" [⟨"readings", "Reading[]", none, 1⟩, ⟨"last", "Reading", none, 2⟩,
      ⟨"stamp", "time", none, 3⟩] "log" (fun id => if id = "nav/Reading" then some readingType else none) =
      .ok logType := by rfl
  exact (Compiled.alone reading).above log

/-- Two readings, with a negative zero and the largest count, and little else. -/
def sparseLog : Message :=
  ⟨"", [("last", .message ⟨"", [("count", .uint64 0xFFFFFFFFFFFFFFFF)]⟩),
    ("readings", .array [.message ⟨"nav/Reading", [("UNIT", .uint8 3), ("level", .float32 0x80000000)]⟩])]⟩

theorem sparseLog_read :
    logType.Compiled ∧ logType.validate sparseLog true = .ok () ∧
      sparseLog.everywhere Value.isFinite = true ∧ sparseLog.everywhere Value.isOrdered = true ∧
      logType.ofJson sparseLog.toJson = .ok (logType.completed sparseLog) ∧
      logType.completed sparseLog = ⟨"nav/Log",
        [("last", .message ⟨"nav/Reading", [("UNIT", .uint8 3), ("count", .uint64 0xFFFFFFFFFFFFFFFF),
            ("level", .float32 0), ("note", .string "")]⟩),
          ("readings", .array [.message ⟨"nav/Reading", [("UNIT", .uint8 3), ("count", .uint64 0),
            ("level", .float32 0x80000000), ("note", .string "")]⟩]),
          ("stamp", .time 0 0)]⟩ := by
  have valid : logType.validate sparseLog true = .ok () := by decide +kernel
  have finite : sparseLog.everywhere Value.isFinite = true := by rfl
  have ordered : sparseLog.everywhere Value.isOrdered = true := by rfl
  exact ⟨logType_compiled, valid, finite, ordered,
    json_read_back logType_compiled valid finite ordered, rfl⟩

end MessageType

end TopicWire
