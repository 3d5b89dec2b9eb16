import TopicWire.Proofs.Json.RoundTrip

/-!
# Fitting integers into their types

An integer is taken to an integer type if the width of the type has room for it (`Primitive.Fits`), and
is refused with its decimal text if not. Where it comes from makes no difference: a value of any integer
type, a value that was fitted before and a number in a JSON text come to the same
(`Value.narrows_exactly`).
-/

namespace TopicWire

/-! ### Widths -/

namespace Primitive

variable {p : Primitive} {field path : String} {n : Int} {w : Value} {e : Violation}

def isSigned : Primitive → Bool
  | .int8 | .int16 | .int32 | .int64 => true
  | _ => false

/-- The width of an integer type has room for an integer, one bit being the sign's if the type has one. -/
def Fits (p : Primitive) (n : Int) : Prop :=
  let bits := 8 * p.minSize
  if p.isSigned then -2 ^ (bits - 1) ≤ n ∧ n < 2 ^ (bits - 1) else 0 ≤ n ∧ n < 2 ^ bits

instance (p : Primitive) (n : Int) : Decidable (p.Fits n) := by
  unfold Fits
  infer_instance

theorem fits_signed (signed : p.isSigned = true) (n : Int) :
    p.Fits n ↔ -2 ^ (8 * p.minSize - 1) ≤ n ∧ n ≤ 2 ^ (8 * p.minSize - 1) - 1 := by
  rw [Int.le_sub_one_iff, Fits, if_pos signed]

theorem fits_unsigned (unsigned : p.isSigned = false) (n : Int) :
    p.Fits n ↔ 0 ≤ n ∧ n ≤ 2 ^ (8 * p.minSize) - 1 := by
  rw [Int.le_sub_one_iff, Fits, unsigned, if_neg Bool.false_ne_true]

/-- What the integer types have in common. -/
theorem ofInteger?_eq_within (integer : p.isInteger = true) : ∃ low high make,
    (∀ n, p.ofInteger? n = within low high make n) ∧ (∀ n, p.Fits n ↔ low ≤ n ∧ n ≤ high) ∧
      ∀ n, p.Fits n → (make n).integer? = some n := by
  cases p with
  | int8 =>
    refine ⟨_, _, _, fun _ => rfl, fits_signed rfl, fun n fits => ?_⟩
    exact congrArg some (Int8.toInt_ofInt_of_le fits.1 fits.2)
  | int16 =>
    refine ⟨_, _, _, fun _ => rfl, fits_signed rfl, fun n fits => ?_⟩
    exact congrArg some (Int16.toInt_ofInt_of_le fits.1 fits.2)
  | int32 =>
    refine ⟨_, _, _, fun _ => rfl, fits_signed rfl, fun n fits => ?_⟩
    exact congrArg some (Int32.toInt_ofInt_of_le fits.1 fits.2)
  | int64 =>
    refine ⟨_, _, _, fun _ => rfl, fits_signed rfl, fun n fits => ?_⟩
    exact congrArg some (Int64.toInt_ofInt_of_le fits.1 fits.2)
  | uint8 =>
    refine ⟨_, _, _, fun _ => rfl, fits_unsigned rfl, fun n fits => congrArg some ?_⟩
    rw [UInt8.toNat_ofNat_of_lt' ((Int.toNat_lt fits.1).mpr fits.2), Int.toNat_of_nonneg fits.1]
  | uint16 =>
    refine ⟨_, _, _, fun _ => rfl, fits_unsigned rfl, fun n fits => congrArg some ?_⟩
    rw [UInt16.toNat_ofNat_of_lt' ((Int.toNat_lt fits.1).mpr fits.2), Int.toNat_of_nonneg fits.1]
  | uint32 =>
    refine ⟨_, _, _, fun _ => rfl, fits_unsigned rfl, fun n fits => congrArg some ?_⟩
    rw [UInt32.toNat_ofNat_of_lt' ((Int.toNat_lt fits.1).mpr fits.2), Int.toNat_of_nonneg fits.1]
  | uint64 =>
    refine ⟨_, _, _, fun _ => rfl, fits_unsigned rfl, fun n fits => congrArg some ?_⟩
    rw [UInt64.toNat_ofNat_of_lt' ((Int.toNat_lt fits.1).mpr fits.2), Int.toNat_of_nonneg fits.1]
  | _ => cases integer

theorem ofInteger?_eq_some_iff (integer : p.isInteger = true) :
    p.ofInteger? n = some w ↔ p.Fits n ∧ w.primitive? = some p ∧ w.integer? = some n := by
  obtain ⟨low, high, make, same, range, exact⟩ := ofInteger?_eq_within integer
  constructor
  · intro made
    have kind := primitive?_of_ofInteger? made
    rw [same, within] at made
    split at made
    · rename_i bounds
      obtain rfl := Option.some.inj made
      have fits := (range n).mpr bounds
      exact ⟨fits, kind, exact n fits⟩
    · cases made
  · rintro ⟨-, kind, held⟩
    exact Value.ofInteger?_of_integer? held kind

theorem ofInteger?_eq_none_iff (integer : p.isInteger = true) : p.ofInteger? n = none ↔ ¬ p.Fits n := by
  obtain ⟨low, high, make, same, range, -⟩ := ofInteger?_eq_within integer
  rw [same, range, within, ite_eq_right_iff]
  simp

theorem ofInteger_ok_iff (integer : p.isInteger = true) :
    p.ofInteger field n = .ok w ↔ p.Fits n ∧ w.primitive? = some p ∧ w.integer? = some n := by
  rw [← ofInteger?_eq_some_iff integer, ofInteger]
  cases p.ofInteger? n <;> simp

theorem ofInteger_error_iff (integer : p.isInteger = true) :
    p.ofInteger field n = .error e ↔ ¬ p.Fits n ∧ e = .outOfRange field (toString n) p.name := by
  rw [← ofInteger?_eq_none_iff integer, ofInteger]
  cases p.ofInteger? n <;> simp [eq_comm]

theorem stampWithin_ok_iff {low high k : Int} :
    stampWithin p low high path n = .ok k ↔ (low ≤ n ∧ n ≤ high) ∧ n = k := by
  unfold stampWithin
  split <;> simp [*]

theorem stampWithin_error_iff {low high : Int} : stampWithin p low high path n = .error e ↔
    ¬ (low ≤ n ∧ n ≤ high) ∧ e = .outOfRange path (toString n) p.name := by
  unfold stampWithin
  split <;> simp [*, eq_comm]

end Primitive

namespace Value

variable {v w : Value} {n : Int} {p : Primitive}

/-- A value of an integer type is fitted as the integer that it holds. -/
theorem coerce_eq_ofInteger (held : v.integer? = some n) (integer : p.isInteger = true) (field : String) :
    v.coerce field p = p.ofInteger field n := by
  unfold coerce
  by_cases kind : v.primitive? = some p
  · rw [if_pos kind, Primitive.ofInteger, ofInteger?_of_integer? held kind]
  · rw [if_neg kind, if_pos integer, held]

/-- Values hold the integers of eight bytes, with or without a sign, and no others. -/
theorem exists_integer_iff (n : Int) : (∃ v : Value, v.integer? = some n) ↔ -2 ^ 63 ≤ n ∧ n < 2 ^ 64 := by
  constructor
  · rintro ⟨v, held⟩
    cases v with
    | int8 v | int16 v | int32 v | int64 v =>
      obtain rfl := Option.some.inj held
      have low := v.le_toInt
      have high := v.toInt_lt
      omega
    | uint8 v | uint16 v | uint32 v | uint64 v =>
      obtain rfl := Option.some.inj held
      have high := v.toNat_lt
      omega
    | _ => cases held
  · rintro ⟨low, high⟩
    have made (p : Primitive) (integer : p.isInteger = true) (fits : p.Fits n) :
        ∃ v : Value, v.integer? = some n := by
      obtain ⟨w, made⟩ := Option.ne_none_iff_exists'.mp (mt (Primitive.ofInteger?_eq_none_iff integer).mp
        (not_not.mpr fits))
      exact ⟨w, ((Primitive.ofInteger?_eq_some_iff integer).mp made).2.2⟩
    by_cases negative : n < 0
    · exact made .int64 rfl ⟨low, by show n < 2 ^ 63; omega⟩
    · exact made .uint64 rfl ⟨by omega, high⟩

end Value

/-! ### Integers in JSON values -/

namespace Field

/-- A value that is given for a field. For a constant it has to be the literal. -/
def accept (f : Field) (path : String) (v : Value) : Except Violation Value :=
  match f.constant with
  | some literal => if v.same literal then .ok v else .error (.constantModified path)
  | none => .ok v

theorem ofJson_eq_accept {f : Field} (one : f.arity = .one) (j : Json) (path : String) :
    f.ofJson j path = f.element.ofJson j path >>= f.accept path := by
  obtain ⟨_, _, _, _, constant⟩ := f
  obtain rfl := one
  rw [ofJson]
  cases constant <;> rfl

end Field

theorem storeMembers_append {member : String → Json → Option (Except Violation Value)}
    {typeId path : String} (m : Message) (before after : List (String × Json)) :
    storeMembers member typeId path m (before ++ after) =
      storeMembers member typeId path m before >>= fun m => storeMembers member typeId path m after := by
  induction before generalizing m with
  | nil => rfl
  | cons entry before ih =>
    obtain ⟨key, j⟩ := entry
    rw [List.cons_append, storeMembers, storeMembers]
    split
    · rfl
    · rfl
    · exact ih _

namespace MessageType

variable {type : MessageType} {f : Field}

/-- The value of a field is read after the members in front of it and before those behind it. -/
theorem ofJsonAt_member (named : type.field? f.accessor = some f) (before after : List (String × Json))
    (j : Json) (path : String) :
    type.ofJsonAt (.object (before ++ (f.accessor, j) :: after)) path = (do
      let m ← type.ofJsonAt (.object before) path
      let v ← f.ofJson j (fieldPath path f.accessor)
      storeMembers (Field.ofMember type.fields path) type.id path (m.set f.accessor v) after) := by
  have found : Field.ofMember type.fields path f.accessor j =
      some (f.ofJson j (fieldPath path f.accessor)) := by
    rw [Field.ofMember_eq]
    exact congrArg (Option.map _) named
  rw [ofJsonAt_object, ofJsonAt_object, storeMembers_append]
  refine congrArg (_ >>= ·) (funext fun m => ?_)
  rw [storeMembers, found]
  cases f.ofJson j (fieldPath path f.accessor) <;> rfl

end MessageType

/-! ### Times and durations -/

/-- A part of a time or a duration: an integer, 0 if it is missing. -/
def StampPart (members : List (String × Json)) (name : String) (n : Int) : Prop :=
  members.lookup name = some (.integer n) ∨ members.lookup name = none ∧ n = 0

theorem stampPart_ok_iff {members : List (String × Json)} {path name : String} {n : Int} :
    stampPart members path name = .ok n ↔ StampPart members name n := by
  unfold stampPart StampPart
  cases members.lookup name with
  | none => simp [eq_comm]
  | some j => cases j <;> simp

/-- The seconds and nanoseconds of a time or a duration. -/
def Value.stamp? : Value → Option (Int × Int)
  | .time secs nsecs => some (secs.toNat, nsecs.toNat)
  | .duration secs nsecs => some (secs.toInt, nsecs.toInt)
  | _ => none

namespace Primitive

/-- What `timeOfJson` and `durationOfJson` have in common. -/
def stampOfJson (stamp : Primitive) (low high : Int) (make : Int → Int → Value)
    (members : List (String × Json)) (path : String) : Except Violation Value := do
  let secs ← stampPart members path "secs"
  let nsecs ← stampPart members path "nsecs"
  let secs ← stampWithin stamp low high path secs
  let nsecs ← stampWithin stamp low high path nsecs
  return make secs nsecs

/-- A time or a duration is made of an object whose parts both fit, and of no other. The first part that
does not fit is told. -/
structure ReadsStamp (stamp part : Primitive) : Prop where
  accepted : ∀ members path w, stamp.ofJson (.object members) path = .ok w ↔
    ∃ secs nsecs, StampPart members "secs" secs ∧ StampPart members "nsecs" nsecs ∧
      part.Fits secs ∧ part.Fits nsecs ∧ w.primitive? = some stamp ∧ w.stamp? = some (secs, nsecs)
  refused : ∀ members path secs nsecs e, StampPart members "secs" secs →
    StampPart members "nsecs" nsecs → (stamp.ofJson (.object members) path = .error e ↔
      ¬ part.Fits secs ∧ e = .outOfRange path (toString secs) stamp.name ∨
        part.Fits secs ∧ ¬ part.Fits nsecs ∧ e = .outOfRange path (toString nsecs) stamp.name)

variable {stamp part : Primitive} {low high : Int} {make : Int → Int → Value}

theorem readsStamp
    (same : ∀ members path, stamp.ofJson (.object members) path =
      stampOfJson stamp low high make members path)
    (range : ∀ n, part.Fits n ↔ low ≤ n ∧ n ≤ high)
    (made : ∀ secs nsecs w, part.Fits secs → part.Fits nsecs →
      (make secs nsecs = w ↔ w.primitive? = some stamp ∧ w.stamp? = some (secs, nsecs))) :
    stamp.ReadsStamp part := by
  refine ⟨fun members path w => ?_, fun members path secs nsecs e first second => ?_⟩
  · rw [same, stampOfJson]
    simp only [Result.bind_ok_iff, stampPart_ok_iff, stampWithin_ok_iff, Result.pure_ok_iff, ← range]
    constructor
    · rintro ⟨secs, first, nsecs, second, _, ⟨fits, rfl⟩, _, ⟨fits', rfl⟩, done⟩
      exact ⟨secs, nsecs, first, second, fits, fits', (made secs nsecs w fits fits').mp done⟩
    · rintro ⟨secs, nsecs, first, second, fits, fits', held⟩
      exact ⟨secs, first, nsecs, second, secs, ⟨fits, rfl⟩, nsecs, ⟨fits', rfl⟩,
        (made secs nsecs w fits fits').mpr held⟩
  · have parts : stampOfJson stamp low high make members path = (do
        let secs ← stampWithin stamp low high path secs
        let nsecs ← stampWithin stamp low high path nsecs
        return make secs nsecs) := by
      rw [stampOfJson, stampPart_ok_iff.mpr first, stampPart_ok_iff.mpr second]
      rfl
    rw [same, parts]
    simp only [Result.bind_error_iff, stampWithin_ok_iff, stampWithin_error_iff, ← range]
    constructor
    · rintro (⟨misfit, told⟩ | ⟨_, ⟨fits, rfl⟩, ⟨misfit, told⟩ | ⟨_, -, done⟩⟩)
      · exact .inl ⟨misfit, told⟩
      · exact .inr ⟨fits, misfit, told⟩
      · cases done
    · rintro (⟨misfit, told⟩ | ⟨fits, misfit, told⟩)
      · exact .inl ⟨misfit, told⟩
      · exact .inr ⟨secs, ⟨fits, rfl⟩, .inl ⟨misfit, told⟩⟩

theorem time_readsStamp : time.ReadsStamp uint32 := by
  refine readsStamp (fun _ _ => rfl) (fits_unsigned rfl) fun secs nsecs w fits fits' => ?_
  have exact {n : Int} (fits : uint32.Fits n) : ((UInt32.ofNat n.toNat).toNat : Int) = n := by
    rw [UInt32.toNat_ofNat_of_lt' ((Int.toNat_lt fits.1).mpr fits.2), Int.toNat_of_nonneg fits.1]
  constructor
  · rintro rfl
    exact ⟨rfl, by rw [Value.stamp?, exact fits, exact fits']⟩
  · rintro ⟨kind, held⟩
    cases w with
    | time a b =>
      cases held
      simp
    | duration a b => cases kind
    | _ => cases held

theorem duration_readsStamp : duration.ReadsStamp int32 := by
  refine readsStamp (fun _ _ => rfl) (fits_signed rfl) fun secs nsecs w fits fits' => ?_
  constructor
  · rintro rfl
    exact ⟨rfl, by rw [Value.stamp?, Int32.toInt_ofInt_of_le fits.1 fits.2,
      Int32.toInt_ofInt_of_le fits'.1 fits'.2]⟩
  · rintro ⟨kind, held⟩
    cases w with
    | time a b => cases kind
    | duration a b =>
      cases held
      rw [Int32.ofInt_toInt, Int32.ofInt_toInt]
    | _ => cases held

end Primitive

/-! ### Fitting integers -/

namespace Value

variable {v : Value} {n : Int} {p : Primitive}

/-- What becomes of the integer `n`, which `v` holds, in the integer type `p`. -/
structure Narrows (v : Value) (n : Int) (p : Primitive) : Prop where
  accepted : ∀ field w, v.coerce field p = .ok w ↔
    p.Fits n ∧ w.primitive? = some p ∧ w.integer? = some n
  refused : ∀ field e, v.coerce field p = .error e ↔
    ¬ p.Fits n ∧ e = .outOfRange field (toString n) p.name
  /-- A type in between makes no difference. -/
  through : ∀ (q : Primitive) (first field : String) (u : Value), q.isInteger = true →
    v.coerce first q = .ok u → u.coerce field p = v.coerce field p
  item : ∀ path, (Element.primitive p).ofJson (.integer n) path = v.coerce path p
  /-- A field takes the number in a JSON object as it takes the value, and looks at it no further unless
  it is a constant. -/
  member : ∀ (type : MessageType) (f : Field) (before after : List (String × Json)) (path : String),
    type.field? f.accessor = some f → f.element = .primitive p → f.arity = .one →
    type.ofJsonAt (.object (before ++ (f.accessor, .integer n) :: after)) path = (do
      let m ← type.ofJsonAt (.object before) path
      let w ← v.coerce (fieldPath path f.accessor) p
      let w ← f.accept (fieldPath path f.accessor) w
      storeMembers (Field.ofMember type.fields path) type.id path (m.set f.accessor w) after)

/-- An integer goes into an integer type exactly if the type has room for it, and is told in decimal if
not. It makes no difference which value holds it, whether it went through another type before or whether it
is a number in a JSON value; every integer of eight bytes is held by a value. The parts of times and
durations are fitted into four bytes in the same way. -/
theorem narrows_exactly (held : v.integer? = some n) (integer : p.isInteger = true) :
    v.Narrows n p ∧ (∀ k : Int, (∃ u : Value, u.integer? = some k) ↔ -2 ^ 63 ≤ k ∧ k < 2 ^ 64) ∧
      Primitive.time.ReadsStamp .uint32 ∧ Primitive.duration.ReadsStamp .int32 := by
  have same (field : String) := coerce_eq_ofInteger held integer field
  have read (path : String) : (Element.primitive p).ofJson (.integer n) path = v.coerce path p := by
    rw [same, Element.ofJson, Primitive.ofJson_integer integer]
  refine ⟨⟨fun field w => ?_, fun field e => ?_, fun q first field u between made => ?_, read,
    fun type f before after path named element one => ?_⟩, exists_integer_iff,
    Primitive.time_readsStamp, Primitive.duration_readsStamp⟩
  · rw [same, Primitive.ofInteger_ok_iff integer]
  · rw [same, Primitive.ofInteger_error_iff integer]
  · rw [coerce_eq_ofInteger held between, Primitive.ofInteger_ok_iff between] at made
    rw [same, coerce_eq_ofInteger made.2.2 integer]
  · rw [MessageType.ofJsonAt_member named, Field.ofJson_eq_accept one, element, read]
    simp only [bind_assoc]

/-- One more than the greatest integer with a sign, as a value and in JSON, and a time whose seconds are
missing. -/
theorem narrows_at_border :
    (Value.uint64 0x8000000000000000).integer? = some 0x8000000000000000 ∧
      Primitive.int64.isInteger = true ∧
      (Value.uint64 0x8000000000000000).coerce "seq" .int64 =
        .error (.outOfRange "seq" "9223372036854775808" "int64") ∧
      (Element.primitive .int64).ofJson (.integer 0x8000000000000000) "seq" =
        .error (.outOfRange "seq" "9223372036854775808" "int64") ∧
      Primitive.time.ofJson (.object [("nsecs", .integer 0xFFFFFFFF)]) "t" = .ok (.time 0 0xFFFFFFFF) ∧
      Primitive.time.ofJson (.object [("nsecs", .integer 0x100000000)]) "t" =
        .error (.outOfRange "t" "4294967296" "time") := by
  have held : (Value.uint64 0x8000000000000000).integer? = some 0x8000000000000000 := rfl
  obtain ⟨narrows, -, time, -⟩ := narrows_exactly held (p := .int64) rfl
  have refused : (Value.uint64 0x8000000000000000).coerce "seq" .int64 =
      .error (.outOfRange "seq" "9223372036854775808" "int64") :=
    (narrows.refused "seq" _).mpr ⟨by decide, rfl⟩
  have accepted := time.accepted [("nsecs", .integer 0xFFFFFFFF)] "t" (.time 0 0xFFFFFFFF)
  have late := time.refused [("nsecs", .integer 0x100000000)] "t" 0 0x100000000
    (.outOfRange "t" "4294967296" "time")
  refine ⟨held, rfl, refused, (narrows.item "seq").trans refused, ?_, ?_⟩
  · exact accepted.mpr ⟨0, 0xFFFFFFFF, .inr ⟨rfl, rfl⟩, .inl rfl, by decide, by decide, rfl, rfl⟩
  · exact (late (.inr ⟨rfl, rfl⟩) (.inl rfl)).mpr (.inr ⟨by decide, by decide, rfl⟩)

end Value

end TopicWire
