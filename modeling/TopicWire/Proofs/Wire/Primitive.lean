import TopicWire.Proofs.Wire.Reading
import TopicWire.Proofs.Wire.Writing

/-!
# Primitive values on the wire

`Primitive.read_ok_iff`: a primitive value is read exactly where the bytes stand that are written
for it. Each value has one spelling, so nothing that can be read is spelled in two ways.
-/

namespace TopicWire.Primitive

variable {c c' : Cursor} {v : Value} {path path' : String}

/-- The bytes between two cursors are what is written for a value of the type. -/
def Spelled (p : Primitive) (v : Value) (path : String) (c c' : Cursor) : Prop :=
  ∃ bytes, c.Passed bytes c' ∧ v.primitive? = some p ∧ v.primitiveBytes path = .ofBytes bytes

/-- A type whose values are coded as the words of one width. -/
theorem spelled_of_word {α : Type} {p : Primitive} {width : Nat} (make : α → Value)
    (decode : Nat → α) (encode : α → Nat) (kind : ∀ v, v.primitive? = some p ↔ ∃ x, make x = v)
    (bound : ∀ x, encode x < Nat.pow 256 width) (decode_encode : ∀ x, decode (encode x) = x)
    (encode_decode : ∀ n, n < Nat.pow 256 width → encode (decode n) = n)
    (spelling : ∀ x, (make x).primitiveBytes path = .ofBytes (Bytes.littleEndian width (encode x))) :
    (do return make (decode (← Decoder.word width)) : Decoder Value) c = .ok v c' ↔
      p.Spelled v path c c' := by
  simp only [Stateful.bind_ok_iff, Stateful.pure_ok_iff, Decoder.word_ok_iff]
  constructor
  · rintro ⟨n, _, ⟨small, passed⟩, rfl, rfl⟩
    refine ⟨_, passed, (kind _).mpr ⟨_, rfl⟩, ?_⟩
    rw [spelling, encode_decode n small]
  · rintro ⟨bytes, passed, typed, written⟩
    obtain ⟨x, rfl⟩ := (kind v).mp typed
    rw [spelling, Written.ofBytes_inj] at written
    subst written
    exact ⟨encode x, c', ⟨bound x, passed⟩, by rw [decode_encode], rfl⟩

theorem spelled_of_words {α : Type} {p : Primitive} {width : Nat} (make : α → α → Value)
    (decode : Nat → α) (encode : α → Nat) (kind : ∀ v, v.primitive? = some p ↔ ∃ x y, make x y = v)
    (bound : ∀ x, encode x < Nat.pow 256 width) (decode_encode : ∀ x, decode (encode x) = x)
    (encode_decode : ∀ n, n < Nat.pow 256 width → encode (decode n) = n)
    (spelling : ∀ x y, (make x y).primitiveBytes path =
      .ofBytes (Bytes.littleEndian width (encode x) ++ Bytes.littleEndian width (encode y))) :
    (do
      let first ← Decoder.word width
      let second ← Decoder.word width
      return make (decode first) (decode second) : Decoder Value) c = .ok v c' ↔
      p.Spelled v path c c' := by
  simp only [Stateful.bind_ok_iff, Stateful.pure_ok_iff, Decoder.word_ok_iff]
  constructor
  · rintro ⟨n, middle, ⟨small, passed⟩, k, _, ⟨small', passed'⟩, rfl, rfl⟩
    refine ⟨_, Cursor.passed_append_iff.mpr ⟨middle, passed, passed'⟩, (kind _).mpr ⟨_, _, rfl⟩, ?_⟩
    rw [spelling, encode_decode n small, encode_decode k small']
  · rintro ⟨bytes, passed, typed, written⟩
    obtain ⟨x, y, rfl⟩ := (kind v).mp typed
    rw [spelling, Written.ofBytes_inj] at written
    subst written
    obtain ⟨middle, first, second⟩ := Cursor.passed_append_iff.mp passed
    exact ⟨_, middle, ⟨bound x, first⟩, _, c', ⟨bound y, second⟩,
      by rw [decode_encode, decode_encode], rfl⟩

theorem readBool_ok_iff : readBool path c = .ok v c' ↔ bool.Spelled v path' c c' := by
  unfold readBool
  simp only [Stateful.bind_ok_iff, Decoder.word_ok_iff]
  constructor
  · rintro ⟨n, middle, ⟨_, passed⟩, h⟩
    rcases n with _ | _ | n
    · obtain ⟨rfl, rfl⟩ := Stateful.pure_ok_iff.mp h
      exact ⟨_, passed, rfl, rfl⟩
    · obtain ⟨rfl, rfl⟩ := Stateful.pure_ok_iff.mp h
      exact ⟨_, passed, rfl, rfl⟩
    · exact (Stateful.throw_ok h).elim
  · rintro ⟨bytes, passed, typed, written⟩
    cases v with
    | bool b =>
      obtain rfl := Written.ofBytes_inj.mp written
      cases b
      · exact ⟨0, c', ⟨by decide, passed⟩, rfl⟩
      · exact ⟨1, c', ⟨by decide, passed⟩, rfl⟩
    | _ => cases typed

theorem readString_ok_iff : readString path c = .ok v c' ↔ string.Spelled v path' c c' := by
  unfold readString
  simp only [Stateful.bind_ok_iff, Decoder.word_ok_iff, Decoder.take_ok_iff]
  constructor
  · rintro ⟨n, front, ⟨small, count⟩, bytes, behind, ⟨rfl, passed⟩, h⟩
    cases text : Bytes.text? bytes with
    | none =>
      rw [text] at h
      exact (Stateful.throw_ok h).elim
    | some s =>
      rw [text] at h
      obtain ⟨rfl, rfl⟩ := Stateful.pure_ok_iff.mp h
      obtain rfl := Bytes.ofText_of_text? text
      refine ⟨_, Cursor.passed_append_iff.mpr ⟨front, count, passed⟩, rfl, ?_⟩
      rw [Value.primitiveBytes, Written.andThen_eq_ofBytes_iff]
      rw [Bytes.length_ofText] at small ⊢
      exact ⟨_, _, lengthBytes_ok_iff.mpr ⟨small, rfl⟩, rfl, rfl⟩
  · rintro ⟨bytes, passed, typed, written⟩
    cases v with
    | string s =>
      rw [Value.primitiveBytes, Written.andThen_eq_ofBytes_iff] at written
      obtain ⟨_, _, length, text, rfl⟩ := written
      obtain ⟨small, rfl⟩ := lengthBytes_ok_iff.mp length
      obtain rfl := Written.ofBytes_inj.mp text
      obtain ⟨front, count, passed⟩ := Cursor.passed_append_iff.mp passed
      refine ⟨_, front, ⟨small, count⟩, _, c', ⟨Bytes.length_ofText s, passed⟩, ?_⟩
      rw [Bytes.text?_ofText]
      rfl
    | _ => cases typed

/-- A primitive value is read exactly where the bytes stand that are written for it. -/
theorem read_ok_iff {p : Primitive} (path' : String) :
    p.read path c = .ok v c' ↔ p.Spelled v path' c c' := by
  cases p with
  | bool => exact readBool_ok_iff
  | string => exact readString_ok_iff
  | int8 =>
    exact spelled_of_word .int8 (fun n => (UInt8.ofNat n).toInt8) (·.toUInt8.toNat)
      (by intro v; cases v <;> simp [Value.primitive?]) (·.toUInt8.toNat_lt) (by simp)
      (fun n small => by simpa using small) fun x => by simp [Value.primitiveBytes, Bytes.littleEndian]
  | uint8 =>
    exact spelled_of_word .uint8 UInt8.ofNat UInt8.toNat
      (by intro v; cases v <;> simp [Value.primitive?]) (·.toNat_lt) (by simp)
      (fun n small => by simpa using small) fun x => by simp [Value.primitiveBytes, Bytes.littleEndian]
  | int16 =>
    exact spelled_of_word .int16 (fun n => (UInt16.ofNat n).toInt16) (·.toUInt16.toNat)
      (by intro v; cases v <;> simp [Value.primitive?]) (·.toUInt16.toNat_lt) (by simp)
      (fun n small => by simpa using small) fun x => rfl
  | uint16 =>
    exact spelled_of_word .uint16 UInt16.ofNat UInt16.toNat
      (by intro v; cases v <;> simp [Value.primitive?]) (·.toNat_lt) (by simp)
      (fun n small => by simpa using small) fun x => rfl
  | int32 =>
    exact spelled_of_word .int32 (fun n => (UInt32.ofNat n).toInt32) (·.toUInt32.toNat)
      (by intro v; cases v <;> simp [Value.primitive?]) (·.toUInt32.toNat_lt) (by simp)
      (fun n small => by simpa using small) fun x => rfl
  | uint32 =>
    exact spelled_of_word .uint32 UInt32.ofNat UInt32.toNat
      (by intro v; cases v <;> simp [Value.primitive?]) (·.toNat_lt) (by simp)
      (fun n small => by simpa using small) fun x => rfl
  | int64 =>
    exact spelled_of_word .int64 (fun n => (UInt64.ofNat n).toInt64) (·.toUInt64.toNat)
      (by intro v; cases v <;> simp [Value.primitive?]) (·.toUInt64.toNat_lt) (by simp)
      (fun n small => by simpa using small) fun x => rfl
  | uint64 =>
    exact spelled_of_word .uint64 UInt64.ofNat UInt64.toNat
      (by intro v; cases v <;> simp [Value.primitive?]) (·.toNat_lt) (by simp)
      (fun n small => by simpa using small) fun x => rfl
  | float32 =>
    exact spelled_of_word .float32 UInt32.ofNat UInt32.toNat
      (by intro v; cases v <;> simp [Value.primitive?]) (·.toNat_lt) (by simp)
      (fun n small => by simpa using small) fun x => rfl
  | float64 =>
    exact spelled_of_word .float64 UInt64.ofNat UInt64.toNat
      (by intro v; cases v <;> simp [Value.primitive?]) (·.toNat_lt) (by simp)
      (fun n small => by simpa using small) fun x => rfl
  | time =>
    exact spelled_of_words .time UInt32.ofNat UInt32.toNat
      (by intro v; cases v <;> simp [Value.primitive?]) (·.toNat_lt) (by simp)
      (fun n small => by simpa using small) fun x y => rfl
  | duration =>
    exact spelled_of_words .duration (fun n => (UInt32.ofNat n).toInt32) (·.toUInt32.toNat)
      (by intro v; cases v <;> simp [Value.primitive?]) (·.toUInt32.toNat_lt) (by simp)
      (fun n small => by simpa using small) fun x y => rfl

end TopicWire.Primitive
