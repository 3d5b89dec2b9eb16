import TopicWire.Proofs.Wire.Primitive

/-!
# Reading under a guard

A guard decides, before any item of an array is read, whether the items may be tried. Reading under
`Guard.clamped` is the reading of the library (`Element.readUnder_clamped`); under `Guard.off` it is
the plain loop over the items. The two can only differ at arrays of items without a body.
-/

namespace TopicWire

/-- Whether `count` items of at least `minSize` bytes may be tried with `remaining` bytes left. -/
abbrev Guard := (minSize count remaining : Nat) → Bool

namespace Guard

/-- Every count may be tried. -/
def off : Guard := fun _ _ _ => true

/-- The items have to fit at their least size and at one byte each. -/
def clamped : Guard := fun minSize count remaining => decide (count * max minSize 1 ≤ remaining)

/-- Items with a body are only refused if they do not fit. -/
def Sound (guard : Guard) : Prop :=
  ∀ minSize count remaining, 0 < minSize → count * minSize ≤ remaining →
    guard minSize count remaining = true

theorem off_sound : off.Sound :=
  fun _ _ _ _ _ => rfl

theorem clamped_sound : clamped.Sound := by
  intro minSize count remaining positive fits
  rw [clamped, Nat.max_eq_left positive]
  exact decide_eq_true fits

end Guard

/-- A number of items, if the guard lets it through. -/
def passCount (guard : Guard) (minSize : Nat) (path : String) (count : Nat) : Decoder Nat := do
  let remaining ← Decoder.remaining
  if guard minSize count remaining = false then throw (.countTooLarge path count remaining)
  return count

/-- Reads the number of items of an array, which must be the declared one if there is one and be
let through by the guard. -/
def readCountUnder (guard : Guard) (arity : Arity) (minSize : Nat) (path : String) : Decoder Nat := do
  let count ← Decoder.word 4
  if let some n := arity.length? then
    if count ≠ n then throw (.violation (.arrayLength path n count))
  passCount guard minSize path count

mutual

/-- Reads the message at `path` as the library does, but for the guard. -/
def MessageType.readUnder (guard : Guard) : MessageType → String → Decoder Message
  | ⟨id, _, _, _, _, fields⟩, path => do
    let values ← Field.readAllUnder guard fields path
    return ⟨id, Keyed.ofList values⟩

def Field.readAllUnder (guard : Guard) : List Field → String → Decoder (List (String × Value))
  | [], _ => return []
  | f :: fs, path => do
    let first ← f.readUnder guard (fieldPath path f.accessor)
    let rest ← Field.readAllUnder guard fs path
    return (f.accessor, first) :: rest

def Field.readUnder (guard : Guard) : Field → String → Decoder Value
  | ⟨_, _, element, arity, constant⟩, path =>
    match constant with
    | some value => return value
    | none =>
      match arity with
      | .one => element.readUnder guard path
      | arity => do
        let count ← readCountUnder guard arity element.minSize path
        let items ← readItems (element.readUnder guard) path 0 count
        return .array items

def Element.readUnder (guard : Guard) : Element → String → Decoder Value
  | .primitive p, path => p.read path
  | .message type, path => do
    let m ← type.readUnder guard path
    return .message m

end

namespace MessageType

def decodeBodyUnder (guard : Guard) (type : MessageType) (body : Bytes) : Except WireError Message :=
  Decoder.run (do let m ← type.readUnder guard ""; Decoder.expectEnd; return m) body

end MessageType

section Count

variable {guard : Guard} {arity : Arity} {least n n' : Nat} {path : String} {c c' : Cursor}

theorem passCount_ok_iff :
    passCount guard least path n' c = .ok n c' ↔
      n' = n ∧ c = c' ∧ guard least n c'.remaining = true := by
  unfold passCount
  simp only [Stateful.bind_ok_iff, Decoder.remaining_ok_iff]
  constructor
  · rintro ⟨_, _, ⟨rfl, rfl⟩, h⟩
    split at h
    · obtain ⟨_, _, thrown, _⟩ := Stateful.bind_ok_iff.mp h
      exact (Stateful.throw_ok thrown).elim
    · rename_i free
      obtain ⟨rfl, rfl⟩ := Stateful.pure_ok_iff.mp h
      exact ⟨rfl, rfl, by simpa using free⟩
  · rintro ⟨rfl, rfl, free⟩
    refine ⟨_, _, ⟨rfl, rfl⟩, ?_⟩
    rw [free]
    exact Stateful.pure_ok_iff.mpr ⟨rfl, rfl⟩

theorem readCountUnder_ok_iff :
    readCountUnder guard arity least path c = .ok n c' ↔
      arity.Allows n ∧ n < 0x100000000 ∧ c.Passed (Bytes.littleEndian 4 n) c' ∧
        guard least n c'.remaining = true := by
  unfold readCountUnder
  rw [Stateful.bind_ok_iff]
  simp only [Decoder.word_ok_iff]
  cases declared : arity.length? with
  | none =>
    constructor
    · rintro ⟨_, _, ⟨small, passed⟩, h⟩
      obtain ⟨rfl, rfl, free⟩ := passCount_ok_iff.mp h
      exact ⟨fun _ some => by simp [declared] at some, small, passed, free⟩
    · rintro ⟨_, small, passed, free⟩
      exact ⟨n, c', ⟨small, passed⟩, passCount_ok_iff.mpr ⟨rfl, rfl, free⟩⟩
  | some k =>
    constructor
    · rintro ⟨n', middle, ⟨small, passed⟩, h⟩
      dsimp only at h
      split at h
      · obtain ⟨_, _, thrown, _⟩ := Stateful.bind_ok_iff.mp h
        exact (Stateful.throw_ok thrown).elim
      · rename_i same
        obtain ⟨rfl, rfl, free⟩ := passCount_ok_iff.mp h
        refine ⟨fun _ given => ?_, small, passed, free⟩
        rw [declared, Option.some.injEq] at given
        omega
    · rintro ⟨allowed, small, passed, free⟩
      obtain rfl : n = k := allowed k declared
      refine ⟨n, c', ⟨small, passed⟩, ?_⟩
      simp only [ne_eq, not_true_eq_false, if_false]
      exact passCount_ok_iff.mpr ⟨rfl, rfl, free⟩

end Count

section Fields

variable {guard : Guard} {f : Field} {path : String}

theorem Field.readUnder_constant {literal : Value} (h : f.constant = some literal) :
    f.readUnder guard path = pure literal := by
  obtain ⟨_, _, _, _, constant⟩ := f
  obtain rfl : constant = some literal := h
  rw [readUnder]

theorem Field.readUnder_one (h : f.constant = none) (one : f.arity = .one) :
    f.readUnder guard path = f.element.readUnder guard path := by
  obtain ⟨_, _, element, arity, constant⟩ := f
  obtain rfl : constant = none := h
  obtain rfl : arity = .one := one
  rw [readUnder]

theorem Field.readUnder_array_iff (h : f.constant = none) (array : f.arity ≠ .one) {v : Value}
    {c c' : Cursor} :
    f.readUnder guard path c = .ok v c' ↔
      ∃ count middle items, readCountUnder guard f.arity f.element.minSize path c = .ok count middle ∧
        readItems (f.element.readUnder guard) path 0 count middle = .ok items c' ∧
        v = .array items := by
  obtain ⟨_, _, element, arity, constant⟩ := f
  obtain rfl : constant = none := h
  cases arity with
  | one => exact (array rfl).elim
  | many | exactly =>
    simp only [readUnder, Stateful.bind_ok_iff, Stateful.pure_ok_iff]
    constructor
    · rintro ⟨count, middle, counted, items, _, read, rfl, rfl⟩
      exact ⟨count, middle, items, counted, read, rfl⟩
    · rintro ⟨count, middle, items, counted, read, rfl⟩
      exact ⟨count, middle, counted, items, c', read, rfl, rfl⟩

theorem Field.readAllUnder_cons_iff {fs : List Field} {entries : List (String × Value)}
    {c c' : Cursor} :
    readAllUnder guard (f :: fs) path c = .ok entries c' ↔
      ∃ v middle rest, f.readUnder guard (fieldPath path f.accessor) c = .ok v middle ∧
        readAllUnder guard fs path middle = .ok rest c' ∧ entries = (f.accessor, v) :: rest := by
  rw [readAllUnder]
  simp only [Stateful.bind_ok_iff, Stateful.pure_ok_iff]
  constructor
  · rintro ⟨v, middle, first, rest, _, others, rfl, rfl⟩
    exact ⟨v, middle, rest, first, others, rfl⟩
  · rintro ⟨v, middle, rest, first, others, rfl⟩
    exact ⟨v, middle, first, rest, c', others, rfl, rfl⟩

theorem readItems_succ_iff {read : String → Decoder Value} {index count : Nat} {items : List Value}
    {c c' : Cursor} :
    readItems read path index (count + 1) c = .ok items c' ↔
      ∃ v middle rest, read (itemPath path index) c = .ok v middle ∧
        readItems read path (index + 1) count middle = .ok rest c' ∧ items = v :: rest := by
  rw [readItems]
  simp only [Stateful.bind_ok_iff, Stateful.pure_ok_iff]
  constructor
  · rintro ⟨v, middle, first, rest, _, others, rfl, rfl⟩
    exact ⟨v, middle, rest, first, others, rfl⟩
  · rintro ⟨v, middle, rest, first, others, rfl⟩
    exact ⟨v, middle, first, rest, c', others, rfl, rfl⟩

end Fields

theorem MessageType.readUnder_eq (guard : Guard) (type : MessageType) (path : String) :
    type.readUnder guard path = (do
      let values ← Field.readAllUnder guard type.fields path
      return ⟨type.id, Keyed.ofList values⟩) := by
  cases type
  rw [readUnder]

theorem Element.readUnder_message_iff {guard : Guard} {type : MessageType} {path : String} {v : Value}
    {c c' : Cursor} :
    (Element.message type).readUnder guard path c = .ok v c' ↔
      ∃ entries, Field.readAllUnder guard type.fields path c = .ok entries c' ∧
        v = .message ⟨type.id, Keyed.ofList entries⟩ := by
  rw [readUnder, MessageType.readUnder_eq]
  simp only [Stateful.bind_ok_iff, Stateful.pure_ok_iff]
  constructor
  · rintro ⟨_, _, ⟨entries, _, read, rfl, rfl⟩, rfl, rfl⟩
    exact ⟨entries, read, rfl⟩
  · rintro ⟨entries, read, rfl⟩
    exact ⟨_, c', ⟨entries, c', read, rfl, rfl⟩, rfl, rfl⟩

theorem MessageType.readUnder_ok_iff {guard : Guard} {type : MessageType} {path : String} {m : Message}
    {c c' : Cursor} :
    type.readUnder guard path c = .ok m c' ↔
      (Element.message type).readUnder guard path c = .ok (.message m) c' := by
  rw [Element.readUnder]
  simp only [Stateful.bind_ok_iff, Stateful.pure_ok_iff]
  constructor
  · intro read
    exact ⟨m, c', read, rfl, rfl⟩
  · rintro ⟨_, _, read, same, rfl⟩
    cases same
    exact read

/-! ### The guard of the library -/

theorem passCount_clamped (least : Nat) (path : String) (count : Nat) :
    passCount .clamped least path count = (do
      let remaining ← Decoder.remaining
      if remaining < count * max least 1 then throw (.countTooLarge path count remaining)
      return count) := by
  have check (remaining : Nat) :
      (do if Guard.clamped least count remaining = false then
            throw (.countTooLarge path count remaining)
          return count : Decoder Nat) =
        (do if remaining < count * max least 1 then throw (.countTooLarge path count remaining)
            return count) := by
    by_cases fits : count * max least 1 ≤ remaining
    · simp [Guard.clamped, fits, Nat.not_lt.mpr fits]
    · simp [Guard.clamped, fits, Nat.not_le.mp fits]
  unfold passCount
  simp only [check]

theorem readCountUnder_clamped : readCountUnder .clamped = readCount := by
  funext arity least path
  unfold readCountUnder readCount
  cases arity.length? with
  | none => simp only [passCount_clamped]
  | some n => simp only [passCount_clamped]

namespace MessageType

theorem readAt_eq (type : MessageType) (path : String) :
    type.readAt path = (do
      let values ← Field.readAll type.fields path
      return ⟨type.id, Keyed.ofList values⟩) := by
  cases type
  rw [readAt]

end MessageType

theorem Field.readUnder_clamped {f : Field} (same : f.element.readUnder .clamped = f.element.read) :
    f.readUnder .clamped = f.read := by
  obtain ⟨_, _, element, arity, constant⟩ := f
  simp only at same
  funext path
  cases constant <;> cases arity <;> simp [readUnder, read, same, readCountUnder_clamped]

theorem Field.readAllUnder_clamped {fs : List Field}
    (same : ∀ f ∈ fs, f.element.readUnder .clamped = f.element.read) (path : String) :
    readAllUnder .clamped fs path = readAll fs path := by
  induction fs with
  | nil => rw [readAllUnder, readAll]
  | cons f fs ih =>
    rw [readAllUnder, readAll, readUnder_clamped (same f List.mem_cons_self),
      ih fun g member => same g (List.mem_cons_of_mem _ member)]

theorem Element.readUnder_clamped (e : Element) : e.readUnder .clamped = e.read := by
  induction e using Element.induction with
  | primitive p =>
    funext path
    rw [readUnder, read]
  | message type ih =>
    funext path
    rw [readUnder, read, MessageType.readUnder_eq, MessageType.readAt_eq,
      Field.readAllUnder_clamped ih]

namespace MessageType

theorem readUnder_clamped (type : MessageType) : type.readUnder .clamped = type.readAt := by
  funext path
  rw [readUnder_eq, readAt_eq, Field.readAllUnder_clamped fun f _ => f.element.readUnder_clamped]

theorem decodeBodyUnder_clamped (type : MessageType) :
    type.decodeBodyUnder .clamped = type.decodeBody := by
  funext body
  rw [decodeBodyUnder, decodeBody, decodeFrom, readUnder_clamped]

end MessageType

end TopicWire
