import TopicWire.Proofs.Wire.Admission
import TopicWire.Proofs.Wire.Normal
import TopicWire.Proofs.Wire.Primitive

/-!
# What is read was written

Whatever a reader takes, under any guard, are the bytes that are written for the value it returns,
and the value is in normal form. So nothing has a second spelling.
-/

namespace TopicWire

/-- What is read as a value is what is written for it, and the value is in normal form. -/
def ReadsWritten (guard : Guard) (e : Element) : Prop :=
  ∀ ⦃v path c c'⦄, e.readUnder guard path c = .ok v c' → ∃ bytes, c.Passed bytes c' ∧
    (∀ path', e.write v path' = .ofBytes bytes) ∧ e.admits guard v c'.remaining = true ∧
      e.normalized v = v

variable {guard : Guard}

theorem readItems_canonical {e : Element} (only : ReadsWritten guard e) {path : String}
    {index count : Nat} {items : List Value} {c c' : Cursor}
    (read : readItems (e.readUnder guard) path index count c = .ok items c') :
    items.length = count ∧ ∃ bytes, c.Passed bytes c' ∧
      (∀ path' index', writeItems e.write path' index' items = .ofBytes bytes) ∧
        admitsItems (e.admits guard) e.write items c'.remaining = true ∧
          items.map e.normalized = items := by
  induction count generalizing index items c with
  | zero =>
    obtain ⟨rfl, rfl⟩ := Stateful.pure_ok_iff.mp read
    exact ⟨rfl, [], Cursor.passed_nil_iff.mpr rfl, fun _ _ => rfl, rfl, rfl⟩
  | succ count ih =>
    obtain ⟨v, middle, rest, first, others, rfl⟩ := readItems_succ_iff.mp read
    obtain ⟨xs, before, write, free, normal⟩ := only first
    obtain ⟨length, ys, behind, writeRest, freeRest, normalRest⟩ := ih others
    refine ⟨by rw [List.length_cons, length], xs ++ ys,
      Cursor.passed_append_iff.mpr ⟨middle, before, behind⟩, fun path' index' => ?_, ?_, ?_⟩
    · exact writeItems_cons_iff.mpr ⟨xs, ys, write _, writeRest _ _, rfl⟩
    · have room : middle.remaining = ys.length + c'.remaining := behind.remaining
      rw [admitsItems, writeRest, freeRest, Bool.and_true]
      exact room ▸ free
    · rw [List.map_cons, normal, normalRest]

namespace Field

variable {f : Field} {fs : List Field} {m : Message} {path : String} {c c' : Cursor}

theorem readUnder_canonical (only : ReadsWritten guard f.element) {v : Value}
    (read : f.readUnder guard path c = .ok v c') (held : m.get? f.accessor = some v) :
    ∃ bytes, c.Passed bytes c' ∧ (∀ path', f.writeIn m path' = .ofBytes bytes) ∧
      f.admitsIn guard m c'.remaining = true ∧ f.normalizedIn m = some v := by
  rcases f.constant_or_one_or_array with constant | ⟨sent, one⟩ | ⟨sent, array⟩
  · obtain ⟨literal, given⟩ := Option.isSome_iff_exists.mp constant
    rw [readUnder_constant given] at read
    obtain ⟨rfl, rfl⟩ := Stateful.pure_ok_iff.mp read
    exact ⟨[], Cursor.passed_nil_iff.mpr rfl, fun _ => writeIn_constant constant,
      admitsIn_constant constant, normalizedIn_constant given⟩
  · rw [readUnder_one sent one] at read
    obtain ⟨bytes, passed, write, free, normal⟩ := only read
    refine ⟨bytes, passed, fun path' => (writeIn_one_iff sent one).mpr ⟨v, held, write _⟩, ?_, ?_⟩
    · rw [admitsIn_one sent one held, free]
    · rw [normalizedIn_one sent one held, normal]
  · obtain ⟨count, middle, items, counted, readAll, rfl⟩ := (readUnder_array_iff sent array).mp read
    obtain ⟨allowed, small, before, fits⟩ := readCountUnder_ok_iff.mp counted
    obtain ⟨rfl, ys, behind, write, free, normal⟩ := readItems_canonical only readAll
    refine ⟨_, Cursor.passed_append_iff.mpr ⟨middle, before, behind⟩, fun path' => ?_, ?_, ?_⟩
    · exact (writeIn_array_iff sent array).mpr ⟨items, ys, held, allowed, small, write _ _, rfl⟩
    · rw [admitsIn_array sent array held, free, Bool.and_true]
      cases none : f.element.bodiless with
      | false => rfl
      | true =>
        have room := behind.remaining
        rw [writeItems_bodiless none (write "" 0), List.length_nil, Nat.zero_add] at room
        rw [f.element.bodiless_iff.mp none, room] at fits
        simpa using fits
    · rw [normalizedIn_array sent array held, normal]

theorem readAllUnder_canonical (only : ∀ f ∈ fs, ReadsWritten guard f.element)
    {entries : List (String × Value)} (read : readAllUnder guard fs path c = .ok entries c')
    (held : ∀ key v, (key, v) ∈ entries → m.get? key = some v) :
    ∃ bytes, c.Passed bytes c' ∧ (∀ path', writeAll fs m path' = .ofBytes bytes) ∧
      admitsAll guard fs m c'.remaining = true ∧ normalizedAll fs m = entries := by
  induction fs generalizing entries c with
  | nil =>
    rw [readAllUnder] at read
    obtain ⟨rfl, rfl⟩ := Stateful.pure_ok_iff.mp read
    refine ⟨[], Cursor.passed_nil_iff.mpr rfl, fun _ => ?_, ?_, ?_⟩
    · rw [writeAll]
      rfl
    · rw [admitsAll]
    · rw [normalizedAll]
  | cons f fs ih =>
    obtain ⟨v, middle, rest, first, others, rfl⟩ := readAllUnder_cons_iff.mp read
    obtain ⟨xs, before, write, free, normal⟩ :=
      readUnder_canonical (only f List.mem_cons_self) first (held _ _ List.mem_cons_self)
    obtain ⟨ys, behind, writeRest, freeRest, normalRest⟩ :=
      ih (fun g member => only g (List.mem_cons_of_mem _ member)) others
        fun key v member => held key v (List.mem_cons_of_mem _ member)
    refine ⟨xs ++ ys, Cursor.passed_append_iff.mpr ⟨middle, before, behind⟩, fun path' => ?_, ?_, ?_⟩
    · exact writeAll_cons_iff.mpr ⟨xs, ys, write path', writeRest path', rfl⟩
    · have room : middle.remaining = ys.length + c'.remaining := behind.remaining
      rw [admitsAll, writeRest, freeRest, Bool.and_true]
      exact room ▸ free
    · rw [normalizedAll, normal, normalRest]

theorem readAllUnder_keys {entries : List (String × Value)}
    (read : readAllUnder guard fs path c = .ok entries c') :
    entries.map (·.1) = fs.map (·.accessor) := by
  induction fs generalizing entries c with
  | nil =>
    rw [readAllUnder] at read
    obtain ⟨rfl, rfl⟩ := Stateful.pure_ok_iff.mp read
    rfl
  | cons f fs ih =>
    obtain ⟨v, middle, rest, first, others, rfl⟩ := readAllUnder_cons_iff.mp read
    rw [List.map_cons, List.map_cons, ih others]

end Field

/-- Distinct accessors keep one field from overwriting another. -/
theorem Element.readsWritten {e : Element}
    (distinct : e.Everywhere fun type => type.accessors.Nodup) : ReadsWritten guard e := by
  refine distinct.induction ?_ ?_
  · intro p v path c c' read
    rw [readUnder, Primitive.read_ok_iff path] at read
    obtain ⟨bytes, passed, same, written⟩ := read
    refine ⟨bytes, passed, fun path' => ?_, ?_, ?_⟩
    · rw [write, if_pos same]
      exact (Value.primitiveBytes_ok same written path').1
    · rw [admits]
    · rw [normalized]
  · intro type distinct ih v path c c' read
    obtain ⟨entries, readAll, rfl⟩ := readUnder_message_iff.mp read
    have keys : (entries.map (·.1)).Nodup := by
      rw [Field.readAllUnder_keys readAll]
      exact distinct
    -- No entry overwrites another one, so each is found again in the message.
    have held : ∀ key v, (key, v) ∈ entries →
        (⟨type.id, Keyed.ofList entries⟩ : Message).get? key = some v := by
      intro key v member
      show (Keyed.ofList entries).lookup key = some v
      rw [Keyed.lookup_ofList keys, Keyed.lookup_eq_some keys member]
    obtain ⟨bytes, passed, write, free, normal⟩ := Field.readAllUnder_canonical ih readAll held
    refine ⟨bytes, passed, fun path' => ?_, ?_, ?_⟩
    · rw [Element.write, MessageType.writeAt_eq, write]
    · rw [admits, MessageType.admits_eq, free]
    · rw [normalized, MessageType.normalized_eq, normal]

end TopicWire
