import TopicWire.Proofs.Wire.Admission
import TopicWire.Proofs.Wire.Normal
import TopicWire.Proofs.Wire.Primitive

/-!
# What was written is read

A reader under a sound guard takes what was written back to its normal form, wherever it stands in
the bytes, as long as the guard admits it.
-/

namespace TopicWire

/-- Reading takes what was written for a value to the normal form of the value. -/
def ReadsBack (guard : Guard) (e : Element) : Prop :=
  ∀ ⦃v path bytes c c'⦄, e.write v path = .ofBytes bytes → c.Passed bytes c' →
    e.admits guard v c'.remaining = true →
    ∀ path', e.readUnder guard path' c = .ok (e.normalized v) c'

variable {guard : Guard}

theorem readItems_written {e : Element} (back : ReadsBack guard e) {path : String} {index : Nat}
    {items : List Value} {bytes : Bytes} {c c' : Cursor}
    (written : writeItems e.write path index items = .ofBytes bytes) (passed : c.Passed bytes c')
    (admitted : admitsItems (e.admits guard) e.write items c'.remaining = true)
    (path' : String) (index' : Nat) :
    readItems (e.readUnder guard) path' index' items.length c =
      .ok (items.map e.normalized) c' := by
  induction items generalizing index index' bytes c with
  | nil =>
    obtain rfl := Written.nothing_eq_ofBytes.mp written
    obtain rfl := Cursor.passed_nil_iff.mp passed
    rfl
  | cons v vs ih =>
    obtain ⟨xs, ys, first, others, rfl⟩ := writeItems_cons_iff.mp written
    obtain ⟨middle, before, behind⟩ := Cursor.passed_append_iff.mp passed
    rw [admitsItems, Bool.and_eq_true, (writeItems_ok e.sized others "" 0).1] at admitted
    have room : middle.remaining = ys.length + c'.remaining := behind.remaining
    rw [List.length_cons, readItems_succ_iff]
    exact ⟨_, middle, _, back first before (room ▸ admitted.1) _,
      ih others behind admitted.2 (index' + 1), rfl⟩

namespace Field

variable {f : Field} {fs : List Field} {m : Message} {path : String} {bytes : Bytes} {c c' : Cursor}

theorem readUnder_written (sound : guard.Sound) (back : ReadsBack guard f.element)
    (written : f.writeIn m path = .ofBytes bytes) (passed : c.Passed bytes c')
    (admitted : f.admitsIn guard m c'.remaining = true) (path' : String) :
    ∃ v, f.normalizedIn m = some v ∧ f.readUnder guard path' c = .ok v c' := by
  rcases f.constant_or_one_or_array with constant | ⟨sent, one⟩ | ⟨sent, array⟩
  · obtain ⟨literal, given⟩ := Option.isSome_iff_exists.mp constant
    rw [writeIn_constant constant] at written
    obtain rfl := Written.nothing_eq_ofBytes.mp written
    obtain rfl := Cursor.passed_nil_iff.mp passed
    rw [readUnder_constant given]
    exact ⟨literal, normalizedIn_constant given, rfl⟩
  · obtain ⟨v, held, write⟩ := (writeIn_one_iff sent one).mp written
    rw [admitsIn_one sent one held] at admitted
    rw [readUnder_one sent one]
    exact ⟨_, normalizedIn_one sent one held, back write passed admitted path'⟩
  · obtain ⟨items, ys, held, allowed, small, write, rfl⟩ := (writeIn_array_iff sent array).mp written
    obtain ⟨middle, count, behind⟩ := Cursor.passed_append_iff.mp passed
    rw [admitsIn_array sent array held, Bool.and_eq_true] at admitted
    obtain ⟨free, inner⟩ := admitted
    have room : middle.remaining = ys.length + c'.remaining := behind.remaining
    -- Soundness of the guard settles items with a body; of the others nothing was written.
    have fits : guard f.element.minSize items.length middle.remaining = true := by
      cases none : f.element.bodiless with
      | true =>
        obtain rfl := writeItems_bodiless none write
        rw [f.element.bodiless_iff.mp none, room, List.length_nil, Nat.zero_add]
        simpa [none] using free
      | false =>
        have bodies : f.element.minSize ≠ 0 := by
          intro zero
          rw [f.element.bodiless_iff.mpr zero] at none
          cases none
        have long := (writeItems_ok f.element.sized write "" 0).2.2
        exact sound _ _ _ (by omega) (by omega)
    refine ⟨_, normalizedIn_array sent array held, (readUnder_array_iff sent array).mpr ?_⟩
    exact ⟨items.length, middle, _, readCountUnder_ok_iff.mpr ⟨allowed, small, count, fits⟩,
      readItems_written back write behind inner path' 0, rfl⟩

theorem readAllUnder_written (sound : guard.Sound) (back : ∀ f ∈ fs, ReadsBack guard f.element)
    (written : writeAll fs m path = .ofBytes bytes) (passed : c.Passed bytes c')
    (admitted : admitsAll guard fs m c'.remaining = true) (path' : String) :
    readAllUnder guard fs path' c = .ok (normalizedAll fs m) c' := by
  induction fs generalizing bytes c with
  | nil =>
    rw [writeAll] at written
    obtain rfl := Written.nothing_eq_ofBytes.mp written
    obtain rfl := Cursor.passed_nil_iff.mp passed
    rw [readAllUnder, normalizedAll]
    rfl
  | cons f fs ih =>
    obtain ⟨xs, ys, first, others, rfl⟩ := writeAll_cons_iff.mp written
    obtain ⟨middle, before, behind⟩ := Cursor.passed_append_iff.mp passed
    have again := (writeAll_ok (fun g _ => g.element.sized) others "").1
    rw [admitsAll, Bool.and_eq_true, again] at admitted
    have room : middle.remaining = ys.length + c'.remaining := behind.remaining
    obtain ⟨v, normal, read⟩ := readUnder_written sound (back f List.mem_cons_self) first before
      (room ▸ admitted.1) (fieldPath path' f.accessor)
    have rest := ih (fun g member => back g (List.mem_cons_of_mem _ member)) others behind admitted.2
    rw [readAllUnder_cons_iff, normalizedAll, normal]
    exact ⟨v, middle, _, read, rest, rfl⟩

end Field

theorem Element.readsBack (sound : guard.Sound) (e : Element) : ReadsBack guard e := by
  induction e using Element.induction with
  | primitive p =>
    intro v path bytes c c' written passed _ path'
    rw [write] at written
    split at written
    · rename_i same
      rw [readUnder, normalized, Primitive.read_ok_iff path]
      exact ⟨bytes, passed, same, written⟩
    · exact (Written.ofFault_ne_ofBytes written).elim
  | message type ih =>
    intro v path bytes c c' written passed admitted path'
    cases v with
    | message m =>
      rw [write, MessageType.writeAt_eq] at written
      rw [admits, MessageType.admits_eq] at admitted
      rw [readUnder_message_iff, normalized, MessageType.normalized_eq]
      exact ⟨_, Field.readAllUnder_written sound ih written passed admitted path', rfl⟩
    | _ => simp [write] at written

end TopicWire
