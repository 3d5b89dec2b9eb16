import TopicWire.Proofs.MessageType.Valid
import TopicWire.Proofs.Wire.Complete
import TopicWire.Session.Publisher

/-!
# Publishing a default

The default of a type is complete, so a publisher sends it unless a constant in it is NaN
(`MessageType.default_publishable`).
-/

namespace TopicWire

namespace Publisher

variable {p : Publisher} {m : Message}

theorem publish_invalid (usable : p.phase ≠ .closed) {v : Violation}
    (invalid : p.type.validate m true = .error v) :
    p.publish m = (.error (.wire (.violation v)), p) := by
  have refused : p.frameOf m = .error (.wire (.violation v)) := by
    rw [frameOf, if_neg usable, invalid]
  rw [publish, refused]

theorem publish_valid (usable : p.phase ≠ .closed) (valid : p.type.validate m true = .ok ())
    {frame : Bytes} (encoded : p.type.encode m = .ok frame) :
    ∃ reached, (p.publish m).1 = .ok reached := by
  have made : p.frameOf m = .ok frame := by
    simp only [frameOf, if_neg usable, valid, encoded]
  rw [publish, made]
  exact ⟨_, rfl⟩

end Publisher

namespace MessageType

variable {type : MessageType}

/-- The default of a type is valid exactly if no constant in it is NaN. If its lengths can be told in
four bytes it is encoded in any case, and a publisher sends it if it is valid. -/
theorem default_publishable (made : type.Compiled) :
    (type.validate type.default true = .ok () ∨
      ∃ path, type.validate type.default true = .error (.constantModified path) ∧
        type.NaNAt type.default path) ∧
    (type.validate type.default true = .ok () ↔ ∀ path, ¬ type.NaNAt type.default path) ∧
    ∃ size, type.size type.default = .ok size ∧
      (type.default.countsFit = true → size < 0x100000000 →
        (∃ frame, type.encode type.default = .ok frame) ∧
        ∀ p : Publisher, p.type = type → p.phase ≠ .closed →
          ((∃ reached, (p.publish type.default).1 = .ok reached) ↔
            ∀ path, ¬ type.NaNAt type.default path)) := by
  have complete : type.Complete type.default := default_complete made.wellFormed
  have settles : Settles (type.validate type.default true) (type.NaNAt type.default) :=
    complete.validate_settles made.wellFormed
  obtain ⟨size, sized, encodes⟩ := complete.encode
  refine ⟨settles, complete.valid_iff made.wellFormed, size, sized, fun fit small => ?_⟩
  obtain ⟨frame, encoded⟩ := encodes fit small
  refine ⟨⟨frame, encoded⟩, ?_⟩
  rintro p rfl usable
  rw [← complete.valid_iff made.wellFormed]
  constructor
  · rintro ⟨reached, sent⟩
    rcases settles with valid | ⟨path, invalid, -⟩
    · exact valid
    · rw [Publisher.publish_invalid usable invalid] at sent
      cases sent
  · intro valid
    exact Publisher.publish_valid usable valid encoded

/-- The default of a type with limits inside is encoded, but never sent. -/
theorem ranges_refused :
    rangeType.Compiled ∧
      rangeType.validate rangeType.default true = .error (.constantModified "limits[0].LIMIT") ∧
      rangeType.encode rangeType.default = .ok [6, 0, 0, 0, 2, 0, 0, 0, 0, 0] ∧
      ∀ p : Publisher, p.type = rangeType → p.phase ≠ .closed →
        ¬ ∃ reached, (p.publish rangeType.default).1 = .ok reached := by
  have invalid : rangeType.validate rangeType.default true =
      .error (.constantModified "limits[0].LIMIT") := by decide +kernel
  obtain ⟨-, valid, size, sized, sends⟩ := default_publishable rangeType_compiled
  obtain rfl : 6 = size := Except.ok.inj sized
  refine ⟨rangeType_compiled, invalid, rfl, fun p same usable sent => ?_⟩
  have none := ((sends rfl (by decide)).2 p same usable).mp sent
  rw [valid.mpr none] at invalid
  cases invalid

end MessageType

end TopicWire
