import TopicWire.Proofs.Result
import TopicWire.Proofs.Wire.Guard

/-!
# Bodies and frames

A body is decoded if reading the message ends at its end, and a frame if it is the length of a body
with that body behind it.
-/

namespace TopicWire

theorem Decoder.expectEnd_ok_iff {c c' : Cursor} :
    Decoder.expectEnd c = .ok () c' ↔ c.rest = [] ∧ c = c' := by
  unfold expectEnd
  simp only [Stateful.bind_ok_iff, Decoder.remaining_ok_iff]
  constructor
  · rintro ⟨_, _, ⟨rfl, rfl⟩, h⟩
    split at h
    · exact (Stateful.throw_ok h).elim
    · rename_i empty
      obtain ⟨-, rfl⟩ := Stateful.pure_ok_iff.mp h
      exact ⟨by simpa [Cursor.remaining] using empty, rfl⟩
  · rintro ⟨empty, rfl⟩
    refine ⟨_, c, ⟨rfl, rfl⟩, ?_⟩
    rw [Cursor.remaining, empty]
    rfl

/-- The body of a frame, which must be as long as the frame says. -/
def unframe : Decoder Bytes := do
  let declared ← Decoder.word 4
  let actual ← Decoder.remaining
  if declared ≠ actual then throw (.lengthMismatch declared actual)
  Decoder.take declared

theorem run_unframe_ok_iff {body frame : Bytes} :
    Decoder.run unframe frame = .ok body ↔
      body.length < 0x100000000 ∧ frame = Bytes.littleEndian 4 body.length ++ body := by
  rw [Decoder.run_ok_iff]
  unfold unframe
  simp only [Stateful.bind_ok_iff, Decoder.word_ok_iff, Decoder.remaining_ok_iff]
  constructor
  · rintro ⟨last, n, middle, ⟨small, length⟩, _, _, ⟨rfl, rfl⟩, h⟩
    split at h
    · obtain ⟨_, _, thrown, _⟩ := Stateful.bind_ok_iff.mp h
      exact (Stateful.throw_ok thrown).elim
    · rename_i same
      obtain ⟨rfl, passed⟩ := Decoder.take_ok_iff.mp h
      have empty : last.rest = [] := by
        have := passed.remaining
        rw [← List.length_eq_zero_iff]
        simp only [Cursor.remaining] at this same ⊢
        omega
      have start := length.rest
      rw [passed.rest, empty, List.append_nil] at start
      exact ⟨small, start⟩
  · rintro ⟨small, rfl⟩
    refine ⟨⟨4 + body.length, []⟩, body.length, ⟨4, body⟩,
      ⟨small, ⟨rfl, by simp [Cursor.start]⟩⟩, _, ⟨4, body⟩, ⟨rfl, rfl⟩, ?_⟩
    show (if body.length ≠ body.length then _ else Decoder.take body.length) _ = _
    rw [if_neg fun different => different rfl]
    exact Decoder.take_ok_iff.mpr ⟨rfl, ⟨by simp, rfl⟩⟩

namespace MessageType

variable {type : MessageType} {m : Message} {body frame : Bytes}

theorem decodeBodyUnder_ok_iff {guard : Guard} :
    type.decodeBodyUnder guard body = .ok m ↔
      ∃ last, type.readUnder guard "" (.start body) = .ok m last ∧ last.rest = [] := by
  unfold decodeBodyUnder
  rw [Decoder.run_ok_iff]
  simp only [Stateful.bind_ok_iff, Stateful.pure_ok_iff]
  constructor
  · rintro ⟨_, _, last, read, _, _, ending, rfl, rfl⟩
    obtain ⟨empty, rfl⟩ := Decoder.expectEnd_ok_iff.mp ending
    exact ⟨last, read, empty⟩
  · rintro ⟨last, read, empty⟩
    exact ⟨last, m, last, read, (), last, Decoder.expectEnd_ok_iff.mpr ⟨empty, rfl⟩, rfl, rfl⟩

/-- A frame is decoded if it is a body that is decoded, with its length in front. -/
theorem decode_ok_iff :
    type.decode frame = .ok m ↔
      ∃ body, body.length < 0x100000000 ∧ frame = Bytes.littleEndian 4 body.length ++ body ∧
        type.decodeBody body = .ok m := by
  show (do let body ← Decoder.run unframe frame; type.decodeBody body) = .ok m ↔ _
  rw [Result.bind_ok_iff]
  simp only [run_unframe_ok_iff, and_assoc]

theorem encodeBody_ok_iff {out : Bytes} :
    type.encodeBody m out = (out ++ body, .ok ()) ↔ type.writeAt m "" = .ofBytes body := by
  show (out ++ (type.writeAt m "").bytes, (type.writeAt m "").result.map fun _ => ()) = _ ↔ _
  obtain ⟨bytes, fault⟩ := type.writeAt m ""
  cases fault <;> simp [Written.result, Written.ofBytes, Except.map]

theorem encode_ok_iff :
    type.encode m = .ok frame ↔
      ∃ body, type.writeAt m "" = .ofBytes body ∧ body.length < 0x100000000 ∧
        frame = Bytes.littleEndian 4 body.length ++ body := by
  unfold encode size
  constructor
  · intro h
    obtain ⟨n, counted, h⟩ := Result.bind_ok_iff.mp h
    obtain ⟨_, body, length, written, rfl⟩ :=
      Written.andThen_eq_ofBytes_iff.mp (Written.result_eq_ok_iff.mp h)
    obtain ⟨small, rfl⟩ := lengthBytes_ok_iff.mp length
    obtain rfl : n = body.length :=
      Except.ok.inj (counted.symm.trans (writeAt_ok written "").2)
    exact ⟨body, written, small, rfl⟩
  · rintro ⟨body, written, small, rfl⟩
    refine Result.bind_ok_iff.mpr ⟨body.length, (writeAt_ok written "").2, ?_⟩
    rw [Written.result_eq_ok_iff, Written.andThen_eq_ofBytes_iff]
    exact ⟨_, body, lengthBytes_ok_iff.mpr ⟨small, rfl⟩, written, rfl⟩

end MessageType

end TopicWire
