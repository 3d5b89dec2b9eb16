import TopicWire.Proofs.Wire.Body
import TopicWire.Proofs.Wire.Canonical
import TopicWire.Proofs.Wire.RoundTrip

/-!
# Coding and decoding

`MessageType.decodeBodyUnder_ok_iff_written` says exactly which bodies are decoded to which
messages. From it follow that decoding undoes encoding up to the normal form of the message, and
that encoding undoes decoding.
-/

namespace TopicWire.MessageType

variable {guard : Guard} {type : MessageType} {m : Message} {body frame : Bytes}

theorem decodeBodyUnder_written (sound : guard.Sound) (written : type.writeAt m "" = .ofBytes body)
    (admitted : type.admits guard m 0 = true) :
    type.decodeBodyUnder guard body = .ok (type.normalized m) := by
  have whole : (Element.message type).write (.message m) "" = .ofBytes body := by
    rw [Element.write, written]
  have admits : (Element.message type).admits guard (.message m) 0 = true := by
    rw [Element.admits, admitted]
  have passed : (Cursor.start body).Passed body ⟨body.length, []⟩ := by
    have := Cursor.passed_start body []
    rwa [List.append_nil] at this
  have read := Element.readsBack sound (.message type) whole passed admits ""
  rw [Element.normalized] at read
  exact decodeBodyUnder_ok_iff.mpr ⟨_, readUnder_ok_iff.mpr read, rfl⟩

theorem written_of_decodeBodyUnder (distinct : type.Everywhere fun type => type.accessors.Nodup)
    (decoded : type.decodeBodyUnder guard body = .ok m) :
    type.writeAt m "" = .ofBytes body ∧ type.admits guard m 0 = true ∧ type.normalized m = m := by
  obtain ⟨last, read, empty⟩ := decodeBodyUnder_ok_iff.mp decoded
  obtain ⟨bytes, passed, write, admits, normal⟩ :=
    Element.readsWritten distinct.element (readUnder_ok_iff.mp read)
  obtain rfl : body = bytes := by
    have all := passed.rest
    rwa [empty, List.append_nil] at all
  have left : last.remaining = 0 := by rw [Cursor.remaining, empty, List.length_nil]
  have whole := write ""
  rw [Element.write] at whole
  rw [left, Element.admits] at admits
  rw [Element.normalized, Value.message.injEq] at normal
  exact ⟨whole, admits, normal⟩

/-- A body is decoded to a message in normal form if it is what is written for the message and the
guard lets it through. -/
theorem decodeBodyUnder_ok_iff_written (sound : guard.Sound) (made : type.Compiled) :
    type.decodeBodyUnder guard body = .ok m ↔
      type.writeAt m "" = .ofBytes body ∧ type.admits guard m 0 = true ∧ type.normalized m = m := by
  constructor
  · exact written_of_decodeBodyUnder made.accessors_nodup
  · rintro ⟨written, admitted, normal⟩
    rw [decodeBodyUnder_written sound written admitted, normal]

theorem decodeBody_written (written : type.writeAt m "" = .ofBytes body)
    (admitted : type.admits .clamped m 0 = true) :
    type.decodeBody body = .ok (type.normalized m) := by
  rw [← decodeBodyUnder_clamped]
  exact decodeBodyUnder_written Guard.clamped_sound written admitted

theorem written_of_decodeBody (made : type.Compiled) (decoded : type.decodeBody body = .ok m) :
    type.writeAt m "" = .ofBytes body ∧ type.admits .clamped m 0 = true ∧ type.normalized m = m := by
  rw [← decodeBodyUnder_clamped] at decoded
  exact written_of_decodeBodyUnder made.accessors_nodup decoded

/-- Decoding undoes encoding: the message comes back in normal form, with the id and the constants of
its type and without keys that the type does not have. -/
theorem decode_encode (made : type.Compiled) (bodies : type.ItemsHaveBodies)
    (encoded : type.encode m = .ok frame) :
    type.decode frame = .ok (type.normalized m) ∧ (type.normalized m).typeId = type.id ∧
      ∀ key, (type.normalized m).get? key = (type.field? key).bind (·.normalizedIn m) := by
  obtain ⟨body, written, small, rfl⟩ := encode_ok_iff.mp encoded
  have decoded := decodeBody_written written (admits_of_itemsHaveBodies bodies m 0)
  refine ⟨decode_ok_iff.mpr ⟨body, small, rfl, decoded⟩, ?_, ?_⟩
  · rw [normalized_eq]
  · exact get?_normalized made.accessors_nodup.here m

/-! ### A path of points -/

/-- Points: `int32 x` and the constant `uint8 DIM=1`. -/
def pointType : MessageType :=
  ⟨"geo/Point", some "geo", "Point", "point", "",
    [⟨⟨"x", "int32", none, 1⟩, "x", .primitive .int32, .one, none⟩,
      ⟨⟨"DIM", "uint8", some "1", 2⟩, "DIM", .primitive .uint8, .one, some (.uint8 1)⟩]⟩

/-- Paths: `Point[] points`. -/
def pathType : MessageType :=
  ⟨"geo/Path", some "geo", "Path", "path", "",
    [⟨⟨"points", "Point[]", none, 1⟩, "points", .message pointType, .many, none⟩]⟩

theorem pointType_compiled : pointType.Compiled := by
  have made : ofLines "geo/Point" [⟨"x", "int32", none, 1⟩, ⟨"DIM", "uint8", some "1", 2⟩] "point"
      (fun _ => none) = .ok pointType := by rfl
  exact .alone made

theorem pathType_compiled : pathType.Compiled := by
  have made : ofLines "geo/Path" [⟨"points", "Point[]", none, 1⟩] "path"
      (fun id => if id = "geo/Point" then some pointType else none) = .ok pathType := by rfl
  exact pointType_compiled.above made

theorem pathType_itemsHaveBodies : pathType.ItemsHaveBodies := by
  have points : pointType.ItemsHaveBodies := by
    refine .flat (fun f member => ?_) fun f member => ?_
    · rcases List.mem_cons.mp member with rfl | later
      · intro _ array
        exact (array rfl).elim
      · rw [List.mem_singleton.mp later]
        intro constant
        cases constant
    · rcases List.mem_cons.mp member with rfl | later
      · exact ⟨.int32, rfl⟩
      · rw [List.mem_singleton.mp later]
        exact ⟨.uint8, rfl⟩
  refine .intro (fun f member => ?_) fun f member inner holds => ?_
  · rw [List.mem_singleton.mp member]
    intro _ _
    rfl
  · rw [List.mem_singleton.mp member] at holds
    cases holds
    exact points

/-- One point, without its constant and with a key that points do not have. -/
def onePoint : Message :=
  ⟨"", [("points", .array [.message ⟨"", [("x", .int32 7), ("y", .int32 8)]⟩])]⟩

theorem path_received :
    pathType.Compiled ∧ pathType.ItemsHaveBodies ∧
      pathType.encode onePoint = .ok [8, 0, 0, 0, 1, 0, 0, 0, 7, 0, 0, 0] ∧
      pathType.decode [8, 0, 0, 0, 1, 0, 0, 0, 7, 0, 0, 0] = .ok (pathType.normalized onePoint) ∧
      pathType.normalized onePoint = ⟨"geo/Path", [("points", .array
        [.message ⟨"geo/Point", [("DIM", .uint8 1), ("x", .int32 7)]⟩])]⟩ := by
  have sent : pathType.encode onePoint = .ok [8, 0, 0, 0, 1, 0, 0, 0, 7, 0, 0, 0] := by rfl
  exact ⟨pathType_compiled, pathType_itemsHaveBodies, sent,
    (decode_encode pathType_compiled pathType_itemsHaveBodies sent).1, rfl⟩

/-- Encoding undoes decoding, so no message has two bodies or two frames. -/
theorem encode_decode (made : type.Compiled) :
    (∀ body m, type.decodeBody body = .ok m →
      (∀ out, type.encodeBody m out = (out ++ body, .ok ())) ∧ type.size m = .ok body.length) ∧
    (∀ frame m, type.decode frame = .ok m → type.encode m = .ok frame) ∧
    (∀ body body' m, type.decodeBody body = .ok m → type.decodeBody body' = .ok m → body = body') ∧
    (∀ frame frame' m, type.decode frame = .ok m → type.decode frame' = .ok m → frame = frame') := by
  have bodies : ∀ body m, type.decodeBody body = .ok m →
      (∀ out, type.encodeBody m out = (out ++ body, .ok ())) ∧ type.size m = .ok body.length := by
    intro body m decoded
    obtain ⟨written, _⟩ := written_of_decodeBody made decoded
    exact ⟨fun out => encodeBody_ok_iff.mpr written, (writeAt_ok written "").2⟩
  have frames : ∀ frame m, type.decode frame = .ok m → type.encode m = .ok frame := by
    intro frame m decoded
    obtain ⟨body, small, rfl, read⟩ := decode_ok_iff.mp decoded
    exact encode_ok_iff.mpr ⟨body, (written_of_decodeBody made read).1, small, rfl⟩
  refine ⟨bodies, frames, ?_, ?_⟩
  · intro body body' m first second
    have same := ((bodies body m first).1 []).symm.trans ((bodies body' m second).1 [])
    exact (Prod.mk.inj same).1
  · intro frame frame' m first second
    exact Except.ok.inj ((frames frame m first).symm.trans (frames frame' m second))

theorem path_sent :
    pathType.Compiled ∧
      pathType.encode (pathType.normalized onePoint) = .ok [8, 0, 0, 0, 1, 0, 0, 0, 7, 0, 0, 0] := by
  have received : pathType.decode [8, 0, 0, 0, 1, 0, 0, 0, 7, 0, 0, 0] =
      .ok (pathType.normalized onePoint) := by rfl
  exact ⟨pathType_compiled, (encode_decode pathType_compiled).2.1 _ _ received⟩

end TopicWire.MessageType
