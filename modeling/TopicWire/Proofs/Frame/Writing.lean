import TopicWire.Proofs.Frame.Pieces
import TopicWire.Proofs.Header.RoundTrip
import TopicWire.Proofs.Wire.Codec

/-!
# Streams that are read back

A header and messages of any types are written to one stream. Whatever the pieces in which the
stream arrives, the header comes out of it first, then every message that was written, and then
nothing (`written_read`). A message that does not encode leaves no trace.
-/

namespace TopicWire

namespace Stream

variable {s : Stream} {body rest : Bytes} {failures : List String} {max : Nat}

theorem Spells.read_framed (spells : s.Spells ⟨Frame.framed body ++ rest, failures⟩)
    (small : body.length ≤ max) (limit : max < 0x100000000) :
    ∃ s', Frame.read max s = (.ok (some body), s') ∧ s'.Spells ⟨rest, failures⟩ := by
  obtain ⟨s', first, spells⟩ := spells.read max
  rw [Flat.frame_framed small limit] at first spells
  exact ⟨s', first, spells⟩

theorem Spells.read_end (spells : s.Spells ⟨[], []⟩) (max : Nat) :
    Frame.read max s = (.ok none, []) := by
  rw [Frame.read, spells.fill_short rfl (Nat.zero_lt_succ 3)]

end Stream

namespace Frame

variable {type : MessageType} {m : Message} {frame : Bytes} {max : Nat}

/-- Writes messages one after the other, each of its own type, behind what was written before. -/
def writeMessages (written : Bytes) (sends : List (MessageType × Message)) : Bytes :=
  sends.foldl (fun written send => (writeMessage written send.1 send.2).1) written

/-- Reads messages of these types one after the other, also after an error. -/
def readMessages (max : Nat) :
    List MessageType → Stream → List (Except LinkError (Option Message)) × Stream
  | [], s => ([], s)
  | type :: types, s =>
    let (message, s) := readMessage max type s
    let (messages, s) := readMessages max types s
    (message :: messages, s)

/-- The messages that encode. -/
def encoding (sends : List (MessageType × Message)) : List (MessageType × Message) :=
  sends.filter fun send => (send.1.encode send.2).isOk

theorem writeMessage_of_ok (encoded : type.encode m = .ok frame) (written : Bytes) :
    writeMessage written type m = (written ++ frame, .ok ()) := by
  rw [writeMessage, encoded]

theorem writeMessage_of_error {e : WireError} (refused : type.encode m = .error e)
    (written : Bytes) : writeMessage written type m = (written, .error (.wire e)) := by
  rw [writeMessage, refused]

theorem writeMessages_append (written : Bytes) (sends : List (MessageType × Message)) :
    writeMessages written sends = written ++ writeMessages [] sends := by
  induction sends generalizing written with
  | nil => exact (List.append_nil written).symm
  | cons send sends ih =>
    rw [writeMessages, List.foldl_cons, writeMessages, List.foldl_cons]
    change writeMessages _ sends = written ++ writeMessages _ sends
    cases encoded : send.1.encode send.2 with
    | ok frame =>
      rw [writeMessage_of_ok encoded, writeMessage_of_ok encoded, ih, ih (_ ++ _),
        List.append_assoc, List.nil_append]
    | error e => rw [writeMessage_of_error encoded, writeMessage_of_error encoded, ih]

theorem writeMessages_cons_of_ok (encoded : type.encode m = .ok frame)
    (sends : List (MessageType × Message)) :
    writeMessages [] ((type, m) :: sends) = frame ++ writeMessages [] sends ∧
      encoding ((type, m) :: sends) = (type, m) :: encoding sends := by
  constructor
  · rw [← writeMessages_append, writeMessages, List.foldl_cons, writeMessage_of_ok encoded]
    rfl
  · exact List.filter_cons_of_pos (by simp [encoded, Except.isOk, Except.toBool])

theorem writeMessages_cons_of_error {e : WireError} (refused : type.encode m = .error e)
    (sends : List (MessageType × Message)) :
    writeMessages [] ((type, m) :: sends) = writeMessages [] sends ∧
      encoding ((type, m) :: sends) = encoding sends := by
  constructor
  · rw [writeMessages, List.foldl_cons, writeMessage_of_error refused]
    rfl
  · exact List.filter_cons_of_neg (by simp [refused, Except.isOk, Except.toBool])

/-- A message that was written is read in normal form, and the read stops where the write did. -/
theorem readMessage_encoded {s : Stream} {rest : Bytes} {failures : List String}
    (bodies : type.ItemsHaveBodies) (encoded : type.encode m = .ok frame)
    (small : frame.length ≤ 4 + max) (limit : max < 0x100000000)
    (spells : s.Spells ⟨frame ++ rest, failures⟩) :
    ∃ s', readMessage max type s = (.ok (some (type.normalized m)), s') ∧
      s'.Spells ⟨rest, failures⟩ := by
  obtain ⟨body, written, -, rfl⟩ := MessageType.encode_ok_iff.mp encoded
  have decoded := MessageType.decodeBody_written written
    (MessageType.admits_of_itemsHaveBodies bodies m 0)
  have fits : body.length ≤ max := by
    rw [List.length_append, Bytes.length_littleEndian] at small
    omega
  obtain ⟨s', read, spells⟩ := spells.read_framed fits limit
  refine ⟨s', ?_, spells⟩
  rw [readMessage, read]
  show (messageOf type (some body), s') = _
  rw [messageOf, decoded]

theorem readMessages_written {sends : List (MessageType × Message)} {s : Stream}
    {failures : List String} (bodies : ∀ send ∈ sends, send.1.ItemsHaveBodies)
    (small : ∀ send ∈ sends, ∀ frame, send.1.encode send.2 = .ok frame → frame.length ≤ 4 + max)
    (limit : max < 0x100000000) (spells : s.Spells ⟨writeMessages [] sends, failures⟩) :
    ∃ s', readMessages max ((encoding sends).map (·.1)) s =
        ((encoding sends).map fun send => .ok (some (send.1.normalized send.2)), s') ∧
      s'.Spells ⟨[], failures⟩ := by
  induction sends generalizing s with
  | nil => exact ⟨s, rfl, spells⟩
  | cons send sends ih =>
    obtain ⟨type, m⟩ := send
    have bodiesLater : ∀ send ∈ sends, send.1.ItemsHaveBodies :=
      fun send there => bodies send (.tail _ there)
    have smallLater := fun send there => small send (.tail _ there)
    cases encoded : type.encode m with
    | ok frame =>
      obtain ⟨all, kept⟩ := writeMessages_cons_of_ok encoded sends
      rw [all] at spells
      obtain ⟨s₁, first, spells⟩ := readMessage_encoded (bodies _ (.head _)) encoded
        (small _ (.head _) frame encoded) limit spells
      obtain ⟨s₂, others, spells⟩ := ih bodiesLater smallLater spells
      refine ⟨s₂, ?_, spells⟩
      rw [kept, List.map_cons, List.map_cons]
      simp only [readMessages, first, others]
    | error e =>
      obtain ⟨all, kept⟩ := writeMessages_cons_of_error encoded sends
      rw [all] at spells
      rw [kept]
      exact ih bodiesLater smallLater spells

/-- What was written is read back under any cut of the stream: the header, every message that
encodes, in normal form, and then nothing. A message that does not encode is refused, and nothing is
written for it. -/
theorem written_read {header : Header} {sends : List (MessageType × Message)} {pieces : List Bytes}
    (limit : max < 0x100000000) (fits : header.encodeFields.length ≤ max)
    (bodies : ∀ send ∈ sends, send.1.ItemsHaveBodies)
    (small : ∀ send ∈ sends, ∀ frame, send.1.encode send.2 = .ok frame → frame.length ≤ 4 + max)
    (filled : ∀ p ∈ pieces, p ≠ [])
    (whole : pieces.flatten = writeMessages (writeHeader [] header) sends) :
    (∃ s s', readHeader max (.cut pieces []) = (.ok header, s) ∧
      readMessages max ((encoding sends).map (·.1)) s =
        ((encoding sends).map fun send => .ok (some (send.1.normalized send.2)), s') ∧
      ∀ type, readMessage max type s' = (.ok none, [])) ∧
    ∀ written type m e, type.encode m = .error e →
      writeMessage written type m = (written, .error (.wire e)) := by
  refine ⟨?_, fun written type m e refused => writeMessage_of_error refused written⟩
  have spells := Stream.spells_cut filled []
  have front : writeMessages (writeHeader [] header) sends =
      framed header.encodeFields ++ writeMessages [] sends := writeMessages_append _ sends
  rw [whole, front] at spells
  obtain ⟨s, first, spells⟩ := spells.read_framed fits limit
  obtain ⟨s', messages, spells⟩ := readMessages_written bodies small limit spells
  have decoded := header.decodeFields_encodeFields (Nat.lt_of_le_of_lt fits limit)
  refine ⟨s, s', ?_, messages, fun type => ?_⟩
  · rw [readHeader, first]
    show (Header.decodeFields header.encodeFields, s) = _
    rw [decoded]
  · rw [readMessage, spells.read_end]
    rfl

/-! ### A signal between paths -/

/-- Messages that are nothing but their arrival. -/
def signalType : MessageType :=
  ⟨"geo/Signal", some "geo", "Signal", "signal", "", []⟩

/-- A path, a path without its points, which does not encode, a signal and the path again. -/
def mixedSends : List (MessageType × Message) :=
  [(.pathType, MessageType.onePoint), (.pathType, ⟨"", []⟩), (signalType, ⟨"", []⟩),
    (.pathType, MessageType.onePoint)]

/-- The stream in pieces of one byte. -/
def mixedPieces : List Bytes :=
  (writeMessages (writeHeader [] { callerId := some "/a=b" }) mixedSends).map fun b => [b]

theorem mixed_read :
    (∀ p ∈ mixedPieces, p ≠ []) ∧
      ∃ s s', readHeader 64 (.cut mixedPieces []) = (.ok { callerId := some "/a=b" }, s) ∧
        readMessages 64 [.pathType, signalType, .pathType] s =
          ([.ok (some (MessageType.pathType.normalized MessageType.onePoint)),
            .ok (some ⟨"geo/Signal", []⟩),
            .ok (some (MessageType.pathType.normalized MessageType.onePoint))], s') ∧
        readMessage 64 signalType s' = (.ok none, []) := by
  have filled : ∀ p ∈ mixedPieces, p ≠ [] := by
    intro p member
    obtain ⟨b, -, rfl⟩ := List.mem_map.mp member
    exact List.cons_ne_nil b []
  have whole : mixedPieces.flatten =
      writeMessages (writeHeader [] { callerId := some "/a=b" }) mixedSends := by
    rw [mixedPieces, ← List.flatMap_def, List.flatMap_singleton']
  have signals : signalType.ItemsHaveBodies :=
    .flat (fun f member => by cases member) fun f member => by cases member
  have bodies : ∀ send ∈ mixedSends, send.1.ItemsHaveBodies := by
    simp only [mixedSends, List.forall_mem_cons]
    exact ⟨MessageType.pathType_itemsHaveBodies, MessageType.pathType_itemsHaveBodies, signals,
      MessageType.pathType_itemsHaveBodies, fun send none => by cases none⟩
  have small : ∀ send ∈ mixedSends, ∀ frame, send.1.encode send.2 = .ok frame →
      frame.length ≤ 4 + 64 := by
    have lengths : ∀ send ∈ mixedSends,
        ((send.1.encode send.2).toOption.all fun frame => frame.length ≤ 4 + 64) = true := by
      decide +kernel
    intro send member frame encoded
    have length := lengths send member
    rw [encoded] at length
    exact of_decide_eq_true length
  obtain ⟨⟨s, s', header, messages, done⟩, -⟩ := written_read (show 64 < 0x100000000 by decide)
    (show ({ callerId := some "/a=b" } : Header).encodeFields.length ≤ 64 by decide +kernel)
    bodies small filled whole
  exact ⟨filled, s, s', header, messages, done signalType⟩

end Frame

end TopicWire
