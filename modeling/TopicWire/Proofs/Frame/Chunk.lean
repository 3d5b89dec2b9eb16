import Mathlib.Data.List.Basic
import TopicWire.Frame.Chunk
import TopicWire.Header.Wire
import TopicWire.Proofs.Frame.Reading
import TopicWire.Proofs.Wire.Codec

/-!
# What a chunk is taken for

`MessageType.Captured` lists the forms that a chunk can have, and what is decoded from each. Every
chunk has one of them (`exists_captured`), and `decodeChunk_captured` says that it is treated so. From
this follows what becomes of headers and frames as they are written.
-/

namespace TopicWire

theorem occursIn_iff {pattern bytes : Bytes} : occursIn pattern bytes = true ↔ pattern <:+: bytes := by
  induction bytes with
  | nil => simp [occursIn]
  | cons b bs ih =>
    rw [occursIn, Bool.or_eq_true, ih, List.isPrefixOf_iff_prefix, List.infix_cons_iff]

theorem Bytes.eq_littleEndian_append {width : Nat} {bytes : Bytes} (long : width ≤ bytes.length) :
    ∃ n rest, n < Nat.pow 256 width ∧ bytes = Bytes.littleEndian width n ++ rest := by
  have length : (bytes.take width).length = width := List.length_take_of_le long
  have small := Bytes.ofLittleEndian_lt (bytes.take width)
  have word := Bytes.littleEndian_ofLittleEndian (bytes.take width)
  rw [length] at small word
  exact ⟨_, bytes.drop width, small, by rw [word, List.take_append_drop]⟩

/-! ### Behind a header -/

namespace Decoder

/-- The body of a frame, of which no more is read. -/
def frameBody : Decoder Bytes := do
  let length ← word 4
  take length

/-- The body of the frame behind a header of `length` bytes. -/
def behindHeader (length : Nat) : Decoder Bytes := do
  let _ ← word 4
  let _ ← take length
  frameBody

theorem behindHeader_framed {header : Bytes} (small : header.length < 0x100000000) (rest : Bytes) :
    behindHeader header.length (.start (Frame.framed header ++ rest)) =
      frameBody ⟨4 + header.length, rest⟩ := by
  have length : word 4 (.start (Frame.framed header ++ rest)) =
      .ok header.length ⟨4, header ++ rest⟩ := by
    rw [Cursor.start, Frame.framed, List.append_assoc]
    exact word_append small 0 _
  rw [behindHeader, Stateful.bind_of_ok length, Stateful.bind_of_ok (take_append header 4 rest)]

end Decoder

/-- A header with a type has the mark in it. -/
theorem Header.marked {header : Header} (typed : header.typeId.isSome) :
    headerMark <:+: header.encodeFields := by
  obtain ⟨id, given⟩ := Option.isSome_iff_exists.mp typed
  have entry : ("type", id) ∈ header.entries :=
    List.mem_filterMap.mpr ⟨("type", header.typeId), by simp, by rw [given]; rfl⟩
  have bytes : entryBytes ("type", id) =
      Bytes.littleEndian 4 (Bytes.ofText "type" ++ 61 :: Bytes.ofText id).length ++
        (headerMark ++ Bytes.ofText id) := rfl
  have inside : headerMark <:+: entryBytes ("type", id) :=
    ⟨_, _, by rw [bytes, List.append_assoc]⟩
  exact inside.trans (List.infix_of_mem_flatten (List.mem_map_of_mem entry))

/-! ### The forms of a chunk -/

namespace MessageType

variable {type : MessageType} {chunk : Bytes} {result : Except WireError (Option Message)}

/-- The forms of a chunk and what is decoded from them. Whatever is read lies inside the chunk. -/
inductive Captured (type : MessageType) : Bytes → Except WireError (Option Message) → Prop
  /-- Not even a length. -/
  | nothing {chunk : Bytes} (short : chunk.length < 4) :
      Captured type chunk (.error (.truncated 4 chunk.length 0))
  /-- A header, a frame and anything behind them. -/
  | headed {header body after : Bytes} (small : header.length < 0x100000000)
      (fits : body.length < 0x100000000) :
      Captured type (Frame.framed header ++ (Frame.framed body ++ after))
        ((type.decodeBody body).map some)
  /-- A header and a frame that ends inside its length. -/
  | lengthCut {header left : Bytes} (small : header.length < 0x100000000) (more : left ≠ [])
      (short : left.length < 4) :
      Captured type (Frame.framed header ++ left)
        (.error (.truncated 4 left.length (4 + header.length)))
  /-- A header and a frame that ends inside its body. -/
  | bodyCut {header left : Bytes} {length : Nat} (small : header.length < 0x100000000)
      (fits : length < 0x100000000) (short : left.length < length) :
      Captured type (Frame.framed header ++ (Bytes.littleEndian 4 length ++ left))
        (.error (.truncated length left.length (8 + header.length)))
  /-- Bytes with the mark of a header in them, and no more than their length says. -/
  | header {declared : Nat} {rest : Bytes} (small : declared < 0x100000000)
      (all : rest.length ≤ declared) (marked : headerMark <:+: rest) :
      Captured type (Bytes.littleEndian 4 declared ++ rest) (.ok none)
  /-- A frame alone. -/
  | frame {body : Bytes} (small : body.length < 0x100000000) (unmarked : ¬ headerMark <:+: body) :
      Captured type (Frame.framed body) ((type.decodeBody body).map some)
  /-- Less than the length says. -/
  | frameCut {declared : Nat} {rest : Bytes} (small : declared < 0x100000000)
      (short : rest.length < declared) (unmarked : ¬ headerMark <:+: rest) :
      Captured type (Bytes.littleEndian 4 declared ++ rest)
        (.error (.lengthMismatch declared rest.length))

theorem decodeChunk_nothing (short : chunk.length < 4) :
    type.decodeChunk chunk = .error (.truncated 4 chunk.length 0) := by
  have length : Decoder.run (do return (← Decoder.word 4, (← get).rest)) chunk =
      .error (.truncated 4 chunk.length 0) := by
    rw [Decoder.run, Cursor.start, Stateful.bind_of_error (Decoder.word_short short 0)]
  rw [decodeChunk, length]
  rfl

theorem decodeChunk_append {declared : Nat} (small : declared < 0x100000000) (rest : Bytes) :
    type.decodeChunk (Bytes.littleEndian 4 declared ++ rest) =
      if declared < rest.length then
        (Decoder.run (.behindHeader declared) (Bytes.littleEndian 4 declared ++ rest)).bind
          fun body => (type.decodeBody body).map some
      else if occursIn headerMark rest then .ok none
      else (type.decode (Bytes.littleEndian 4 declared ++ rest)).map some := by
  have length : Decoder.run (do return (← Decoder.word 4, (← get).rest))
      (Bytes.littleEndian 4 declared ++ rest) = .ok (declared, rest) := by
    rw [Decoder.run, Cursor.start, Stateful.bind_of_ok (Decoder.word_append small 0 rest)]
    rfl
  rw [decodeChunk, length]
  rfl

theorem decodeChunk_headed {header rest : Bytes} (small : header.length < 0x100000000)
    (more : rest ≠ []) :
    type.decodeChunk (Frame.framed header ++ rest) =
      (Decoder.run (.behindHeader header.length) (Frame.framed header ++ rest)).bind
        fun body => (type.decodeBody body).map some := by
  have longer : header.length < (header ++ rest).length := by
    have := List.length_pos_iff.mpr more
    rw [List.length_append]
    omega
  rw [Frame.framed, List.append_assoc, decodeChunk_append small, if_pos longer]

/-- A frame is decoded as its body is. -/
theorem decode_framed {body : Bytes} (small : body.length < 0x100000000) :
    type.decode (Frame.framed body) = type.decodeBody body := by
  have whole : Decoder.run unframe (Frame.framed body) = .ok body :=
    run_unframe_ok_iff.mpr ⟨small, rfl⟩
  show (do let body ← Decoder.run unframe _; type.decodeBody body) = _
  rw [whole]
  rfl

theorem decode_mismatch {declared : Nat} {rest : Bytes} (small : declared < 0x100000000)
    (differs : declared ≠ rest.length) :
    type.decode (Bytes.littleEndian 4 declared ++ rest) =
      .error (.lengthMismatch declared rest.length) := by
  have refused : Decoder.run unframe (Bytes.littleEndian 4 declared ++ rest) =
      .error (.lengthMismatch declared rest.length) := by
    have other : declared ≠ Cursor.remaining ⟨0 + 4, rest⟩ := differs
    rw [Decoder.run, unframe, Cursor.start, Stateful.bind_of_ok (Decoder.word_append small 0 rest),
      Stateful.bind_of_ok (Decoder.remaining_ok_iff.mpr ⟨rfl, rfl⟩), if_pos other]
    rfl
  show (do let body ← Decoder.run unframe _; type.decodeBody body) = _
  rw [refused]
  rfl

theorem decodeChunk_captured (captured : type.Captured chunk result) :
    type.decodeChunk chunk = result := by
  cases captured with
  | nothing short => exact decodeChunk_nothing short
  | headed small fits =>
    rename_i header body after
    have more : Frame.framed body ++ after ≠ [] :=
      List.append_ne_nil_of_left_ne_nil (Frame.framed_ne_nil body) after
    rw [decodeChunk_headed small more, Decoder.run, Decoder.behindHeader_framed small,
      Decoder.frameBody, Frame.framed, List.append_assoc,
      Stateful.bind_of_ok (Decoder.word_append fits _ _), Decoder.take_append]
    rfl
  | lengthCut small more short =>
    rw [decodeChunk_headed small more, Decoder.run, Decoder.behindHeader_framed small,
      Decoder.frameBody, Stateful.bind_of_error (Decoder.word_short short _)]
    rfl
  | bodyCut small fits short =>
    rename_i header left length
    have more : Bytes.littleEndian 4 length ++ left ≠ [] := by
      rw [← List.length_pos_iff, List.length_append, Bytes.length_littleEndian]
      omega
    have place : 4 + header.length + 4 = 8 + header.length := by omega
    rw [decodeChunk_headed small more, Decoder.run, Decoder.behindHeader_framed small,
      Decoder.frameBody, Stateful.bind_of_ok (Decoder.word_append fits _ _), Decoder.take_short short,
      place]
    rfl
  | header small all marked =>
    rw [decodeChunk_append small, if_neg (Nat.not_lt.mpr all), if_pos (occursIn_iff.mpr marked)]
  | frame small unmarked =>
    rw [Frame.framed, decodeChunk_append small, if_neg (Nat.lt_irrefl _),
      if_neg (mt occursIn_iff.mp unmarked), ← Frame.framed, decode_framed small]
  | frameCut small short unmarked =>
    rw [decodeChunk_append small, if_neg (Nat.not_lt.mpr (Nat.le_of_lt short)),
      if_neg (mt occursIn_iff.mp unmarked), decode_mismatch small (Nat.ne_of_gt short)]
    rfl

/-- Every chunk has one of the forms. -/
theorem exists_captured (type : MessageType) (chunk : Bytes) :
    ∃ result, type.Captured chunk result := by
  rcases Nat.lt_or_ge chunk.length 4 with short | long
  · exact ⟨_, .nothing short⟩
  obtain ⟨declared, rest, small, rfl⟩ := Bytes.eq_littleEndian_append long
  rcases Nat.lt_or_ge declared rest.length with more | all
  · -- The header and what is left of the chunk behind it.
    have length : (rest.take declared).length = declared := List.length_take_of_le (Nat.le_of_lt more)
    have parts : Bytes.littleEndian 4 declared ++ rest =
        Frame.framed (rest.take declared) ++ rest.drop declared := by
      rw [Frame.framed, length, List.append_assoc, List.take_append_drop]
    have more : rest.drop declared ≠ [] := by
      rw [← List.length_pos_iff, List.length_drop]
      omega
    rw [← length] at small
    rw [parts]
    generalize rest.take declared = header at small
    generalize rest.drop declared = left at more
    rcases Nat.lt_or_ge left.length 4 with short | long
    · exact ⟨_, .lengthCut small more short⟩
    obtain ⟨length, left, fits, rfl⟩ := Bytes.eq_littleEndian_append long
    rcases Nat.lt_or_ge left.length length with short | whole
    · exact ⟨_, .bodyCut small fits short⟩
    · have size : (left.take length).length = length := List.length_take_of_le whole
      have frame : Bytes.littleEndian 4 length ++ left =
          Frame.framed (left.take length) ++ left.drop length := by
        rw [Frame.framed, size, List.append_assoc, List.take_append_drop]
      rw [← size] at fits
      rw [frame]
      exact ⟨_, .headed small fits⟩
  · by_cases marked : headerMark <:+: rest
    · exact ⟨_, .header small all marked⟩
    rcases Nat.lt_or_ge rest.length declared with short | whole
    · exact ⟨_, .frameCut small short marked⟩
    · obtain rfl : declared = rest.length := Nat.le_antisymm whole all
      exact ⟨_, .frame small marked⟩

/-- A frame is found behind any header and in front of anything. A header alone gives no message, and
neither does a frame alone whose body could be taken for one. Of any other chunk no more is read than
there is. -/
theorem decodeChunk_encoded (bodies : type.ItemsHaveBodies) :
    (∀ (header : Header) m frame after, header.encode.length < 0x100000000 →
      type.encode m = .ok frame →
      type.decodeChunk (header.encode ++ frame ++ after) = .ok (some (type.normalized m))) ∧
    (∀ header : Header, header.encode.length < 0x100000000 → header.typeId.isSome →
      type.decodeChunk header.encode = .ok none) ∧
    (∀ m frame, type.encode m = .ok frame →
      (headerMark <:+: frame.drop 4 → type.decodeChunk frame = .ok none) ∧
      (¬ headerMark <:+: frame.drop 4 →
        type.decodeChunk frame = .ok (some (type.normalized m)))) ∧
    ∀ chunk, type.Captured chunk (type.decodeChunk chunk) := by
  have fields {header : Header} (small : header.encode.length < 0x100000000) :
      header.encodeFields.length < 0x100000000 := by
    rw [Header.encode, List.length_append] at small
    omega
  have received {m frame} (encoded : type.encode m = .ok frame) :
      ∃ body, body.length < 0x100000000 ∧ frame = Frame.framed body ∧
        (type.decodeBody body).map some = .ok (some (type.normalized m)) := by
    obtain ⟨body, written, small, rfl⟩ := encode_ok_iff.mp encoded
    refine ⟨body, small, rfl, ?_⟩
    rw [decodeBody_written written (admits_of_itemsHaveBodies bodies m 0)]
    rfl
  refine ⟨fun header m frame after small encoded => ?_, fun header small typed => ?_,
    fun m frame encoded => ?_, fun chunk => ?_⟩
  · obtain ⟨body, fits, rfl, decoded⟩ := received encoded
    rw [← decoded, List.append_assoc]
    exact decodeChunk_captured (.headed (fields small) fits)
  · exact decodeChunk_captured (.header (fields small) (Nat.le_refl _) (Header.marked typed))
  · obtain ⟨body, fits, rfl, decoded⟩ := received encoded
    have rest : (Frame.framed body).drop 4 = body := by
      have := Frame.drop_framed body []
      rwa [List.append_nil, List.append_nil] at this
    rw [rest, ← decoded]
    exact ⟨fun marked => decodeChunk_captured (.header fits (Nat.le_refl _) marked),
      fun unmarked => decodeChunk_captured (.frame fits unmarked)⟩
  · obtain ⟨result, captured⟩ := type.exists_captured chunk
    exact decodeChunk_captured captured ▸ captured

/-! ### A note that looks like a header -/

/-- Notes: `string text`. -/
def noteType : MessageType :=
  ⟨"geo/Note", some "geo", "Note", "note", "",
    [⟨⟨"text", "string", none, 1⟩, "text", .primitive .string, .one, none⟩]⟩

/-- The note `type=?`, as a frame. -/
def noteFrame : Bytes :=
  [10, 0, 0, 0, 6, 0, 0, 0, 0x74, 0x79, 0x70, 0x65, 0x3d, 0x3f]

theorem note_captured :
    noteType.ItemsHaveBodies ∧
      noteType.encode ⟨"", [("text", .string "type=?")]⟩ = .ok noteFrame ∧
      noteType.decodeChunk noteFrame = .ok none ∧
      noteType.decodeChunk (Header.encode { typeId := some "geo/Note" }) = .ok none ∧
      noteType.decodeChunk (Header.encode { typeId := some "geo/Note" } ++ noteFrame ++ [1, 2]) =
        .ok (some ⟨"geo/Note", [("text", .string "type=?")]⟩) := by
  have bodies : noteType.ItemsHaveBodies := by
    refine .flat (fun f member => ?_) fun f member => ?_
    · rw [List.mem_singleton.mp member]
      intro _ array
      exact (array rfl).elim
    · exact ⟨.string, by rw [List.mem_singleton.mp member]⟩
  have sent : noteType.encode ⟨"", [("text", .string "type=?")]⟩ = .ok noteFrame := by rfl
  have short : (Header.encode { typeId := some "geo/Note" }).length < 0x100000000 := by
    decide +kernel
  obtain ⟨headed, header, frame, -⟩ := decodeChunk_encoded bodies
  exact ⟨bodies, sent, (frame _ _ sent).1 ⟨[6, 0, 0, 0], [0x3f], rfl⟩, header _ short rfl,
    headed _ _ _ [1, 2] short sent⟩

end MessageType

end TopicWire
