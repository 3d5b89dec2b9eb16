import Mathlib.Data.List.TakeWhile
import Mathlib.Data.String.Basic
import Mathlib.Tactic.Ring
import TopicWire.Proofs.Header.RoundTrip
import TopicWire.Proofs.Schema.Spelling

/-!
# Reading a header that was received

A header is written in no more bytes than it was read from (`length_encodeFields_le`): each of its
parts stands in an entry of its own, and no text of an integer is shorter than the one that is
written. So a header that was received can be sent on, and both headers made here and headers
received come back as they are (`decode_encoded`).
-/

namespace TopicWire

/-! ### The shortest text of an integer -/

namespace Number

variable {cs : List Char}

theorem digitsValue_lt (digits : cs.all isDigit = true) : digitsValue cs < 10 ^ cs.length := by
  have folded : ∀ n, cs.foldl (fun n c => 10 * n + (c.toNat - 48)) n < (n + 1) * 10 ^ cs.length := by
    induction cs with
    | nil => simp
    | cons c cs ih =>
      intro n
      rw [List.all_cons, Bool.and_eq_true] at digits
      have digit : c.toNat ≤ 57 := by
        have bounds := digits.1
        simp only [isDigit, Bool.and_eq_true, decide_eq_true_eq] at bounds
        exact bounds.2
      calc List.foldl (fun n c => 10 * n + (c.toNat - 48)) n (c :: cs)
          < (10 * n + (c.toNat - 48) + 1) * 10 ^ cs.length := ih digits.2 _
        _ ≤ 10 * (n + 1) * 10 ^ cs.length := Nat.mul_le_mul_right _ (by omega)
        _ = (n + 1) * 10 ^ (c :: cs).length := by rw [List.length_cons]; ring
  simpa [digitsValue] using folded 0

theorem length_toDigits_le {n : Nat} (read : natural? cs = some n) :
    (Nat.toDigits 10 n).length ≤ cs.length := by
  unfold natural? at read
  split at read
  · rename_i digits
    cases read
    exact (Nat.length_toDigits_le_iff (by decide) (List.length_pos_iff.mpr digits.1)).mpr
      (digitsValue_lt digits.2)
  · cases read

theorem length_toString_le {i : Int} (read : integer? cs = some i) :
    (toString i).toList.length ≤ cs.length := by
  have written (n : Nat) : (toString (n : Int)).toList = Nat.toDigits 10 n := by
    rw [Int.toString_eq_repr, Int.repr_eq_if, if_pos (Int.natCast_nonneg n), Int.toNat_natCast,
      Nat.repr_eq_ofList_toDigits, String.toList_ofList]
  cases integer?_eq_some_iff.mp read with
  | unsigned number =>
    obtain ⟨digits, spelled, number⟩ := number
    rw [written]
    have short := length_toDigits_le (natural?_eq_some_iff.mpr number)
    rcases spelled with rfl | rfl
    · exact short
    · exact short.trans (Nat.le_succ _)
  | @negative digits filled all =>
    have short := length_toDigits_le (natural?_eq_some_iff.mpr ⟨filled, all, rfl⟩)
    cases value : digitsValue digits with
    | zero => exact Nat.le_add_left 1 digits.length
    | succ n =>
      have sign : (toString (-((n + 1 : Nat) : Int))).toList = '-' :: Nat.toDigits 10 (n + 1) := by
        have negative : ¬ 0 ≤ -((n + 1 : Nat) : Int) := by omega
        rw [Int.toString_eq_repr, Int.repr_eq_if, if_neg negative, Int.neg_neg, Int.toNat_natCast,
          String.toList_append, Nat.repr_eq_ofList_toDigits, String.toList_ofList,
          String.toList_ofList]
        rfl
      rw [value] at short
      rw [sign]
      exact Nat.succ_le_succ short

theorem utf8ByteSize_toString (i : Int) : (toString i).utf8ByteSize = (toString i).toList.length := by
  have narrow : ∀ c ∈ (toString i).toList, c.utf8Size = 1 := by
    intro c there
    rw [Char.utf8Size_eq_one_iff]
    rcases sign_or_digit_of_mem_toString there with rfl | digit
    · decide
    · simp only [isDigit, Bool.and_eq_true, decide_eq_true_eq] at digit
      exact UInt32.le_trans digit.2 (by decide : '9'.val ≤ 127)
  have sum : ∀ cs : List Char, (∀ c ∈ cs, c.utf8Size = 1) → String.utf8Len cs = cs.length := by
    intro cs narrow
    induction cs with
    | nil => rfl
    | cons c cs ih =>
      rw [String.utf8Len_cons, narrow c (.head cs), ih fun d there => narrow d (.tail c there),
        List.length_cons]
  rw [← String.ofList_toList (s := toString i), String.utf8ByteSize_ofList, String.toList_ofList]
  exact sum _ narrow

end Number

/-! ### Parts and entries -/

namespace Header

variable {h h' : Header} {key value : List Char} {entry body frame : Bytes}

theorem length_trim_le (cs : List Char) : (Text.trim cs).length ≤ cs.length := by
  rw [Text.trim, Text.trimEnd, List.length_reverse]
  calc ((Text.trimStart cs).reverse.dropWhile Text.isBlank).length
      ≤ (Text.trimStart cs).reverse.length := List.length_dropWhile_le ..
    _ = (Text.trimStart cs).length := List.length_reverse
    _ ≤ cs.length := List.length_dropWhile_le ..

theorem length_le_utf8ByteSize (cs : List Char) : cs.length ≤ (String.ofList cs).utf8ByteSize := by
  rw [String.utf8ByteSize_ofList]
  induction cs with
  | nil => exact Nat.le_refl 0
  | cons c cs ih =>
    have := c.utf8Size_pos
    rw [String.utf8Len_cons, List.length_cons]
    omega

/-- The integer of a latching entry is written in no more bytes than it was read from. -/
theorem latching?_size {n : Int64} (read : latching? value = some n) :
    (toString n.toInt).utf8ByteSize ≤ (String.ofList value).utf8ByteSize := by
  rw [Number.utf8ByteSize_toString]
  calc (toString n.toInt).toList.length
      ≤ (Text.trim value).length := Number.length_toString_le (latching?_eq_some_iff.mp read)
    _ ≤ value.length := length_trim_le value
    _ ≤ (String.ofList value).utf8ByteSize := length_le_utf8ByteSize value

theorem length_entryBytes (key value : String) :
    (entryBytes (key, value)).length = 5 + key.utf8ByteSize + value.utf8ByteSize := by
  simp [entryBytes, Bytes.length_ofText]
  omega

/-- The number of bytes that a part takes. -/
def partSize (named : String × Option String) : Nat :=
  match named.2 with
  | some value => (entryBytes (named.1, value)).length
  | none => 0

theorem length_parts (parts : List (String × Option String)) :
    ((parts.filterMap part).flatMap entryBytes).length = (parts.map partSize).sum := by
  induction parts with
  | nil => rfl
  | cons named parts ih =>
    obtain ⟨key, value⟩ := named
    cases value with
    | none => exact ih.trans (Nat.zero_add _).symm
    | some value =>
      have first : ((key, some value) :: parts).filterMap part = (key, value) :: parts.filterMap part := rfl
      rw [first, List.flatMap_cons, List.length_append, ih, List.map_cons, List.sum_cons]
      rfl

theorem length_encodeFields (h : Header) : h.encodeFields.length =
    partSize ("callerid", h.callerId) + partSize ("topic", h.topic) + partSize ("type", h.typeId) +
      partSize ("md5sum", h.digest) + partSize ("message_definition", h.definition) +
      partSize ("latching", h.latching.map fun n => toString n.toInt) := by
  have parts : h.entries = [("callerid", h.callerId), ("topic", h.topic), ("type", h.typeId),
      ("md5sum", h.digest), ("message_definition", h.definition),
      ("latching", h.latching.map fun n => toString n.toInt)].filterMap part := rfl
  rw [encodeFields, parts, length_parts]
  simp only [List.map_cons, List.map_nil, List.sum_cons, List.sum_nil]
  omega

/-- A part takes no more bytes than the entry that it was read from, and the part that was there
before is gone. -/
theorem length_store_le (stored : h.store key value = .ok h') :
    h'.encodeFields.length ≤
      h.encodeFields.length + (entryBytes (String.ofList key, String.ofList value)).length := by
  have set (key value : String) : partSize (key, some value) = (entryBytes (key, value)).length := rfl
  simp only [length_encodeFields]
  unfold store at stored
  split at stored
  -- The latching part is not the text of its entry but the integer in it, written anew.
  case h_6 named =>
    split at stored
    · rename_i n read
      cases stored
      have := latching?_size read
      rw [named]
      simp only [Option.map_some, set, length_entryBytes]
      omega
    · cases stored
  case h_7 =>
    cases stored
    omega
  all_goals
    rename_i named
    cases stored
    rw [named]
    dsimp only
    rw [set]
    omega

theorem length_readEntry_le (read : h.readEntry entry = .ok h') :
    h'.encodeFields.length ≤ h.encodeFields.length + (4 + entry.length) := by
  unfold readEntry at read
  split at read
  · cases read
  · rename_i text spelled
    split at read
    · cases read
      omega
    · rename_i key value parts
      obtain ⟨c, equals, whole, -⟩ := Text.append_of_cut parts
      obtain rfl := beq_iff_eq.mp equals
      have length : (entryBytes (String.ofList key, String.ofList value)).length = 4 + entry.length := by
        have same : text = String.ofList key ++ "=" ++ String.ofList value := by
          rw [← String.toList_inj, whole]
          simp
        rw [← Bytes.ofText_of_text? spelled, same, ← entryText_eq, entryBytes, List.length_append,
          Bytes.length_littleEndian, entryText]
      exact length ▸ length_store_le read

theorem length_readEntries_le {entries : List Bytes} (read : entries.foldlM readEntry h = .ok h') :
    h'.encodeFields.length ≤ h.encodeFields.length + (entries.map (4 + ·.length)).sum := by
  induction entries generalizing h with
  | nil =>
    cases read
    exact Nat.le_refl _
  | cons entry entries ih =>
    rw [List.foldlM_cons] at read
    obtain ⟨middle, first, rest⟩ := Result.bind_ok_iff.mp read
    have start := length_readEntry_le first
    have whole := ih rest
    rw [List.map_cons, List.sum_cons]
    omega

theorem length_framedAll (bodies : List Bytes) :
    (Frame.framedAll bodies).length = (bodies.map (4 + ·.length)).sum := by
  rw [Frame.framedAll, List.length_flatMap]
  exact congrArg List.sum (List.map_congr_left fun body _ => Frame.length_framed body)

theorem length_encodeFields_le (read : decodeFields body = .ok h) :
    h.encodeFields.length ≤ body.length := by
  obtain ⟨entries, rfl, -, folded⟩ := decodeFields_ok_iff.mp read
  rw [length_framedAll]
  simpa [encodeFields, Header.entries] using length_readEntries_le folded

/-! ### Whole headers -/

/-- A frame is a header if its entries are one and its length stands in front. -/
theorem decode_ok_iff : decode frame = .ok h ↔
    ∃ body, body.length < 0x100000000 ∧ frame = Bytes.littleEndian 4 body.length ++ body ∧
      decodeFields body = .ok h := by
  constructor
  · intro read
    unfold decode at read
    split at read
    · rename_i a b c d body
      dsimp only at read
      split at read
      · rename_i declared
        have bound : Bytes.ofLittleEndian [a, b, c, d] < Nat.pow 256 4 := Bytes.ofLittleEndian_lt _
        have power : Nat.pow 256 4 = 0x100000000 := by decide
        have word := Bytes.littleEndian_ofLittleEndian [a, b, c, d]
        rw [declared] at bound word
        exact ⟨body, power ▸ bound, congrArg (· ++ body) word.symm, read⟩
      · cases read
    · cases read
  · rintro ⟨body, small, rfl, read⟩
    obtain ⟨a, b, c, d, word⟩ : ∃ a b c d, Bytes.littleEndian 4 body.length = [a, b, c, d] :=
      ⟨_, _, _, _, rfl⟩
    have declared : Bytes.ofLittleEndian [a, b, c, d] = body.length := by
      rw [← word, Bytes.ofLittleEndian_littleEndian]
      exact Nat.mod_eq_of_lt small
    rw [word]
    exact (if_pos declared).trans read

theorem decode_encode_of_small (small : h.encodeFields.length < 0x100000000) :
    decode h.encode = .ok h :=
  decode_ok_iff.mpr ⟨h.encodeFields, small, rfl, decodeFields_encodeFields h small⟩

/-- A header that is shorter than its length can tell is read as it was written, whatever its texts
and its integer are, and so is every header that was read from a frame, however its entries stood
there. -/
theorem decode_encoded :
    (∀ h : Header, h.encode.length < 0x100000000 → decode h.encode = .ok h) ∧
      ∀ (frame : Bytes) (h : Header), decode frame = .ok h → decode h.encode = .ok h := by
  constructor
  · intro h small
    rw [encode, List.length_append] at small
    exact decode_encode_of_small (by omega)
  · intro frame h read
    obtain ⟨body, small, -, fields⟩ := decode_ok_iff.mp read
    exact decode_encode_of_small ((length_encodeFields_le fields).trans_lt small)

/-- The integer with a sign and zeros and a second topic behind an unknown key. -/
def crowded : Bytes :=
  let fields := [("latching", " +007 "), ("topic", "/a"), ("tcp_nodelay", "1"), ("topic", "/b=c\n")]
  Bytes.littleEndian 4 (fields.flatMap entryBytes).length ++ fields.flatMap entryBytes

theorem crowded_read :
    decode (encode ⟨some "", some "/b=c\n", none, some "*", none, some (-0x8000000000000000)⟩) =
        .ok ⟨some "", some "/b=c\n", none, some "*", none, some (-0x8000000000000000)⟩ ∧
      decode crowded = .ok ⟨none, some "/b=c\n", none, none, none, some 7⟩ ∧
      decode (encode ⟨none, some "/b=c\n", none, none, none, some 7⟩) =
        .ok ⟨none, some "/b=c\n", none, none, none, some 7⟩ := by
  have small : (encode ⟨some "", some "/b=c\n", none, some "*", none,
      some (-0x8000000000000000)⟩).length < 0x100000000 := by decide +kernel
  have read : decode crowded = .ok ⟨none, some "/b=c\n", none, none, none, some 7⟩ := by
    decide +kernel
  exact ⟨decode_encoded.1 _ small, read, decode_encoded.2 crowded _ read⟩

end Header

end TopicWire
