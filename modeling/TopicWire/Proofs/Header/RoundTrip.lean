import TopicWire.Proofs.Frame.Reading

/-!
# Reading a header that was written

Bytes are read as entries one after the other (`decodeFields_ok_iff`). The entries of a written header
set the parts that they were made from (`readEntry_entry`), and so the header comes back
(`decodeFields_encodeFields`). Its values can be any texts, also with an equals sign in them.
-/

namespace TopicWire

namespace Header

variable {h : Header} {key : String} {value : String} {entry body : Bytes} {entries : List Bytes}

/-! ### Division into entries -/

theorem splitEntries_framed_append (small : entry.length < 0x100000000) (offset : Nat) (rest : Bytes) :
    splitEntries offset (Frame.framed entry ++ rest) =
      (entry :: (splitEntries (offset + 4 + entry.length) rest).1,
        (splitEntries (offset + 4 + entry.length) rest).2) := by
  obtain ⟨a, b, c, d, word⟩ : ∃ a b c d, Bytes.littleEndian 4 entry.length = [a, b, c, d] :=
    ⟨_, _, _, _, rfl⟩
  have size : Bytes.ofLittleEndian [a, b, c, d] = entry.length := by
    rw [← word, Bytes.ofLittleEndian_littleEndian]
    exact Nat.mod_eq_of_lt small
  have front : Frame.framed entry ++ rest = a :: b :: c :: d :: (entry ++ rest) := by
    rw [Frame.framed, word]
    rfl
  rw [front, splitEntries, size, if_pos (by rw [List.length_append]; omega), List.drop_left,
    List.take_left]

theorem splitEntries_framedAll (small : ∀ entry ∈ entries, entry.length < 0x100000000) (offset : Nat) :
    splitEntries offset (Frame.framedAll entries) = (entries, none) := by
  induction entries generalizing offset with
  | nil =>
    rw [Frame.framedAll, List.flatMap_nil, splitEntries]
  | cons entry entries ih =>
    obtain ⟨first, others⟩ := List.forall_mem_cons.mp small
    rw [Frame.framedAll_cons, splitEntries_framed_append first, ih others]

theorem framedAll_of_splitEntries {offset : Nat} (split : splitEntries offset body = (entries, none)) :
    body = Frame.framedAll entries ∧ ∀ entry ∈ entries, entry.length < 0x100000000 := by
  fun_induction splitEntries offset body generalizing entries with
  | case1 =>
    cases split
    exact ⟨rfl, nofun⟩
  | case2 =>
    rename_i a b c d rest length fits _ _ divided ih
    cases split
    obtain ⟨same, small⟩ := ih divided
    have size : (rest.take length).length = length := List.length_take_of_le fits
    have bound : length < Nat.pow 256 4 := Bytes.ofLittleEndian_lt [a, b, c, d]
    have whole : 4 + length ≤ (a :: b :: c :: d :: rest).length := by
      simp only [List.length_cons]
      omega
    have front : a :: b :: c :: d :: rest = Frame.framed (rest.take length) ++ rest.drop length :=
      Frame.eq_framed (Nat.le_add_left 4 rest.length) whole
    rw [front, Frame.framedAll_cons, ← same]
    exact ⟨rfl, List.forall_mem_cons.mpr ⟨by rw [size]; exact bound, small⟩⟩
  | case3 => cases split
  | case4 => cases split

/-- The entries are read one after the other, and nothing is left behind the last one. -/
theorem decodeFields_ok_iff : decodeFields body = .ok h ↔ ∃ entries, body = Frame.framedAll entries ∧
    (∀ entry ∈ entries, entry.length < 0x100000000) ∧ entries.foldlM readEntry {} = .ok h := by
  constructor
  · intro read
    unfold decodeFields at read
    generalize divided : splitEntries 0 body = parts at read
    obtain ⟨entries, fault⟩ := parts
    obtain ⟨header, folded, last⟩ := Result.bind_ok_iff.mp read
    cases fault with
    | some cause => cases last
    | none =>
      cases last
      obtain ⟨same, small⟩ := framedAll_of_splitEntries divided
      exact ⟨entries, same, small, folded⟩
  · rintro ⟨entries, rfl, small, folded⟩
    rw [decodeFields, splitEntries_framedAll small]
    exact Result.bind_ok_iff.mpr ⟨h, folded, rfl⟩

/-! ### Entries that were written -/

/-- The bytes of an entry without the length in front. -/
def entryText (entry : String × String) : Bytes :=
  Bytes.ofText entry.1 ++ 61 :: Bytes.ofText entry.2

theorem encodeFields_eq (h : Header) : h.encodeFields = Frame.framedAll (h.entries.map entryText) := by
  rw [Frame.framedAll, List.flatMap_map]
  rfl

theorem entryText_eq (key value : String) :
    entryText (key, value) = Bytes.ofText (key ++ "=" ++ value) := by
  rw [entryText, Bytes.ofText, Bytes.ofText, Bytes.ofText, String.toUTF8, String.toUTF8, String.toUTF8]
  simp [String.toByteArray_append]
  rfl

theorem readEntry_entry (plain : key.toList.all (· != '=') = true) :
    h.readEntry (entryText (key, value)) = h.store key.toList value.toList := by
  have cut : Text.cut (· == '=') (key ++ "=" ++ value).toList = some (key.toList, value.toList) := by
    rw [String.toList_append, String.toList_append, List.append_assoc]
    refine Text.cut_append (fun c there => ?_) rfl
    simpa using List.all_eq_true.mp plain c there
  rw [readEntry, entryText_eq, Bytes.text?_ofText]
  simp only [cut]

/-! ### Entry by entry -/

theorem not_isBlank_of_isDigit {c : Char} (digit : Number.isDigit c = true) :
    Text.isBlank c = false := by
  have table : ∀ n < 58, 48 ≤ n → Text.isBlank (Char.ofNat n) = false := by decide
  simp only [Number.isDigit, Bool.and_eq_true, decide_eq_true_eq] at digit
  have low : 48 ≤ c.toNat := digit.1
  have high : c.toNat ≤ 57 := digit.2
  have := table c.toNat (by omega) low
  rwa [Char.ofNat_toNat] at this

/-- Every integer of eight bytes is in range. -/
theorem latching?_eq_some_iff {value : List Char} {n : Int64} :
    latching? value = some n ↔ Number.integer? (Text.trim value) = some n.toInt := by
  unfold latching?
  constructor
  · intro read
    split at read
    · rename_i i integer
      split at read
      · rename_i bounds
        cases read
        rw [integer, Int64.toInt_ofInt_of_le bounds.1 (by omega)]
      · cases read
    · cases read
  · intro integer
    have low : -0x8000000000000000 ≤ n.toInt := n.le_toInt
    have high : n.toInt ≤ 0x7FFFFFFFFFFFFFFF := n.toInt_le
    rw [integer]
    simp only
    rw [if_pos ⟨low, high⟩, Int64.ofInt_toInt]

theorem latching?_toString (n : Int64) : latching? (toString n.toInt).toList = some n := by
  have plain : ∀ c ∈ (toString n.toInt).toList, Text.isBlank c = false := by
    intro c there
    rcases Number.sign_or_digit_of_mem_toString there with rfl | digit
    · decide
    · exact not_isBlank_of_isDigit digit
  rw [latching?_eq_some_iff, Text.trim_of_none_blank plain, Number.integer?_toString]

/-- A part as an entry. -/
def part (named : String × Option String) : Option (String × String) :=
  named.2.map fun value => (named.1, value)

theorem readEntries_part {value : Option String} (after : Option String → Header)
    (plain : key.toList.all (· != '=') = true)
    (stores : ∀ v ∈ value, (after none).store key.toList v.toList = .ok (after (some v)))
    (parts : List (String × Option String)) :
    ((((key, value) :: parts).filterMap part).map entryText).foldlM readEntry (after none) =
      ((parts.filterMap part).map entryText).foldlM readEntry (after value) := by
  cases value with
  | none => rfl
  | some v =>
    have read : (after none).readEntry (entryText (key, v)) = .ok (after (some v)) := by
      rw [readEntry_entry plain, stores v rfl]
    have first : ((key, some v) :: parts).filterMap part = (key, v) :: parts.filterMap part := rfl
    rw [first, List.map_cons, List.foldlM_cons, read]
    rfl

theorem readEntry_latching (h : Header) (n : Int64) :
    h.readEntry (entryText ("latching", toString n.toInt)) = .ok { h with latching := some n } := by
  rw [readEntry_entry (by decide)]
  simp only [store, String.ofList_toList, latching?_toString]

theorem readEntries (h : Header) : (h.entries.map entryText).foldlM readEntry {} = .ok h := by
  obtain ⟨callerId, topic, typeId, digest, definition, latching⟩ := h
  have entries : entries ⟨callerId, topic, typeId, digest, definition, latching⟩ =
      [("callerid", callerId), ("topic", topic), ("type", typeId), ("md5sum", digest),
        ("message_definition", definition),
        ("latching", latching.map fun n => toString n.toInt)].filterMap part := rfl
  -- The parts are set in the order in which they are written.
  rw [entries,
    readEntries_part (fun o => ⟨o, none, none, none, none, none⟩) (by decide)
      (fun v _ => by simp only [store, String.ofList_toList]),
    readEntries_part (fun o => ⟨callerId, o, none, none, none, none⟩) (by decide)
      (fun v _ => by simp only [store, String.ofList_toList]),
    readEntries_part (fun o => ⟨callerId, topic, o, none, none, none⟩) (by decide)
      (fun v _ => by simp only [store, String.ofList_toList]),
    readEntries_part (fun o => ⟨callerId, topic, typeId, o, none, none⟩) (by decide)
      (fun v _ => by simp only [store, String.ofList_toList]),
    readEntries_part (fun o => ⟨callerId, topic, typeId, digest, o, none⟩) (by decide)
      (fun v _ => by simp only [store, String.ofList_toList])]
  cases latching with
  | none => rfl
  | some n => exact Result.bind_ok_iff.mpr ⟨_, readEntry_latching _ n, rfl⟩

theorem decodeFields_encodeFields (h : Header) (small : h.encodeFields.length < 0x100000000) :
    decodeFields h.encodeFields = .ok h := by
  refine decodeFields_ok_iff.mpr ⟨h.entries.map entryText, h.encodeFields_eq, ?_, readEntries h⟩
  intro entry there
  rw [encodeFields_eq] at small
  exact Nat.lt_of_le_of_lt (Frame.length_le_of_mem there) small

end Header

end TopicWire
