import TopicWire.Proofs.Wire.Codec

/-!
# What the count guard refuses

The guard asks for at least one byte an item. So it refuses arrays of bodiless items that have more
items than there are bytes behind them, and nothing else that can be read (`decodeBody_iff_unguarded`).
-/

namespace TopicWire

theorem readItems_least {guard : Guard} {e : Element}
    (distinct : e.Everywhere fun type => type.accessors.Nodup) {path : String} {count : Nat}
    {items : List Value} {c c' : Cursor}
    (read : readItems (e.readUnder guard) path 0 count c = .ok items c') :
    count * e.minSize ≤ c.remaining := by
  obtain ⟨rfl, bytes, passed, written, _⟩ := readItems_canonical (Element.readsWritten distinct) read
  have low := (writeItems_ok e.sized (written "" 0) "" 0).2.2
  have room := passed.remaining
  omega

/-- Where the guard refuses a number of items, so many can be read only if they have no body. -/
theorem readItems_refused_iff {e : Element} (distinct : e.Everywhere fun type => type.accessors.Nodup)
    {path : String} {count : Nat} {c : Cursor} (refused : c.remaining < count * max e.minSize 1) :
    (∃ items c', readItems (e.readUnder .off) path 0 count c = .ok items c') ↔ e.bodiless = true := by
  constructor
  · rintro ⟨items, c', read⟩
    have fits := readItems_least distinct read
    rw [e.bodiless_iff]
    apply Classical.byContradiction
    intro body
    rw [Nat.max_eq_left (by omega)] at refused
    omega
  · intro none
    obtain ⟨items, read⟩ := readItems_bodiless none path 0 count c
    exact ⟨items, c, read⟩

namespace MessageType

variable {guard : Guard} {type : MessageType} {m : Message} {body frame : Bytes}

theorem decodeBodyUnder_iff_unguarded (sound : guard.Sound) (made : type.Compiled) :
    type.decodeBodyUnder guard body = .ok m ↔
      type.decodeBodyUnder .off body = .ok m ∧ type.admits guard m 0 = true := by
  have free : type.admits .off m 0 = true := admits_of_forall (fun _ _ => rfl) type m 0
  rw [decodeBodyUnder_ok_iff_written sound made, decodeBodyUnder_ok_iff_written Guard.off_sound made]
  constructor
  · rintro ⟨written, admitted, normal⟩
    exact ⟨⟨written, free, normal⟩, admitted⟩
  · rintro ⟨⟨written, _, normal⟩, admitted⟩
    exact ⟨written, admitted, normal⟩

theorem decode_encoded_iff (made : type.Compiled) (encoded : type.encode m = .ok frame)
    (received : Message) :
    type.decode frame = .ok received ↔
      received = type.normalized m ∧ type.admits .clamped received 0 = true := by
  obtain ⟨body, written, small, rfl⟩ := encode_ok_iff.mp encoded
  have plain : type.decodeBodyUnder .off body = .ok (type.normalized m) :=
    decodeBodyUnder_written Guard.off_sound written (admits_of_forall (fun _ _ => rfl) type m 0)
  have framed : type.decode (Bytes.littleEndian 4 body.length ++ body) = .ok received ↔
      type.decodeBodyUnder .clamped body = .ok received := by
    rw [decode_ok_iff, decodeBodyUnder_clamped]
    constructor
    · rintro ⟨other, _, same, decoded⟩
      obtain ⟨_, rfl⟩ := List.append_inj same (by simp)
      exact decoded
    · intro decoded
      exact ⟨body, small, rfl, decoded⟩
  rw [framed, decodeBodyUnder_iff_unguarded Guard.clamped_sound made, plain, Except.ok.injEq]
  exact and_congr_left fun _ => eq_comm

/-- The guard is not only an optimisation. It changes the result of decoding exactly where the bytes
behind an array of bodiless items are fewer than its items, also if the array was written so. -/
theorem decodeBody_iff_unguarded (made : type.Compiled) :
    (∀ body m, type.decodeBody body = .ok m ↔
      type.decodeBodyUnder .off body = .ok m ∧ type.admits .clamped m 0 = true) ∧
    (∀ m frame, type.encode m = .ok frame → ∀ received, type.decode frame = .ok received ↔
      received = type.normalized m ∧ type.admits .clamped received 0 = true) ∧
    (∀ f ∈ type.fields, ∀ path count c, c.remaining < count * max f.element.minSize 1 →
      ((∃ items c', readItems (f.element.readUnder .off) path 0 count c = .ok items c') ↔
        f.element.bodiless = true)) ∧
    (type.ItemsHaveBodies → ∀ m, type.admits .clamped m 0 = true) := by
  refine ⟨fun body m => ?_, fun m frame encoded => decode_encoded_iff made encoded, ?_, ?_⟩
  · rw [← decodeBodyUnder_clamped]
    exact decodeBodyUnder_iff_unguarded Guard.clamped_sound made
  · intro f member path count c refused
    exact readItems_refused_iff (made.accessors_nodup.field member) refused
  · intro bodies m
    exact admits_of_itemsHaveBodies bodies m 0

/-- Messages without fields. -/
def emptyType : MessageType :=
  ⟨"geo/Empty", some "geo", "Empty", "empty", "", []⟩

/-- Any number of messages without fields: `Empty[] xs`. -/
def emptiesType : MessageType :=
  ⟨"geo/Empties", some "geo", "Empties", "empties", "",
    [⟨⟨"xs", "Empty[]", none, 1⟩, "xs", .message emptyType, .many, none⟩]⟩

theorem emptyType_compiled : emptyType.Compiled := by
  have made : ofLines "geo/Empty" [] "empty" (fun _ => none) = .ok emptyType := by rfl
  exact .alone made

theorem emptiesType_compiled : emptiesType.Compiled := by
  have made : ofLines "geo/Empties" [⟨"xs", "Empty[]", none, 1⟩] "empties"
      (fun id => if id = "geo/Empty" then some emptyType else none) = .ok emptiesType := by rfl
  exact emptyType_compiled.above made

theorem one_empty_refused :
    emptiesType.Compiled ∧
      emptiesType.encode ⟨"", [("xs", .array [.message ⟨"", []⟩])]⟩ = .ok [4, 0, 0, 0, 1, 0, 0, 0] ∧
      ∀ received, emptiesType.decode [4, 0, 0, 0, 1, 0, 0, 0] ≠ .ok received := by
  have sent : emptiesType.encode ⟨"", [("xs", .array [.message ⟨"", []⟩])]⟩ =
      .ok [4, 0, 0, 0, 1, 0, 0, 0] := by rfl
  refine ⟨emptiesType_compiled, sent, fun received decoded => ?_⟩
  obtain ⟨rfl, admitted⟩ :=
    ((decodeBody_iff_unguarded emptiesType_compiled).2.1 _ _ sent received).mp decoded
  cases admitted

end MessageType

end TopicWire
