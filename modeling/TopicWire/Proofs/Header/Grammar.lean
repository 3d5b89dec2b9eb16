import Mathlib.Data.List.Induction
import TopicWire.Proofs.Header.RoundTrip
import TopicWire.Proofs.Schema.Spelling

/-!
# The grammar of headers

`Says` lists the forms of an entry with what each of them says, and it is all that can be read
(`readEntry_empty_ok_iff`). What an entry says does not depend on the entries before it; it goes over
what they say (`readEntry_eq`). So bytes are a header if they are divided into entries of these forms,
headers can be put one behind the other, and entries that say nothing can stand anywhere
(`decodeFields_grammar`).
-/

namespace TopicWire

namespace Header

variable {h said : Header} {key value : List Char} {entry body : Bytes} {entries : List Bytes}

/-! ### One header over another -/

/-- The parts of the later header, and those of the other where the later one has none. -/
def overriddenBy (h later : Header) : Header where
  callerId := later.callerId.or h.callerId
  topic := later.topic.or h.topic
  typeId := later.typeId.or h.typeId
  digest := later.digest.or h.digest
  definition := later.definition.or h.definition
  latching := later.latching.or h.latching

@[simp] theorem overriddenBy_empty (h : Header) : h.overriddenBy {} = h := rfl

@[simp] theorem empty_overriddenBy (h : Header) : overriddenBy {} h = h := by
  simp [overriddenBy]

theorem overriddenBy_assoc (a b c : Header) :
    (a.overriddenBy b).overriddenBy c = a.overriddenBy (b.overriddenBy c) := by
  simp [overriddenBy, Option.or_assoc]

theorem foldl_overriddenBy (h : Header) (later : List Header) :
    later.foldl overriddenBy h = h.overriddenBy (later.foldl overriddenBy {}) := by
  induction later generalizing h with
  | nil => rfl
  | cons first later ih =>
    rw [List.foldl_cons, List.foldl_cons, ih, ih (overriddenBy {} first), empty_overriddenBy,
      overriddenBy_assoc]

/-- Each part as the last of these headers has it that has one. -/
def latest (said : List Header) : Header where
  callerId := (said.filterMap (·.callerId)).getLast?
  topic := (said.filterMap (·.topic)).getLast?
  typeId := (said.filterMap (·.typeId)).getLast?
  digest := (said.filterMap (·.digest)).getLast?
  definition := (said.filterMap (·.definition)).getLast?
  latching := (said.filterMap (·.latching)).getLast?

theorem getLast?_filterMap_snoc {α : Type} (part : Header → Option α) (said : List Header)
    (last : Header) : ((said ++ [last]).filterMap part).getLast? =
      (part last).or (said.filterMap part).getLast? := by
  rw [List.filterMap_append, List.getLast?_append]
  cases given : part last <;> simp [given]

theorem latest_snoc (said : List Header) (last : Header) :
    latest (said ++ [last]) = (latest said).overriddenBy last := by
  simp only [latest, getLast?_filterMap_snoc, overriddenBy]

theorem foldl_overriddenBy_eq_latest (said : List Header) :
    said.foldl overriddenBy {} = latest said := by
  induction said using List.reverseRecOn with
  | nil => rfl
  | append_singleton said last ih =>
    rw [List.foldl_append, List.foldl_cons, List.foldl_nil, ih, latest_snoc]

/-! ### What an entry says -/

/-- The keys of the parts. -/
def keys : List String :=
  ["callerid", "topic", "type", "md5sum", "message_definition", "latching"]

/-- The bytes of an entry, and the header that has nothing but what it says. -/
inductive Says : (entry : Bytes) → (said : Header) → Prop
  | callerId (value : String) : Says (entryText ("callerid", value)) { callerId := some value }
  | topic (value : String) : Says (entryText ("topic", value)) { topic := some value }
  | typeId (value : String) : Says (entryText ("type", value)) { typeId := some value }
  | digest (value : String) : Says (entryText ("md5sum", value)) { digest := some value }
  | definition (value : String) :
      Says (entryText ("message_definition", value)) { definition := some value }
  | latching {value : String} {n : Int64}
      (number : Number.DenotesInteger (Text.trim value.toList) n.toInt) :
      Says (entryText ("latching", value)) { latching := some n }
  /-- Up to its first equals sign stands the key of no part. -/
  | unknown {key : String} (plain : '=' ∉ key.toList) (other : key ∉ keys) (value : String) :
      Says (entryText (key, value)) {}
  | bare {text : String} (plain : '=' ∉ text.toList) : Says (Bytes.ofText text) {}

/-- Whether an entry can be read does not depend on what is there already. -/
theorem store_eq (h : Header) (key value : List Char) :
    h.store key value = (store {} key value).map h.overriddenBy := by
  unfold store
  split
  case h_6 =>
    split <;> rfl
  all_goals rfl

theorem readEntry_eq (h : Header) (entry : Bytes) :
    h.readEntry entry = (readEntry {} entry).map h.overriddenBy := by
  unfold readEntry
  split
  · rfl
  · split
    · rfl
    · exact store_eq h _ _

theorem Says.of_store (plain : '=' ∉ key) (stored : store {} key value = .ok said) :
    Says (entryText (String.ofList key, String.ofList value)) said := by
  unfold store at stored
  split at stored
  case h_6 named =>
    split at stored
    · rename_i n read
      cases stored
      rw [named]
      rw [← String.toList_ofList (l := value)] at read
      exact .latching (Number.integer?_eq_some_iff.mp (latching?_eq_some_iff.mp read))
    · cases stored
  case h_7 others =>
    cases stored
    refine .unknown (by rwa [String.toList_ofList]) ?_ _
    simp only [keys, List.mem_cons, List.not_mem_nil, or_false]
    rintro (known | known | known | known | known | known)
    all_goals contradiction
  all_goals
    rename_i named
    cases stored
    rw [named]
    constructor

theorem readEntry_empty_ok_iff : readEntry {} entry = .ok said ↔ Says entry said := by
  constructor
  · intro read
    unfold readEntry at read
    split at read
    · cases read
    · rename_i text valid
      rw [← Bytes.ofText_of_text? valid]
      split at read
      · rename_i whole
        cases read
        exact .bare (Text.cut_char_eq_none_iff.mp whole)
      · rename_i key value divided
        obtain ⟨together, plain⟩ := Text.cut_char_eq_some_iff.mp divided
        have spelled : text = String.ofList key ++ "=" ++ String.ofList value := by
          rw [← String.toList_inj, together]
          simp
        rw [spelled, ← entryText_eq]
        exact Says.of_store plain read
  · intro form
    have plain {key : String} (plain : '=' ∉ key.toList) : key.toList.all (· != '=') = true := by
      rw [List.all_eq_true]
      rintro c there
      exact bne_iff_ne.mpr fun sign => plain (sign ▸ there)
    cases form with
    | latching number =>
      rw [readEntry_entry (by decide), store, String.ofList_toList]
      simp only [latching?_eq_some_iff.mpr (Number.integer?_eq_some_iff.mpr number)]
    | unknown absent other value =>
      rw [readEntry_entry (plain absent), store, String.ofList_toList]
      simp only [keys, List.mem_cons, List.not_mem_nil, or_false, not_or] at other
      split <;> simp_all
    | bare absent =>
      rw [readEntry, Bytes.text?_ofText]
      simp only [Text.cut_char_eq_none_iff.mpr absent]
    | _ =>
      rw [readEntry_entry (by decide), store, String.ofList_toList]
      simp only [String.ofList_toList]

/-! ### All entries -/

theorem readEntries_ok_iff : entries.foldlM readEntry {} = .ok h ↔
    ∃ said, List.Forall₂ Says entries said ∧ said.foldl overriddenBy {} = h := by
  have reads : readEntry = fun h entry => (readEntry {} entry).map h.overriddenBy :=
    funext fun h => funext fun entry => readEntry_eq h entry
  rw [reads, Result.foldlM_map_ok_iff]
  simp only [readEntry_empty_ok_iff]

/-- An entry that says nothing can be left out. -/
theorem readEntries_silent (silent : Says entry {}) (before rest : List Bytes) :
    (before ++ entry :: rest).foldlM readEntry h = (before ++ rest).foldlM readEntry h := by
  have passed (h : Header) : h.readEntry entry = .ok h := by
    rw [readEntry_eq, readEntry_empty_ok_iff.mpr silent]
    rfl
  rw [List.foldlM_append, List.foldlM_append]
  congr 1
  funext h
  rw [List.foldlM_cons, passed]
  rfl

theorem decodeFields_framedAll_append_ok_iff {before : List Bytes}
    (small : ∀ entry ∈ before, entry.length < 0x100000000) :
    decodeFields (Frame.framedAll before ++ body) = .ok h ↔ ∃ rest, body = Frame.framedAll rest ∧
      (∀ entry ∈ rest, entry.length < 0x100000000) ∧
      (before ++ rest).foldlM readEntry {} = .ok h := by
  rw [decodeFields_ok_iff]
  constructor
  · rintro ⟨entries, same, all, read⟩
    obtain ⟨rest, rfl, left⟩ := Frame.framedAll_append_eq small all same
    exact ⟨rest, left, (List.forall_mem_append.mp all).2, read⟩
  · rintro ⟨rest, rfl, others, read⟩
    exact ⟨before ++ rest, (Frame.framedAll_append _ _).symm,
      List.forall_mem_append.mpr ⟨small, others⟩, read⟩

theorem decodeFields_append {a b : Bytes} {ha hb : Header} (readA : decodeFields a = .ok ha)
    (readB : decodeFields b = .ok hb) : decodeFields (a ++ b) = .ok (ha.overriddenBy hb) := by
  obtain ⟨first, rfl, small, first_read⟩ := decodeFields_ok_iff.mp readA
  obtain ⟨second, rfl, others, second_read⟩ := decodeFields_ok_iff.mp readB
  obtain ⟨saidA, formsA, rfl⟩ := readEntries_ok_iff.mp first_read
  obtain ⟨saidB, formsB, rfl⟩ := readEntries_ok_iff.mp second_read
  refine (decodeFields_framedAll_append_ok_iff small).mpr ⟨second, rfl, others, ?_⟩
  refine readEntries_ok_iff.mpr ⟨saidA ++ saidB, List.rel_append formsA formsB, ?_⟩
  rw [List.foldl_append, foldl_overriddenBy]

/-- Every entry takes the four bytes of a length at least, also one with nothing in it. -/
theorem length_splitEntries_le (offset : Nat) (body : Bytes) :
    4 * (splitEntries offset body).1.length ≤ body.length := by
  fun_induction splitEntries offset body with
  | case1 => exact Nat.le_refl 0
  | case2 =>
    rename_i a b c d rest length fits others fault divided ih
    simp only [divided, List.length_drop] at ih
    simp only [List.length_cons]
    omega
  | case3 => exact Nat.zero_le _
  | case4 => exact Nat.zero_le _

/-- Bytes are a header if they are entries of the forms that say something, one behind the other, and
the header is what they say from left to right, the last one of a key over the others. So two headers
behind each other are the first one with what the second says over it, and wherever an entry ends one
that says nothing can stand, whether what follows it can be read or not. -/
theorem decodeFields_grammar :
    (∀ body h, decodeFields body = .ok h ↔ ∃ entries said, body = Frame.framedAll entries ∧
      (∀ entry ∈ entries, entry.length < 0x100000000) ∧ List.Forall₂ Says entries said ∧
      said.foldl overriddenBy {} = h) ∧
    (∀ said, said.foldl overriddenBy {} = latest said) ∧
    (∀ offset body, 4 * (splitEntries offset body).1.length ≤ body.length) ∧
    (∀ a b ha hb, decodeFields a = .ok ha → decodeFields b = .ok hb →
      decodeFields (a ++ b) = .ok (ha.overriddenBy hb)) ∧
    ∀ before extra after h, (∀ entry ∈ before, entry.length < 0x100000000) →
      extra.length < 0x100000000 → Says extra {} →
      (decodeFields (Frame.framedAll before ++ (Frame.framed extra ++ after)) = .ok h ↔
        decodeFields (Frame.framedAll before ++ after) = .ok h) := by
  refine ⟨fun body h => ?_, foldl_overriddenBy_eq_latest, length_splitEntries_le,
    fun a b ha hb => decodeFields_append, fun before extra after h small short silent => ?_⟩
  · rw [decodeFields_ok_iff]
    constructor
    · rintro ⟨entries, same, small, read⟩
      obtain ⟨said, forms, rfl⟩ := readEntries_ok_iff.mp read
      exact ⟨entries, said, same, small, forms, rfl⟩
    · rintro ⟨entries, said, same, small, forms, folded⟩
      exact ⟨entries, same, small, readEntries_ok_iff.mpr ⟨said, forms, folded⟩⟩
  · have longer : ∀ entry ∈ before ++ [extra], entry.length < 0x100000000 :=
      List.forall_mem_append.mpr ⟨small, List.forall_mem_singleton.mpr short⟩
    rw [← List.append_assoc, ← Frame.framedAll_snoc, decodeFields_framedAll_append_ok_iff longer,
      decodeFields_framedAll_append_ok_iff small]
    simp only [List.append_assoc, List.singleton_append, readEntries_silent silent]

/-- Two headers, the second with blanks, a plus sign and zeros around its integer and an equals sign in
its topic, and entries that say nothing. -/
theorem entries_read :
    let first := Frame.framedAll [entryText ("topic", "/a"), entryText ("type", "geo/Point")]
    let second := Frame.framedAll [[], entryText ("latching", " +007 "), entryText ("topic", "/b=c")]
    let flag := entryText ("tcp_nodelay", "1")
    decodeFields first = .ok { topic := some "/a", typeId := some "geo/Point" } ∧
      decodeFields second = .ok { topic := some "/b=c", latching := some 7 } ∧
      decodeFields (first ++ second) =
        .ok { topic := some "/b=c", typeId := some "geo/Point", latching := some 7 } ∧
      decodeFields (first ++ (Frame.framed flag ++ second)) =
        .ok { topic := some "/b=c", typeId := some "geo/Point", latching := some 7 } := by
  intro first second flag
  obtain ⟨-, -, -, append, insert⟩ := decodeFields_grammar
  have readA : decodeFields first = .ok { topic := some "/a", typeId := some "geo/Point" } := by
    decide +kernel
  have readB : decodeFields second = .ok { topic := some "/b=c", latching := some 7 } := by
    decide +kernel
  have both := append first second _ _ readA readB
  have silent : Says flag {} := .unknown (by decide) (by decide) "1"
  have small : ∀ entry ∈ [entryText ("topic", "/a"), entryText ("type", "geo/Point")],
      entry.length < 0x100000000 := by decide +kernel
  exact ⟨readA, readB, both, (insert _ flag second _ small (by decide +kernel) silent).mpr both⟩

end Header

end TopicWire
