import TopicWire.Frame
import TopicWire.Proofs.Result

/-!
# Reading frames from bytes that have arrived

The bytes that have come over a connection hold a frame if they begin with it, whatever follows
(`read_framed`), and a frame that was read is what they began with (`read_some`). So a sequence of
frames is divided in one way only (`framedAll_prefix`).
-/

namespace TopicWire

namespace Frame

/-- The bytes of a frame with this payload. -/
def framed (body : Bytes) : Bytes :=
  Bytes.littleEndian 4 body.length ++ body

variable {a b body bs rest : Bytes} {s : Stream} {max : Nat}

@[simp] theorem length_framed (body : Bytes) : (framed body).length = 4 + body.length := by
  rw [framed, List.length_append, Bytes.length_littleEndian]

theorem framed_ne_nil (body : Bytes) : framed body ≠ [] := by
  intro empty
  have := length_framed body
  rw [empty, List.length_nil] at this
  omega

theorem take_framed (body rest : Bytes) :
    (framed body ++ rest).take 4 = Bytes.littleEndian 4 body.length := by
  rw [framed, List.append_assoc]
  exact List.take_left' (Bytes.length_littleEndian 4 _)

theorem drop_framed (body rest : Bytes) : (framed body ++ rest).drop 4 = body ++ rest := by
  rw [framed, List.append_assoc]
  exact List.drop_left' (Bytes.length_littleEndian 4 _)

theorem size_framed (small : body.length < 0x100000000) (rest : Bytes) :
    Bytes.ofLittleEndian ((framed body ++ rest).take 4) = body.length := by
  rw [take_framed, Bytes.ofLittleEndian_littleEndian]
  exact Nat.mod_eq_of_lt small

theorem eq_framed (long : 4 ≤ bs.length)
    (whole : 4 + Bytes.ofLittleEndian (bs.take 4) ≤ bs.length) :
    bs = framed ((bs.drop 4).take (Bytes.ofLittleEndian (bs.take 4))) ++
      (bs.drop 4).drop (Bytes.ofLittleEndian (bs.take 4)) := by
  have length : ((bs.drop 4).take (Bytes.ofLittleEndian (bs.take 4))).length =
      Bytes.ofLittleEndian (bs.take 4) := by
    rw [List.length_take, List.length_drop]
    omega
  have front : (bs.take 4).length = 4 := by
    rw [List.length_take]
    omega
  have word := Bytes.littleEndian_ofLittleEndian (bs.take 4)
  rw [front] at word
  rw [framed, length, word, List.append_assoc, List.take_append_drop, List.take_append_drop]

/-! ### One frame after the other -/

/-- The bytes of several frames. -/
def framedAll (bodies : List Bytes) : Bytes :=
  bodies.flatMap framed

@[simp] theorem framedAll_cons (body : Bytes) (bodies : List Bytes) :
    framedAll (body :: bodies) = framed body ++ framedAll bodies := by
  rw [framedAll, List.flatMap_cons, framedAll]

theorem framedAll_append (bodies later : List Bytes) :
    framedAll (bodies ++ later) = framedAll bodies ++ framedAll later :=
  List.flatMap_append

theorem framedAll_snoc (bodies : List Bytes) (body : Bytes) :
    framedAll (bodies ++ [body]) = framedAll bodies ++ framed body := by
  rw [framedAll_append, framedAll_cons]
  exact congrArg (framedAll bodies ++ ·) (List.append_nil _)

/-- No frame is the beginning of another. -/
theorem framed_append_inj {x y : Bytes} (smallA : a.length < 0x100000000)
    (smallB : b.length < 0x100000000) (same : framed a ++ x = framed b ++ y) : a = b ∧ x = y := by
  have length : a.length = b.length := by
    rw [← size_framed smallA x, same, size_framed smallB]
  have front : (framed a).length = (framed b).length := by simp [length]
  obtain ⟨frames, rests⟩ := List.append_inj same front
  refine ⟨?_, rests⟩
  rw [framed, framed, length] at frames
  exact List.append_cancel_left frames

theorem framedAll_prefix {bodies later : List Bytes}
    (smallB : ∀ b ∈ bodies, b.length < 0x100000000) (smallL : ∀ b ∈ later, b.length < 0x100000000)
    (along : framedAll bodies <+: framedAll later) : bodies <+: later := by
  induction bodies generalizing later with
  | nil => exact List.nil_prefix
  | cons b bodies ih =>
    obtain ⟨rest, same⟩ := along
    rw [framedAll_cons, List.append_assoc] at same
    cases later with
    | nil => exact absurd (List.append_eq_nil_iff.mp same).1 (framed_ne_nil b)
    | cons c later =>
      rw [framedAll_cons] at same
      obtain ⟨rfl, tail⟩ := framed_append_inj (smallB _ (.head _)) (smallL _ (.head _)) same
      have tails := ih (fun b there => smallB b (.tail _ there))
        (fun b there => smallL b (.tail _ there)) ⟨rest, tail⟩
      exact List.cons_prefix_cons.mpr ⟨rfl, tails⟩

theorem framedAll_append_eq {bodies later : List Bytes}
    (smallB : ∀ b ∈ bodies, b.length < 0x100000000) (smallL : ∀ b ∈ later, b.length < 0x100000000)
    (same : framedAll bodies ++ rest = framedAll later) :
    ∃ more, later = bodies ++ more ∧ rest = framedAll more := by
  obtain ⟨more, rfl⟩ := framedAll_prefix smallB smallL ⟨rest, same⟩
  rw [framedAll_append] at same
  exact ⟨more, rfl, List.append_cancel_left same⟩

theorem length_le_of_mem {bodies : List Bytes} (there : body ∈ bodies) :
    body.length ≤ (framedAll bodies).length := by
  have inside : framed body <:+: framedAll bodies := List.infix_of_mem_flatten (List.mem_map_of_mem there)
  have := inside.length_le
  rw [length_framed] at this
  omega

/-! ### Streams of bytes -/

/-- The stream hands out these bytes in one piece. -/
def Holds (s : Stream) (bs : Bytes) : Prop :=
  s = [.bytes bs] ∨ s = [] ∧ bs = []

theorem holds_bytes (bs : Bytes) : Holds [.bytes bs] bs := .inl rfl

theorem holds_unless_empty (bs : Bytes) : Holds (if bs.isEmpty then [] else [.bytes bs]) bs := by
  cases bs with
  | nil => exact .inr ⟨rfl, rfl⟩
  | cons b bs => exact .inl rfl

theorem fill_bytes {count : Nat} (some : 0 < count) (filled : bs ≠ []) (later : Stream) :
    Stream.fill count (.bytes bs :: later) =
      if count < bs.length then (.full (bs.take count), .bytes (bs.drop count) :: later)
      else ((Stream.fill (count - bs.length) later).1.prepend bs,
        (Stream.fill (count - bs.length) later).2) := by
  cases count with
  | zero => cases some
  | succ n =>
    cases bs with
    | nil => exact (filled rfl).elim
    | cons b bs => rfl

theorem fill_nil {count : Nat} (some : 0 < count) : Stream.fill count [] = (.short [], []) := by
  cases count with
  | zero => cases some
  | succ n => rfl

theorem fill_nothing {count : Nat} (some : 0 < count) :
    Stream.fill count [.bytes []] = (.short [], []) := by
  cases count with
  | zero => cases some
  | succ n => rfl

theorem Holds.fill_full (held : Holds s bs) {count : Nat} (enough : count ≤ bs.length) :
    ∃ s', s.fill count = (.full (bs.take count), s') ∧ Holds s' (bs.drop count) := by
  by_cases none : count = 0
  · subst none
    exact ⟨s, by rw [Stream.fill, List.take_zero], held⟩
  · rcases held with rfl | ⟨rfl, rfl⟩
    · rw [fill_bytes (by omega) (List.ne_nil_of_length_pos (by omega))]
      split
      · exact ⟨_, rfl, .inl rfl⟩
      · obtain rfl : count = bs.length := by omega
        rw [Nat.sub_self, List.take_length, List.drop_length]
        exact ⟨[], by simp only [Stream.fill, Stream.Filled.prepend, List.append_nil], .inr ⟨rfl, rfl⟩⟩
    · exact absurd (Nat.le_zero.mp enough) none

theorem Holds.fill_short (held : Holds s bs) {count : Nat} (few : bs.length < count) :
    s.fill count = (.short bs, []) := by
  rcases held with rfl | ⟨rfl, rfl⟩
  · cases bs with
    | nil => exact fill_nothing few
    | cons b bs =>
      rw [fill_bytes (by omega) (List.cons_ne_nil b bs), if_neg (by omega), fill_nil (by omega)]
      simp only [Stream.Filled.prepend, List.append_nil]
  · exact fill_nil few

theorem Holds.read_framed (held : Holds s (framed body ++ rest)) (small : body.length ≤ max)
    (limit : max < 0x100000000) :
    ∃ s', read max s = (.ok (some body), s') ∧ Holds s' rest := by
  have size := size_framed (Nat.lt_of_le_of_lt small limit) rest
  obtain ⟨s₁, first, held⟩ := held.fill_full (show 4 ≤ _ by simp; omega)
  rw [drop_framed] at held
  obtain ⟨s₂, second, held⟩ := held.fill_full (show body.length ≤ _ by simp)
  rw [List.take_left] at second
  rw [List.drop_left] at held
  refine ⟨s₂, ?_, held⟩
  simp only [read, first, size, second]
  rw [if_neg (by omega)]

theorem Holds.read_some {s' : Stream} (held : Holds s bs)
    (got : read max s = (.ok (some body), s')) :
    ∃ rest, bs = framed body ++ rest ∧ Holds s' rest ∧ body.length ≤ max := by
  by_cases long : 4 ≤ bs.length
  · obtain ⟨s₁, first, held⟩ := held.fill_full long
    simp only [read, first] at got
    split at got
    · cases got
    · rename_i fits
      by_cases whole : Bytes.ofLittleEndian (bs.take 4) ≤ (bs.drop 4).length
      · obtain ⟨s₂, second, held⟩ := held.fill_full whole
        simp only [second] at got
        obtain ⟨rfl, rfl⟩ : (bs.drop 4).take _ = body ∧ s₂ = s' := by simpa using got
        refine ⟨_, eq_framed long ?_, held, ?_⟩
        · rw [List.length_drop] at whole
          omega
        · have := List.length_take_le (Bytes.ofLittleEndian (bs.take 4)) (bs.drop 4)
          omega
      · simp only [held.fill_short (Nat.lt_of_not_le whole)] at got
        cases got
  · rw [read, held.fill_short (by omega)] at got
    cases bs with
    | nil => cases got
    | cons b bs => cases got

theorem Holds.read_none {s' : Stream} (held : Holds s bs) (got : read max s = (.ok none, s')) :
    bs = [] := by
  by_cases long : 4 ≤ bs.length
  · obtain ⟨s₁, first, held⟩ := held.fill_full long
    simp only [read, first] at got
    split at got
    · cases got
    · split at got <;> cases got
  · rw [read, held.fill_short (by omega)] at got
    cases bs with
    | nil => rfl
    | cons b bs => cases got

/-! ### Waiting for a frame -/

/-- A frame can be read without waiting: it is there as a whole, or its length says that it is too
long. -/
def Ready (bs : Bytes) : Prop :=
  4 ≤ bs.length ∧
    (maxSize < Bytes.ofLittleEndian (bs.take 4) ∨ 4 + Bytes.ofLittleEndian (bs.take 4) ≤ bs.length)

theorem ready_framed (small : body.length ≤ maxSize) (rest : Bytes) : Ready (framed body ++ rest) := by
  have size := size_framed (Nat.lt_of_le_of_lt small (by decide)) rest
  refine ⟨by simp; omega, .inr ?_⟩
  rw [size]
  simp

/-- What has arrived of a frame is the whole frame when it can be read. -/
theorem Ready.whole (ready : Ready bs) (along : bs <+: framed body ++ rest)
    (small : body.length ≤ maxSize) : framed body <+: bs := by
  obtain ⟨long, enough⟩ := ready
  have same : bs.take 4 = (framed body ++ rest).take 4 := by
    obtain ⟨more, all⟩ := along
    rw [← all, List.take_append_of_le_length long]
  rw [same, size_framed (Nat.lt_of_le_of_lt small (by decide))] at enough
  refine List.prefix_of_prefix_length_le (List.prefix_append _ rest) along ?_
  rw [length_framed]
  omega

theorem headerOf_ok {frame : Option Bytes} {header : Header} (read : headerOf frame = .ok header) :
    ∃ body, frame = some body ∧ Header.decodeFields body = .ok header := by
  cases frame with
  | none => cases read
  | some body => exact ⟨body, rfl, read⟩

theorem Holds.readHeader_ok {header : Header} (held : Holds s bs)
    (got : (readHeader max s).1 = .ok header) :
    ∃ body rest, bs = framed body ++ rest ∧ body.length ≤ max ∧
      Header.decodeFields body = .ok header := by
  unfold readHeader at got
  cases first : read max s with
  | mk frame left =>
    simp only [first] at got
    obtain ⟨frame, rfl, header⟩ := Result.bind_ok_iff.mp got
    obtain ⟨body, rfl, header⟩ := headerOf_ok header
    obtain ⟨rest, all, -, small⟩ := held.read_some first
    exact ⟨body, rest, all, small, header⟩

theorem Holds.readHeader_framed {header : Header} (held : Holds s (framed body ++ rest))
    (small : body.length ≤ max) (limit : max < 0x100000000)
    (decoded : Header.decodeFields body = .ok header) : (readHeader max s).1 = .ok header := by
  obtain ⟨s', first, -⟩ := held.read_framed small limit
  simp only [readHeader, first]
  exact decoded

theorem readHeader_append {header : Header}
    (got : (readHeader maxSize [.bytes bs]).1 = .ok header) (more : Bytes) :
    (readHeader maxSize [.bytes (bs ++ more)]).1 = .ok header := by
  obtain ⟨body, rest, rfl, small, decoded⟩ := (holds_bytes bs).readHeader_ok got
  have held := holds_bytes (framed body ++ rest ++ more)
  rw [List.append_assoc] at held ⊢
  exact held.readHeader_framed small (by decide) decoded

end Frame

end TopicWire
