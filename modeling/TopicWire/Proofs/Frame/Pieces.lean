import TopicWire.Proofs.Frame.Reading

/-!
# Frames of a stream in pieces

How a stream is cut does not matter. `Flat.frame` takes one frame off all the bytes of a stream at
once, and `Spells.read` says that reading piece by piece gives the same and leaves the same, so any
number of reads does (`reads_cut`).
-/

namespace TopicWire

/-- A stream as a whole: all its bytes, and how often it fails after the last of them. -/
structure Flat where
  bytes : Bytes
  failures : List String := []

namespace Flat

def drop (count : Nat) (flat : Flat) : Flat :=
  { flat with bytes := flat.bytes.drop count }

/-- There are too few bytes. They are used up, and this is the outcome unless the stream fails. -/
def ends (flat : Flat) (outcome : Except LinkError (Option Bytes)) :
    Except LinkError (Option Bytes) × Flat :=
  match flat.failures with
  | [] => (outcome, ⟨[], []⟩)
  | cause :: later => (.error (.failed cause), ⟨[], later⟩)

theorem ends_of_silent {flat : Flat} {outcome : Except LinkError (Option Bytes)}
    (silent : flat.failures = []) : flat.ends outcome = (outcome, ⟨[], []⟩) := by
  rw [ends, silent]

theorem ends_of_fails {flat : Flat} {outcome : Except LinkError (Option Bytes)} {cause : String}
    {later : List String} (fails : flat.failures = cause :: later) :
    flat.ends outcome = (.error (.failed cause), ⟨[], later⟩) := by
  rw [ends, fails]

/-- Takes one frame off the front. -/
def frame (max : Nat) (flat : Flat) : Except LinkError (Option Bytes) × Flat :=
  let size := Bytes.ofLittleEndian (flat.bytes.take 4)
  if flat.bytes = [] then flat.ends (.ok none)
  else if flat.bytes.length < 4 then flat.ends (.error (.incompleteFrame 4 flat.bytes.length))
  else if max < size then (.error (.frameTooLarge size max), flat.drop 4)
  else if flat.bytes.length < 4 + size then
    flat.ends (.error (.incompleteFrame size (flat.bytes.length - 4)))
  else (.ok (some ((flat.bytes.drop 4).take size)), flat.drop (4 + size))

theorem frame_framed {body rest : Bytes} {failures : List String} {max : Nat}
    (small : body.length ≤ max) (limit : max < 0x100000000) :
    frame max ⟨Frame.framed body ++ rest, failures⟩ = (.ok (some body), ⟨rest, failures⟩) := by
  have size := Frame.size_framed (Nat.lt_of_le_of_lt small limit) rest
  have length : (Frame.framed body ++ rest).length = 4 + body.length + rest.length := by
    rw [List.length_append, Frame.length_framed]
  have some : Frame.framed body ++ rest ≠ [] := List.ne_nil_of_length_pos (by omega)
  have tail : (Frame.framed body ++ rest).drop (4 + body.length) = rest := by
    rw [← List.drop_drop, Frame.drop_framed, List.drop_left]
  simp only [frame, drop, size, Frame.drop_framed, List.take_left, tail]
  rw [if_neg some, if_neg (by omega), if_neg (by omega), if_neg (by omega)]

/-- Takes frames off the front one after the other, also after an error. -/
def frames (max : Nat) : (calls : Nat) → Flat → List (Except LinkError (Option Bytes)) × Flat
  | 0, flat => ([], flat)
  | calls + 1, flat =>
    let (frame, flat) := flat.frame max
    let (frames, flat) := frames max calls flat
    (frame :: frames, flat)

end Flat

namespace Stream

/-- The bytes that have not been read. -/
def left (s : Stream) : Bytes :=
  s.flatMap fun
    | .bytes bs => bs
    | .failure _ => []

/-- The stream that hands out these pieces, and then fails with these causes. -/
def cut (pieces : List Bytes) (failures : List String) : Stream :=
  pieces.map .bytes ++ failures.map .failure

/-- A stream in pieces, none of them empty, and the same stream as a whole. -/
inductive Spells : Stream → Flat → Prop where
  | ended (failures : List String) : Spells (failures.map .failure) ⟨[], failures⟩
  | piece {p : Bytes} {s : Stream} {flat : Flat} (filled : p ≠ []) (rest : Spells s flat) :
    Spells (.bytes p :: s) ⟨p ++ flat.bytes, flat.failures⟩

theorem spells_cut {pieces : List Bytes} (filled : ∀ p ∈ pieces, p ≠ []) (failures : List String) :
    (cut pieces failures).Spells ⟨pieces.flatten, failures⟩ := by
  induction pieces with
  | nil => exact .ended failures
  | cons p pieces ih => exact .piece (filled p (.head _)) (ih fun q there => filled q (.tail _ there))

namespace Spells

variable {s : Stream} {flat : Flat} {count max : Nat}

theorem left_eq (spells : s.Spells flat) : s.left = flat.bytes := by
  induction spells with
  | ended failures => simp [left]
  | piece filled rest ih =>
    rw [← ih]
    rfl

theorem fill_full (spells : s.Spells flat) (enough : count ≤ flat.bytes.length) :
    ∃ s', s.fill count = (.full (flat.bytes.take count), s') ∧ s'.Spells (flat.drop count) := by
  by_cases none : count = 0
  · subst none
    exact ⟨s, by rw [fill, List.take_zero], spells⟩
  induction spells generalizing count with
  | ended failures => exact absurd (Nat.le_zero.mp enough) none
  | @piece p s flat filled rest ih =>
    rw [List.length_append] at enough
    rw [Frame.fill_bytes (by omega) filled, Flat.drop, List.take_append, List.drop_append]
    split
    · rename_i inside
      have tail : p.drop count ≠ [] := by
        apply List.ne_nil_of_length_pos
        rw [List.length_drop]
        omega
      rw [Nat.sub_eq_zero_of_le (by omega), List.take_zero, List.append_nil, List.drop_zero]
      exact ⟨_, rfl, .piece tail rest⟩
    · rename_i beyond
      rw [List.take_of_length_le (by omega), List.drop_of_length_le (by omega), List.nil_append]
      by_cases done : count - p.length = 0
      · rw [done, fill]
        exact ⟨s, rfl, rest⟩
      · obtain ⟨s', filled, spells⟩ := ih (by omega) done
        rw [filled]
        exact ⟨s', rfl, spells⟩

theorem fill_short (spells : s.Spells flat) (silent : flat.failures = [])
    (few : flat.bytes.length < count) : s.fill count = (.short flat.bytes, []) := by
  induction spells generalizing count with
  | ended failures =>
    obtain rfl : failures = [] := silent
    exact Frame.fill_nil few
  | @piece p s flat filled rest ih =>
    rw [List.length_append] at few
    rw [Frame.fill_bytes (by omega) filled, if_neg (by omega), ih silent (by omega)]
    rfl

theorem fill_failed {cause : String} {later : List String} (spells : s.Spells flat)
    (fails : flat.failures = cause :: later) (few : flat.bytes.length < count) :
    s.fill count = (.failed cause, later.map .failure) := by
  induction spells generalizing count with
  | ended failures =>
    obtain rfl : failures = cause :: later := fails
    obtain ⟨count, rfl⟩ := Nat.exists_eq_add_of_lt few
    rfl
  | @piece p s flat filled rest ih =>
    rw [List.length_append] at few
    rw [Frame.fill_bytes (by omega) filled, if_neg (by omega), ih fails (by omega)]
    rfl

/-- Reading a frame piece by piece is taking it off the front of the whole. -/
theorem read (spells : s.Spells flat) (max : Nat) :
    ∃ s', Frame.read max s = ((flat.frame max).1, s') ∧ s'.Spells (flat.frame max).2 := by
  by_cases long : 4 ≤ flat.bytes.length
  · obtain ⟨s₁, first, spells₁⟩ := spells.fill_full long
    have length : (flat.drop 4).bytes.length = flat.bytes.length - 4 := List.length_drop
    simp only [Frame.read, first]
    rw [Flat.frame, if_neg (List.ne_nil_of_length_pos (by omega)), if_neg (Nat.not_lt.mpr long)]
    by_cases large : max < Bytes.ofLittleEndian (flat.bytes.take 4)
    · rw [if_pos large, if_pos large]
      exact ⟨s₁, rfl, spells₁⟩
    rw [if_neg large, if_neg large]
    by_cases whole : Bytes.ofLittleEndian (flat.bytes.take 4) ≤ (flat.drop 4).bytes.length
    · obtain ⟨s₂, second, spells₂⟩ := spells₁.fill_full whole
      rw [if_neg (by omega), second]
      rw [Flat.drop, Flat.drop, List.drop_drop] at spells₂
      exact ⟨s₂, rfl, spells₂⟩
    · rw [if_pos (by omega)]
      have few := Nat.lt_of_not_le whole
      cases failures : flat.failures with
      | nil =>
        rw [spells₁.fill_short failures few, Flat.ends_of_silent failures]
        simp only [length]
        exact ⟨[], rfl, .ended []⟩
      | cons cause later =>
        rw [spells₁.fill_failed failures few, Flat.ends_of_fails failures]
        exact ⟨_, rfl, .ended later⟩
  · have few := Nat.lt_of_not_le long
    cases failures : flat.failures with
    | nil =>
      simp only [Frame.read, spells.fill_short failures few, Flat.frame,
        Flat.ends_of_silent failures, if_pos few]
      cases bytes : flat.bytes with
      | nil => exact ⟨[], rfl, .ended []⟩
      | cons b bs => exact ⟨[], rfl, .ended []⟩
    | cons cause later =>
      simp only [Frame.read, spells.fill_failed failures few, Flat.frame,
        Flat.ends_of_fails failures, if_pos few, ite_self]
      exact ⟨_, rfl, .ended later⟩

end Spells

end Stream

namespace Frame

/-- Reads frames one after the other, also after an error. -/
def readEach (max : Nat) : (calls : Nat) → Stream → List (Except LinkError (Option Bytes)) × Stream
  | 0, s => ([], s)
  | calls + 1, s =>
    let (frame, s) := read max s
    let (frames, s) := readEach max calls s
    (frame :: frames, s)

theorem readEach_spells {s : Stream} {flat : Flat} (spells : s.Spells flat) (max calls : Nat) :
    ∃ s', readEach max calls s = ((flat.frames max calls).1, s') ∧
      s'.Spells (flat.frames max calls).2 := by
  induction calls generalizing s flat with
  | zero => exact ⟨s, rfl, spells⟩
  | succ calls ih =>
    obtain ⟨s₁, first, spells₁⟩ := spells.read max
    obtain ⟨s₂, others, spells₂⟩ := ih spells₁
    refine ⟨s₂, ?_, spells₂⟩
    simp only [readEach, first, others]
    rfl

/-- Frames do not depend on how their stream is cut. Any number of reads gives what `Flat.frame`
takes off the whole, one read after the other, and leaves the same bytes. -/
theorem readEach_cut {pieces others : List Bytes} (filled : ∀ p ∈ pieces, p ≠ [])
    (filledOthers : ∀ p ∈ others, p ≠ []) (same : others.flatten = pieces.flatten)
    (failures : List String) (max calls : Nat) :
    (readEach max calls (.cut pieces failures)).1 = (readEach max calls (.cut others failures)).1 ∧
      (readEach max calls (.cut pieces failures)).2.left =
        (readEach max calls (.cut others failures)).2.left ∧
      (readEach max calls (.cut pieces failures)).1 =
        (Flat.frames max calls ⟨pieces.flatten, failures⟩).1 ∧
      (readEach max calls (.cut pieces failures)).2.left =
        (Flat.frames max calls ⟨pieces.flatten, failures⟩).2.bytes := by
  obtain ⟨s, reads, spells⟩ := readEach_spells (Stream.spells_cut filled failures) max calls
  obtain ⟨s', readsOther, spellsOther⟩ :=
    readEach_spells (Stream.spells_cut filledOthers failures) max calls
  rw [same] at readsOther spellsOther
  rw [reads, readsOther]
  exact ⟨rfl, by rw [spells.left_eq, spellsOther.left_eq], rfl, spells.left_eq⟩

/-- Two frames and half a length, cut inside the lengths. -/
def raggedPieces : List Bytes :=
  [[1], [0, 0], [0, 7, 0], [0, 0, 0], [9, 0]]

def evenPieces : List Bytes :=
  [[1, 0, 0, 0, 7], [0, 0, 0, 0], [9, 0]]

theorem ragged_read_evenly :
    (∀ p ∈ raggedPieces, p ≠ []) ∧ (∀ p ∈ evenPieces, p ≠ []) ∧
      evenPieces.flatten = raggedPieces.flatten ∧
      (readEach 100 4 (.cut raggedPieces ["reset"])).1 =
        (readEach 100 4 (.cut evenPieces ["reset"])).1 ∧
      (readEach 100 4 (.cut raggedPieces ["reset"])).1 =
        [.ok (some [7]), .ok (some []), .error (.failed "reset"), .ok none] := by
  have filled : ∀ p ∈ raggedPieces, p ≠ [] := by decide
  have filledEvenly : ∀ p ∈ evenPieces, p ≠ [] := by decide
  have read := readEach_cut filled filledEvenly rfl ["reset"] 100 4
  exact ⟨filled, filledEvenly, rfl, read.1, by rw [read.2.2.1]; rfl⟩

end Frame

end TopicWire
