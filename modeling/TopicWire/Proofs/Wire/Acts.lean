import TopicWire.Proofs.Wire.Delimited

/-!
# What reading does

`MessageType.acts` lists what reading a message does from a cursor on: every taking of bytes, also one
that fails, and every loop over array items that is entered. `Cursor.Goes` says where such a list leads
and with which fault it ends, `MessageType.decodeFrom_does` that it leads where reading leads, and
`readCount_room` that no loop is entered with more items than bytes are left.
-/

namespace TopicWire

/-- Something that a decoder does at a cursor. -/
inductive Act where
  | take (n : Nat) (c : Cursor)
  /-- Begins with the first of so many array items. -/
  | loop (count : Nat) (c : Cursor)
deriving DecidableEq

namespace Act

def cursor : Act → Cursor
  | .take _ c | .loop _ c => c

/-- The bytes that are consumed: none where fewer are left than are asked for. -/
def bytes : Act → Bytes
  | .take n c => if n ≤ c.remaining then c.rest.take n else []
  | .loop .. => []

theorem bytes_take {c c' : Cursor} {bytes : Bytes} (passed : c.Passed bytes c') :
    (take bytes.length c).bytes = bytes := by
  have enough := passed.remaining
  rw [Act.bytes, if_pos (by omega), passed.rest, List.take_left]

theorem bytes_take_short {n : Nat} {c : Cursor} (short : c.remaining < n) : (take n c).bytes = [] :=
  if_neg (Nat.not_le.mpr short)

end Act

/-! ### Where acts lead -/

namespace Cursor

/-- The last acts before a fault, with the cursors where they begin and where they stop. -/
inductive Faults : Cursor → List Act → WireError → Cursor → Prop
  /-- Fewer bytes are left than are asked for. -/
  | short {c : Cursor} {n : Nat} (missing : c.remaining < n) :
      Faults c [.take n c] (.truncated n c.remaining c.position) c
  /-- A number of array items is taken, and too few bytes are left for them. -/
  | crowded {c last : Cursor} {count : Nat} (path : String)
      (counted : c.Passed (Bytes.littleEndian 4 count) last) (positive : 0 < count) :
      Faults c [.take 4 c] (.countTooLarge path count last.remaining) last
  /-- What was read is refused for another reason. -/
  | refused (c : Cursor) {e : WireError} (other : e.isShortage = false) : Faults c [] e c

/-- The acts lead from the first cursor to the second, each of them begins where the one before it
ended, and they end without a fault or with the given one. -/
inductive Goes : Cursor → List Act → Option WireError → Cursor → Prop
  | done (c : Cursor) : Goes c [] none c
  | fault {c last : Cursor} {acts : List Act} {e : WireError} (faults : Faults c acts e last) :
      Goes c acts (some e) last
  | take {c middle last : Cursor} {bytes : Bytes} {acts : List Act} {fault : Option WireError}
      (passed : c.Passed bytes middle) (rest : Goes middle acts fault last) :
      Goes c (.take bytes.length c :: acts) fault last
  | loop {c last : Cursor} {count : Nat} {acts : List Act} {fault : Option WireError}
      (room : count ≤ c.remaining) (rest : Goes c acts fault last) :
      Goes c (.loop count c :: acts) fault last

theorem Faults.passed {c last : Cursor} {acts : List Act} {e : WireError}
    (faults : c.Faults acts e last) : c.Passed (acts.flatMap Act.bytes) last := by
  cases faults with
  | short missing =>
    rw [List.flatMap_singleton, Act.bytes_take_short missing]
    exact Cursor.passed_nil_iff.mpr rfl
  | crowded path counted =>
    have bytes := Act.bytes_take counted
    rw [Bytes.length_littleEndian] at bytes
    rwa [List.flatMap_singleton, bytes]
  | refused => exact Cursor.passed_nil_iff.mpr rfl

/-- At most one act belongs to a fault, a taking of bytes where the fault begins. -/
theorem Faults.first {c last : Cursor} {acts before after : List Act} {e : WireError} {act : Act}
    (faults : c.Faults acts e last) (whole : acts = before ++ act :: after) :
    before = [] ∧ ∃ n, act = .take n c := by
  cases faults with
  | short | crowded =>
    rcases List.singleton_eq_append_iff.mp whole with ⟨rfl, alone⟩ | ⟨-, none⟩
    · obtain ⟨rfl, -⟩ := List.cons.inj alone
      exact ⟨rfl, _, rfl⟩
    · cases none
  | refused => cases before <;> cases whole

namespace Goes

variable {c middle last : Cursor} {xs ys acts : List Act} {fault : Option WireError}

theorem append (first : c.Goes xs none middle) (rest : middle.Goes ys fault last) :
    c.Goes (xs ++ ys) fault last := by
  generalize unfailed : (none : Option WireError) = before at first
  induction first with
  | done => exact rest
  | fault => cases unfailed
  | take passed _ ih => exact .take passed (ih rest unfailed)
  | loop room _ ih => exact .loop room (ih rest unfailed)

/-- The bytes of the acts are the bytes between the cursors. -/
theorem passed (goes : c.Goes acts fault last) : c.Passed (acts.flatMap Act.bytes) last := by
  induction goes with
  | done => exact Cursor.passed_nil_iff.mpr rfl
  | fault faults => exact faults.passed
  | take here _ ih =>
    rw [List.flatMap_cons, Act.bytes_take here]
    exact Cursor.passed_append_iff.mpr ⟨_, here, ih⟩
  | loop _ _ ih => exact ih

/-- Each act begins where those before it ended. -/
theorem begins (goes : c.Goes acts fault last) {before after : List Act} {act : Act}
    (whole : acts = before ++ act :: after) : c.Passed (before.flatMap Act.bytes) act.cursor := by
  induction goes generalizing before with
  | done => cases before <;> cases whole
  | fault faults =>
    obtain ⟨rfl, n, rfl⟩ := faults.first whole
    exact Cursor.passed_nil_iff.mpr rfl
  | take here _ ih =>
    cases before with
    | nil =>
      obtain ⟨rfl, -⟩ := List.cons.inj whole
      exact Cursor.passed_nil_iff.mpr rfl
    | cons first before =>
      obtain ⟨rfl, later⟩ := List.cons.inj whole
      rw [List.flatMap_cons, Act.bytes_take here]
      exact Cursor.passed_append_iff.mpr ⟨_, here, ih later⟩
  | loop _ _ ih =>
    cases before with
    | nil =>
      obtain ⟨rfl, -⟩ := List.cons.inj whole
      exact Cursor.passed_nil_iff.mpr rfl
    | cons first before =>
      obtain ⟨rfl, later⟩ := List.cons.inj whole
      have front := ih later
      exact front

/-- Bytes that are not there are asked for at the end alone, and this is the fault. -/
theorem short_take (goes : c.Goes acts fault last) {n : Nat} {place : Cursor}
    (member : .take n place ∈ acts) (missing : place.remaining < n) :
    fault = some (.truncated n place.remaining place.position) ∧ last = place := by
  induction goes with
  | done => cases member
  | fault faults =>
    cases faults with
    | short =>
      obtain ⟨rfl, rfl⟩ := Act.take.inj (List.mem_singleton.mp member)
      exact ⟨rfl, rfl⟩
    | crowded path counted =>
      obtain ⟨rfl, rfl⟩ := Act.take.inj (List.mem_singleton.mp member)
      have enough := counted.remaining
      rw [Bytes.length_littleEndian] at enough
      omega
    | refused => cases member
  | take here _ ih =>
    rcases List.mem_cons.mp member with same | later
    · obtain ⟨rfl, rfl⟩ := Act.take.inj same
      have enough := here.remaining
      omega
    · exact ih later
  | loop _ _ ih =>
    rcases List.mem_cons.mp member with same | later
    · cases same
    · exact ih later

theorem loop_room (goes : c.Goes acts fault last) {count : Nat} {place : Cursor}
    (member : .loop count place ∈ acts) : count ≤ place.remaining := by
  induction goes with
  | done => cases member
  | fault faults =>
    obtain ⟨before, after, whole⟩ := List.append_of_mem member
    obtain ⟨-, n, taking⟩ := faults.first whole
    cases taking
  | take _ _ ih =>
    rcases List.mem_cons.mp member with same | later
    · cases same
    · exact ih later
  | loop room _ ih =>
    rcases List.mem_cons.mp member with same | later
    · obtain ⟨rfl, rfl⟩ := Act.loop.inj same
      exact room
    · exact ih later

/-- What leads to a fault ends with it. -/
theorem exists_faults {e : WireError} (goes : c.Goes acts (some e) last) :
    ∃ (before ending : List Act) (place : Cursor), acts = before ++ ending ∧
      place.Faults ending e last := by
  generalize same : some e = fault at goes
  induction goes with
  | done => cases same
  | @fault c _ ending _ faults =>
    cases same
    exact ⟨[], ending, c, rfl, faults⟩
  | @take c _ _ bytes _ _ _ _ ih =>
    obtain ⟨before, ending, place, whole, faults⟩ := ih same
    exact ⟨.take bytes.length c :: before, ending, place, by rw [whole, List.cons_append], faults⟩
  | @loop c _ count _ _ _ _ ih =>
    obtain ⟨before, ending, place, whole, faults⟩ := ih same
    exact ⟨.loop count c :: before, ending, place, by rw [whole, List.cons_append], faults⟩

theorem of_truncated {needed remaining offset : Nat}
    (goes : c.Goes acts (some (.truncated needed remaining offset)) last) :
    remaining < needed ∧ remaining = last.remaining ∧ offset = last.position ∧
      ∃ before, acts = before ++ [.take needed last] := by
  obtain ⟨before, ending, place, whole, faults⟩ := goes.exists_faults
  cases faults with
  | short missing => exact ⟨missing, rfl, rfl, before, whole⟩
  | refused other => cases other

theorem of_countTooLarge {path : String} {count remaining : Nat}
    (goes : c.Goes acts (some (.countTooLarge path count remaining)) last) :
    0 < count ∧ remaining = last.remaining ∧
      ∃ before place, acts = before ++ [.take 4 place] ∧
        place.Passed (Bytes.littleEndian 4 count) last := by
  obtain ⟨before, ending, place, whole, faults⟩ := goes.exists_faults
  cases faults with
  | crowded _ counted positive => exact ⟨positive, rfl, before, place, whole, counted⟩
  | refused other => cases other

end Goes

/-- The acts lead to the outcome of a decoder. -/
def Ends {α : Type} (c : Cursor) (acts : List Act) : EStateM.Result WireError Cursor α → Prop
  | .ok _ last => c.Goes acts none last
  | .error e last => c.Goes acts (some e) last

theorem Goes.ends {α : Type} {c middle : Cursor} {xs ys : List Act}
    {outcome : EStateM.Result WireError Cursor α} (first : c.Goes xs none middle)
    (rest : middle.Ends ys outcome) : c.Ends (xs ++ ys) outcome := by
  cases outcome with
  | ok a last => exact first.append rest
  | error e last => exact first.append rest

end Cursor

/-! ### The acts of decoders -/

namespace Decoder

variable {α β : Type} {d : Decoder α} {f : α → Decoder β} {c : Cursor} {acts : List Act}

/-- The acts lead from the cursor to the outcome of the decoder. -/
def Does (d : Decoder α) (c : Cursor) (acts : List Act) : Prop :=
  c.Ends acts (d c)

/-- What is done after a decoder, if it succeeds. -/
def next (d : Decoder α) (c : Cursor) (later : α → Cursor → List Act) : List Act :=
  match d c with
  | .ok a c' => later a c'
  | .error .. => []

namespace Does

theorem pure (a : α) (c : Cursor) : Does (pure a) c [] :=
  Cursor.Goes.done c

theorem throw {e : WireError} (other : e.isShortage = false) (c : Cursor) :
    Does (throw e : Decoder α) c [] :=
  Cursor.Goes.fault (.refused c other)

theorem bind {later : α → Cursor → List Act} (first : d.Does c acts)
    (rest : ∀ a c', d c = .ok a c' → (f a).Does c' (later a c')) :
    (d >>= f).Does c (acts ++ d.next c later) := by
  unfold Does at first
  unfold Does next
  cases read : d c with
  | error e last =>
    rw [read] at first
    rw [Stateful.bind_of_error read, List.append_nil]
    exact first
  | ok a middle =>
    rw [read] at first
    rw [Stateful.bind_of_ok read]
    exact Cursor.Goes.ends first (rest a middle read)

/-- A decoder that goes on without doing anything. -/
theorem bind_quiet (first : d.Does c acts) (rest : ∀ a c', (f a).Does c' []) :
    (d >>= f).Does c acts := by
  have quiet : d.next c (fun _ _ => []) = [] := by
    unfold next
    split <;> rfl
  have whole : (d >>= f).Does c (acts ++ d.next c fun _ _ => []) := first.bind fun a c' _ => rest a c'
  rwa [quiet, List.append_nil] at whole

theorem loop {count : Nat} (room : count ≤ c.remaining) (does : d.Does c acts) :
    d.Does c (.loop count c :: acts) :=
  Cursor.Goes.ends (.loop room (.done c)) does

end Does

theorem take_does (n : Nat) (c : Cursor) : (take n).Does c [.take n c] := by
  unfold Does
  cases read : take n c with
  | ok bytes last =>
    obtain ⟨rfl, passed⟩ := take_ok_iff.mp read
    exact .take passed (.done last)
  | error e last =>
    obtain ⟨missing, rfl, rfl⟩ := take_error_iff.mp read
    exact .fault (.short missing)

theorem word_does (width : Nat) (c : Cursor) : (word width).Does c [.take width c] :=
  (take_does width c).bind_quiet fun _ => .pure _

end Decoder

namespace Primitive

/-- What reading a value of the type does. -/
def acts : Primitive → Cursor → List Act
  | .string, c => .take 4 c :: (Decoder.word 4).next c fun length c' => [.take length c']
  | .time, c | .duration, c => .take 4 c :: (Decoder.word 4).next c fun _ c' => [.take 4 c']
  | p, c => [.take p.minSize c]

theorem readBool_does (path : String) (c : Cursor) : (readBool path).Does c [.take 1 c] := by
  refine (Decoder.word_does 1 c).bind_quiet fun n c' => ?_
  split
  · exact .pure _ _
  · exact .pure _ _
  · exact .throw rfl _

theorem readString_does (path : String) (c : Cursor) : (readString path).Does c (string.acts c) := by
  refine (Decoder.word_does 4 c).bind fun length c' _ => ?_
  refine (Decoder.take_does length c').bind_quiet fun bytes c' => ?_
  split
  · exact .pure _ _
  · exact .throw rfl _

theorem read_does (p : Primitive) (path : String) (c : Cursor) : (p.read path).Does c (p.acts c) := by
  cases p with
  | bool => exact readBool_does path c
  | string => exact readString_does path c
  | time | duration =>
    refine (Decoder.word_does 4 c).bind fun _ c' _ => ?_
    exact (Decoder.word_does 4 c').bind_quiet fun _ => .pure _
  | _ => exact (Decoder.word_does _ c).bind_quiet fun _ => .pure _

end Primitive

/-- What reading `count` array items does, the first of them having the given index. -/
def itemActs (read : String → Decoder Value) (acts : String → Cursor → List Act) (path : String) :
    (index count : Nat) → Cursor → List Act
  | _, 0, _ => []
  | index, count + 1, c =>
    acts (itemPath path index) c ++ (read (itemPath path index)).next c fun _ c' =>
      itemActs read acts path (index + 1) count c'

mutual

/-- What reading the message at a path does. -/
def MessageType.acts : MessageType → String → Cursor → List Act
  | ⟨_, _, _, _, _, fields⟩, path, c => Field.allActs fields path c

def Field.allActs : List Field → String → Cursor → List Act
  | [], _, _ => []
  | f :: fs, path, c =>
    f.acts (fieldPath path f.accessor) c ++ (f.read (fieldPath path f.accessor)).next c fun _ c' =>
      Field.allActs fs path c'

def Field.acts : Field → String → Cursor → List Act
  | ⟨_, _, element, arity, constant⟩, path, c =>
    match constant with
    | some _ => []
    | none =>
      match arity with
      | .one => element.acts path c
      | arity =>
        .take 4 c :: (readCount arity element.minSize path).next c fun count c' =>
          .loop count c' :: itemActs element.read element.acts path 0 count c'

def Element.acts : Element → String → Cursor → List Act
  | .primitive p, _, c => p.acts c
  | .message type, path, c => type.acts path c

end

theorem passCount_eq (guard : Guard) (least : Nat) (path : String) (count : Nat) (c : Cursor) :
    passCount guard least path count c =
      if guard least count c.remaining = false then
        .error (.countTooLarge path count c.remaining) c
      else .ok count c := by
  unfold passCount
  rw [Stateful.bind_of_ok (Decoder.remaining_ok_iff.mpr ⟨rfl, rfl⟩)]
  split <;> rfl

/-- The number of items lies in the four bytes taken, also where too few bytes are left behind it. -/
theorem readCount_does (arity : Arity) (least : Nat) (path : String) (c : Cursor) :
    (readCount arity least path).Does c [.take 4 c] := by
  have taken := Decoder.word_does 4 c
  rw [← readCountUnder_clamped]
  unfold readCountUnder Decoder.Does at *
  cases counted : Decoder.word 4 c with
  | error e last =>
    rw [counted] at taken
    rw [Stateful.bind_of_error counted]
    exact taken
  | ok count middle =>
    rw [counted] at taken
    rw [Stateful.bind_of_ok counted]
    have passed := (Decoder.word_ok_iff.mp counted).2
    have checked : c.Ends [.take 4 c] (passCount .clamped least path count middle) := by
      rw [passCount_eq]
      split
      · rename_i full
        have crowd : middle.remaining < count * max least 1 := by simpa [Guard.clamped] using full
        exact .fault (.crowded path passed (Nat.pos_of_ne_zero fun none => by simp [none] at crowd))
      · exact taken
    cases arity.length? with
    | none => exact checked
    | some n =>
      dsimp only
      split
      · exact Cursor.Goes.append taken (.fault (.refused middle rfl))
      · exact checked

/-- The loop over array items begins only where there is a byte for each of them. -/
theorem readCount_room {arity : Arity} {least count : Nat} {path : String} {c c' : Cursor}
    (counted : readCount arity least path c = .ok count c') : count ≤ c'.remaining := by
  rw [← readCountUnder_clamped] at counted
  obtain ⟨-, -, -, free⟩ := readCountUnder_ok_iff.mp counted
  have fits : count * max least 1 ≤ c'.remaining := of_decide_eq_true free
  have item : 0 < max least 1 := Nat.lt_of_lt_of_le Nat.zero_lt_one (Nat.le_max_right least 1)
  exact Nat.le_trans (Nat.le_mul_of_pos_right count item) fits

theorem readItems_does {read : String → Decoder Value} {acts : String → Cursor → List Act}
    (does : ∀ path c, (read path).Does c (acts path c)) (path : String) (index count : Nat) (c : Cursor) :
    (readItems read path index count).Does c (itemActs read acts path index count c) := by
  induction count generalizing index c with
  | zero => exact .pure _ c
  | succ count ih =>
    refine (does _ c).bind fun first c' _ => ?_
    exact (ih _ c').bind_quiet fun _ => .pure _

namespace Field

theorem read_does {f : Field} (does : ∀ path c, (f.element.read path).Does c (f.element.acts path c))
    (path : String) (c : Cursor) : (f.read path).Does c (f.acts path c) := by
  obtain ⟨_, _, element, arity, constant⟩ := f
  cases constant with
  | some literal =>
    rw [read, acts]
    exact .pure literal c
  | none =>
    cases arity with
    | one =>
      rw [read, acts]
      exact does path c
    | many | exactly =>
      simp only [read, acts]
      refine (readCount_does _ _ path c).bind fun count c' counted => ?_
      refine Decoder.Does.loop (readCount_room counted) ?_
      exact (readItems_does does path 0 count c').bind_quiet fun _ => .pure _

theorem readAll_does {fs : List Field}
    (does : ∀ f ∈ fs, ∀ path c, (f.element.read path).Does c (f.element.acts path c)) (path : String)
    (c : Cursor) : (readAll fs path).Does c (allActs fs path c) := by
  induction fs generalizing c with
  | nil =>
    rw [readAll, allActs]
    exact .pure [] c
  | cons f fs ih =>
    rw [readAll, allActs]
    refine (read_does (does f (.head fs)) _ c).bind fun first c' _ => ?_
    exact (ih (fun g member => does g (.tail f member)) c').bind_quiet fun _ => .pure _

end Field

namespace MessageType

theorem acts_eq (type : MessageType) (path : String) (c : Cursor) :
    type.acts path c = Field.allActs type.fields path c := by
  cases type
  rw [acts]

end MessageType

theorem Element.read_does (e : Element) (path : String) (c : Cursor) :
    (e.read path).Does c (e.acts path c) := by
  induction e using Element.induction generalizing path c with
  | primitive p =>
    rw [read, acts]
    exact p.read_does path c
  | message type ih =>
    rw [read, acts, MessageType.readAt_eq, MessageType.acts_eq]
    exact ((Field.readAll_does ih path c).bind_quiet fun _ => .pure _).bind_quiet fun _ => .pure _

theorem MessageType.decodeFrom_does (type : MessageType) (c : Cursor) :
    type.decodeFrom.Does c (type.acts "" c) := by
  rw [decodeFrom, readAt_eq, acts_eq]
  exact (Field.readAll_does (fun f _ => f.element.read_does) "" c).bind_quiet fun _ => .pure _

end TopicWire
