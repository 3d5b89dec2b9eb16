import TopicWire.Proofs.Wire.Body
import TopicWire.Proofs.Wire.CountGuard

/-!
# Bodies that end by themselves

A body says where it ends, so bodies can stand one behind the other (`MessageType.bodies_delimited`).
`Decoder.Delimited` says this of any decoder and is passed on to all that is made of such decoders.
Only a guard looks at the bytes that are not consumed, and it must not mind more of them.
-/

namespace TopicWire

/-- There are fewer bytes than the value needs, or than its items need. -/
def WireError.isShortage : WireError → Bool
  | .truncated .. | .countTooLarge .. => true
  | _ => false

/-- The same place with `before` bytes more in front of it and `after` behind all others. -/
def Cursor.within (c : Cursor) (before : Nat) (after : Bytes) : Cursor :=
  ⟨before + c.position, c.rest ++ after⟩

namespace Decoder

/-- What is read is decided by the bytes that are consumed. More bytes behind them change nothing, and
without these bytes the same is read or there are too few. -/
structure Delimited {α : Type} (d : Decoder α) : Prop where
  consumes : ∀ ⦃c a c'⦄, d c = .ok a c' → ∃ bytes, c.Passed bytes c'
  longer : ∀ ⦃c a c'⦄, d c = .ok a c' → ∀ before after,
    d (c.within before after) = .ok a (c'.within before after)
  shorter : ∀ ⦃c before after a last⦄, d (c.within before after) = .ok a last →
    ∀ ⦃e c'⦄, d c = .error e c' → e.isShortage = true

namespace Delimited

variable {α β : Type} {d : Decoder α} {f : α → Decoder β}

theorem pure (a : α) : Delimited (pure a) where
  consumes _ _ _ read := ⟨[], Cursor.passed_nil_iff.mpr (Stateful.pure_ok_iff.mp read).2⟩
  longer _ _ _ read before after := by
    obtain ⟨rfl, rfl⟩ := Stateful.pure_ok_iff.mp read
    rfl
  shorter _ _ _ _ _ _ _ _ failed := by cases failed

theorem throw (e : WireError) : Delimited (throw e : Decoder α) where
  consumes _ _ _ read := (Stateful.throw_ok read).elim
  longer _ _ _ read := (Stateful.throw_ok read).elim
  shorter _ _ _ _ _ read := (Stateful.throw_ok read).elim

theorem bind (first : d.Delimited) (rest : ∀ a, (f a).Delimited) : Delimited (d >>= f) where
  consumes c b c' read := by
    obtain ⟨a, middle, before, behind⟩ := Stateful.bind_ok_iff.mp read
    obtain ⟨xs, front⟩ := first.consumes before
    obtain ⟨ys, back⟩ := (rest a).consumes behind
    exact ⟨xs ++ ys, Cursor.passed_append_iff.mpr ⟨middle, front, back⟩⟩
  longer c b c' read before after := by
    obtain ⟨a, middle, front, back⟩ := Stateful.bind_ok_iff.mp read
    rw [Stateful.bind_of_ok (first.longer front before after)]
    exact (rest a).longer back before after
  shorter c before after b last read e c' failed := by
    obtain ⟨a, middle, front, back⟩ := Stateful.bind_ok_iff.mp read
    cases short : d c with
    | error e' stopped =>
      rw [Stateful.bind_of_error short] at failed
      cases failed
      exact first.shorter front short
    | ok a' stopped =>
      rw [Stateful.bind_of_ok short] at failed
      -- With the bytes behind, the first part reads the same, so the second one starts there.
      have again := (first.longer short before after).symm.trans front
      cases again
      exact (rest a).shorter back failed

end Delimited

theorem take_delimited (n : Nat) : Delimited (take n) where
  consumes _ bytes _ read := ⟨bytes, (take_ok_iff.mp read).2⟩
  longer _ _ _ read before after := by
    obtain ⟨length, passed⟩ := take_ok_iff.mp read
    refine take_ok_iff.mpr ⟨length, ?_, ?_⟩
    · simp only [Cursor.within, passed.rest, List.append_assoc]
    · simp only [Cursor.within, passed.position, Nat.add_assoc]
  shorter _ _ _ _ _ _ _ _ failed := by
    unfold take at failed
    split at failed
    · cases failed
    · cases failed
      rfl

theorem word_delimited (width : Nat) : Delimited (word width) :=
  (take_delimited width).bind fun _ => .pure _

end Decoder

/-! ### Values -/

namespace Primitive

theorem readBool_delimited (path : String) : (readBool path).Delimited := by
  refine (Decoder.word_delimited 1).bind fun n => ?_
  split
  · exact .pure _
  · exact .pure _
  · exact .throw _

theorem readString_delimited (path : String) : (readString path).Delimited := by
  refine (Decoder.word_delimited 4).bind fun length => ?_
  refine (Decoder.take_delimited length).bind fun bytes => ?_
  split
  · exact .pure _
  · exact .throw _

theorem read_delimited (p : Primitive) (path : String) : (p.read path).Delimited := by
  cases p with
  | bool => exact readBool_delimited path
  | string => exact readString_delimited path
  | time | duration =>
    exact (Decoder.word_delimited 4).bind fun _ => (Decoder.word_delimited 4).bind fun _ => .pure _
  | _ => exact (Decoder.word_delimited _).bind fun _ => .pure _

end Primitive

/-- What a guard lets through it also lets through with more bytes left. -/
def Guard.Monotone (guard : Guard) : Prop :=
  ∀ ⦃minSize count remaining more⦄, remaining ≤ more → guard minSize count remaining = true →
    guard minSize count more = true

theorem Guard.clamped_monotone : clamped.Monotone := by
  intro minSize count remaining more fewer free
  have fits : count * max minSize 1 ≤ remaining := of_decide_eq_true free
  exact decide_eq_true (Nat.le_trans fits fewer)

section Guarded

variable {guard : Guard}

theorem passCount_delimited (monotone : guard.Monotone) (least : Nat) (path : String) (count : Nat) :
    (passCount guard least path count).Delimited where
  consumes _ _ _ read := ⟨[], Cursor.passed_nil_iff.mpr (passCount_ok_iff.mp read).2.1⟩
  longer c n c' read before after := by
    obtain ⟨rfl, rfl, free⟩ := passCount_ok_iff.mp read
    refine passCount_ok_iff.mpr ⟨rfl, rfl, monotone ?_ free⟩
    simp [Cursor.remaining, Cursor.within]
  shorter c before after n last _ e c' failed := by
    unfold passCount at failed
    rw [Stateful.bind_of_ok (Decoder.remaining_ok_iff.mpr ⟨rfl, rfl⟩)] at failed
    split at failed
    · cases failed
      rfl
    · cases failed

theorem readCountUnder_delimited (monotone : guard.Monotone) (arity : Arity) (least : Nat)
    (path : String) : (readCountUnder guard arity least path).Delimited := by
  refine (Decoder.word_delimited 4).bind fun count => ?_
  have passed := passCount_delimited monotone least path count
  split
  · split
    · exact (Decoder.Delimited.throw _).bind fun _ => passed
    · exact passed
  · exact passed

theorem readItems_delimited {read : String → Decoder Value} (item : ∀ path, (read path).Delimited)
    (path : String) (index count : Nat) : (readItems read path index count).Delimited := by
  induction count generalizing index with
  | zero => exact .pure _
  | succ count ih => exact (item _).bind fun _ => (ih _).bind fun _ => .pure _

namespace Field

theorem readUnder_delimited (monotone : guard.Monotone) {f : Field}
    (element : ∀ path, (f.element.readUnder guard path).Delimited) (path : String) :
    (f.readUnder guard path).Delimited := by
  obtain ⟨_, _, e, arity, constant⟩ := f
  cases constant with
  | some literal =>
    rw [readUnder]
    exact .pure literal
  | none =>
    cases arity with
    | one =>
      rw [readUnder]
      exact element path
    | many | exactly =>
      simp only [readUnder]
      refine (readCountUnder_delimited monotone _ _ path).bind fun count => ?_
      exact (readItems_delimited element path 0 count).bind fun _ => .pure _

theorem readAllUnder_delimited (monotone : guard.Monotone) {fs : List Field}
    (elements : ∀ f ∈ fs, ∀ path, (f.element.readUnder guard path).Delimited) (path : String) :
    (readAllUnder guard fs path).Delimited := by
  induction fs with
  | nil =>
    rw [readAllUnder]
    exact .pure _
  | cons f fs ih =>
    rw [readAllUnder]
    refine (readUnder_delimited monotone (elements f (.head fs)) _).bind fun _ => ?_
    exact (ih fun g member => elements g (.tail f member)).bind fun _ => .pure _

end Field

theorem Element.readUnder_delimited (monotone : guard.Monotone) (e : Element) (path : String) :
    (e.readUnder guard path).Delimited := by
  induction e using Element.induction generalizing path with
  | primitive p =>
    rw [readUnder]
    exact p.read_delimited path
  | message type ih =>
    rw [readUnder, MessageType.readUnder_eq]
    exact ((Field.readAllUnder_delimited monotone ih path).bind fun _ => .pure _).bind fun _ => .pure _

end Guarded

/-! ### Bodies -/

namespace MessageType

variable {type : MessageType} {m : Message} {body : Bytes}

theorem decodeFrom_delimited (type : MessageType) : type.decodeFrom.Delimited := by
  rw [decodeFrom, ← readUnder_clamped, readUnder_eq]
  exact (Field.readAllUnder_delimited Guard.clamped_monotone
    (fun f _ path => f.element.readUnder_delimited Guard.clamped_monotone path) "").bind fun _ => .pure _

theorem decodeBody_ok_iff :
    type.decodeBody body = .ok m ↔
      type.decodeFrom (.start body) = .ok m ⟨body.length, []⟩ := by
  rw [← decodeBodyUnder_clamped, decodeBodyUnder_ok_iff, readUnder_clamped]
  constructor
  · rintro ⟨last, read, empty⟩
    obtain ⟨bytes, passed⟩ := type.decodeFrom_delimited.consumes read
    have whole : body = bytes := by
      have rest := passed.rest
      rwa [empty, List.append_nil] at rest
    have behind : last.position = body.length := by
      rw [passed.position, whole]
      exact Nat.zero_add _
    have same : last = ⟨body.length, []⟩ := by rw [← behind, ← empty]
    exact same ▸ read
  · intro read
    exact ⟨_, read, rfl⟩

/-- A body is read from the bytes that follow a cursor, whatever comes behind it. -/
theorem decodeFrom_append (decoded : type.decodeBody body = .ok m) (position : Nat) (after : Bytes) :
    type.decodeFrom ⟨position, body ++ after⟩ = .ok m ⟨position + body.length, after⟩ :=
  type.decodeFrom_delimited.longer (decodeBody_ok_iff.mp decoded) position after

/-- What is missing of a body is noticed, and nothing else is found wrong with it. -/
theorem decodeBody_cut {front rest : Bytes} (decoded : type.decodeBody (front ++ rest) = .ok m)
    (missing : rest ≠ []) : ∃ e, type.decodeBody front = .error e ∧ e.isShortage = true := by
  have whole : type.decodeFrom ((Cursor.start front).within 0 rest) =
      .ok m ⟨(front ++ rest).length, []⟩ := decodeBody_ok_iff.mp decoded
  cases read : type.decodeFrom (.start front) with
  | ok m' last =>
    have again := (type.decodeFrom_delimited.longer read 0 rest).symm.trans whole
    have left : last.rest ++ rest = [] := by
      injection again with _ same
      exact congrArg Cursor.rest same
    exact (missing (List.append_eq_nil_iff.mp left).2).elim
  | error e last =>
    refine ⟨e, ?_, type.decodeFrom_delimited.shorter whole read⟩
    rw [decodeBody, Decoder.run, Stateful.bind_of_error read]

theorem decodeEach_append {parts : List (MessageType × Bytes × Message)}
    (decoded : ∀ part ∈ parts, part.1.decodeBody part.2.1 = .ok part.2.2)
    (position : Nat) (after : Bytes) :
    (parts.map (·.1)).mapM decodeFrom ⟨position, parts.flatMap (·.2.1) ++ after⟩ =
      .ok (parts.map (·.2.2)) ⟨position + (parts.flatMap (·.2.1)).length, after⟩ := by
  induction parts generalizing position with
  | nil => rfl
  | cons part parts ih =>
    obtain ⟨type, body, m⟩ := part
    have first := decodeFrom_append (decoded _ (.head parts)) position
      (parts.flatMap (·.2.1) ++ after)
    have others := ih (fun part member => decoded part (.tail _ member)) (position + body.length)
    rw [List.map_cons, List.mapM_cons, List.flatMap_cons, List.append_assoc,
      Stateful.bind_of_ok first, Stateful.bind_of_ok others, List.length_append, ← Nat.add_assoc]
    rfl

/-- A body can be read with anything behind it and not with anything missing, so bodies that stand one
behind the other are read one by one, and none of them begins another one. -/
theorem bodies_delimited :
    (∀ (type : MessageType) body m, type.decodeBody body = .ok m →
      (∀ position after, type.decodeFrom ⟨position, body ++ after⟩ =
        .ok m ⟨position + body.length, after⟩) ∧
      ∀ front, front <+: body → front ≠ body →
        ∃ e, type.decodeBody front = .error e ∧ e.isShortage = true) ∧
    (∀ (parts : List (MessageType × Bytes × Message)) after,
      (∀ part ∈ parts, part.1.decodeBody part.2.1 = .ok part.2.2) →
      (parts.map (·.1)).mapM decodeFrom (.start (parts.flatMap (·.2.1) ++ after)) =
        .ok (parts.map (·.2.2)) ⟨(parts.flatMap (·.2.1)).length, after⟩) ∧
    ∀ (type : MessageType) body m body' m', type.decodeBody body = .ok m →
      type.decodeBody body' = .ok m' → body <+: body' → body = body' := by
  have cut : ∀ (type : MessageType) body m front, type.decodeBody body = .ok m → front <+: body →
      front ≠ body → ∃ e, type.decodeBody front = .error e ∧ e.isShortage = true := by
    rintro type body m front decoded ⟨rest, rfl⟩ proper
    refine decodeBody_cut decoded ?_
    rintro rfl
    exact proper (List.append_nil front).symm
  refine ⟨fun type body m decoded => ⟨decodeFrom_append decoded, ?_⟩, ?_, ?_⟩
  · intro front begins proper
    exact cut type body m front decoded begins proper
  · intro parts after decoded
    have read := decodeEach_append decoded 0 after
    rwa [Nat.zero_add] at read
  · intro type body m body' m' decoded decoded' begins
    apply Classical.byContradiction
    intro proper
    obtain ⟨e, refused, -⟩ := cut type body' m' body decoded' begins proper
    rw [decoded] at refused
    cases refused

/-! ### Empty messages in front of a number -/

/-- Any number of messages without fields, and a number: `Empty[] xs` and `uint32 last`. -/
def countedType : MessageType :=
  ⟨"geo/Counted", some "geo", "Counted", "counted", "",
    [⟨⟨"xs", "Empty[]", none, 1⟩, "xs", .message emptyType, .many, none⟩,
      ⟨⟨"last", "uint32", none, 2⟩, "last", .primitive .uint32, .one, none⟩]⟩

/-- Four empty messages and the number 9. -/
def fourAndNine : Message :=
  ⟨"geo/Counted", [("last", .uint32 9),
    ("xs", .array (List.replicate 4 (.message ⟨"geo/Empty", []⟩)))]⟩

/-- Without its last byte the body has one byte less behind the count than the count asks for. -/
theorem counted_twice :
    countedType.decodeBody [4, 0, 0, 0, 9, 0, 0, 0] = .ok fourAndNine ∧
      (∃ e, countedType.decodeBody [4, 0, 0, 0, 9, 0, 0] = .error e ∧ e.isShortage = true) ∧
      [countedType, pointType].mapM decodeFrom
          (.start [4, 0, 0, 0, 9, 0, 0, 0, 7, 0, 0, 0, 4, 0]) =
        .ok [fourAndNine, ⟨"geo/Point", [("DIM", .uint8 1), ("x", .int32 7)]⟩] ⟨12, [4, 0]⟩ := by
  have counted : countedType.decodeBody [4, 0, 0, 0, 9, 0, 0, 0] = .ok fourAndNine := by rfl
  have point : pointType.decodeBody [7, 0, 0, 0] =
      .ok ⟨"geo/Point", [("DIM", .uint8 1), ("x", .int32 7)]⟩ := by rfl
  have both : ∀ part ∈ [(countedType, [4, 0, 0, 0, 9, 0, 0, 0], fourAndNine),
      (pointType, [7, 0, 0, 0], ⟨"geo/Point", [("DIM", .uint8 1), ("x", .int32 7)]⟩)],
      part.1.decodeBody part.2.1 = .ok part.2.2 := by
    simp only [List.forall_mem_cons]
    exact ⟨counted, point, List.forall_mem_nil _⟩
  exact ⟨counted, (bodies_delimited.1 _ _ _ counted).2 _ ⟨[0], rfl⟩ (by decide),
    bodies_delimited.2.1 _ [4, 0] both⟩

end MessageType

end TopicWire
