import TopicWire.Proofs.MessageType.Valid
import TopicWire.Proofs.Value.Everywhere
import TopicWire.Proofs.Wire.Body

/-!
# Where writing and sizing fail

`MessageType.faults` lists all that is wrong with a message, in field order. Writing stops at the
first of these faults (`MessageType.writeAt_stops`), sizing at the first that is not the length of an
array (`MessageType.sizeAt_stops`), and otherwise the size is the number of bytes written
(`MessageType.size_agrees`).
-/

namespace TopicWire

/-! ### Faults -/

/-- An array of another length than the declared one. -/
def WireError.isArrayLength : WireError → Bool
  | .violation (.arrayLength ..) => true
  | _ => false

/-- The faults of array items in order, the first of them having the given index. -/
def itemFaults (faults : Value → String → List WireError) (path : String) :
    (index : Nat) → List Value → List WireError
  | _, [] => []
  | index, v :: vs => faults v (itemPath path index) ++ itemFaults faults path (index + 1) vs

def lengthFaults (arity : Arity) (path : String) (found : Nat) : List WireError :=
  match arity with
  | .exactly n => if found = n then [] else [.violation (.arrayLength path n found)]
  | _ => []

mutual

/-- What is wrong with the message at a path: values that are missing, have another kind than the
declared one or are arrays of another length, at every depth. Constants do not count. -/
def MessageType.faultsAt : MessageType → Message → String → List WireError
  | ⟨_, _, _, _, _, fields⟩, m, path => Field.allFaults fields m path

def Field.allFaults : List Field → Message → String → List WireError
  | [], _, _ => []
  | f :: fs, m, path => f.faultsIn m path ++ Field.allFaults fs m path

def Field.faultsIn : Field → Message → String → List WireError
  | ⟨_, accessor, element, arity, constant⟩, m, path =>
    if constant.isSome then []
    else
      let path := fieldPath path accessor
      match m.get? accessor, arity with
      | none, _ => [.missingField path]
      | some v, .one => element.faults v path
      | some (.array items), arity =>
        lengthFaults arity path items.length ++ itemFaults element.faults path 0 items
      | some v, arity => [.wrongType path (element.text ++ arity.text) v.kindName]

def Element.faults : Element → Value → String → List WireError
  | .primitive p, v, path =>
    if v.primitive? = some p then [] else [.wrongType path p.name v.kindName]
  | .message type, v, path =>
    match v with
    | .message m => type.faultsAt m path
    | v => [.wrongType path type.id v.kindName]

end

def MessageType.faults (type : MessageType) (m : Message) : List WireError :=
  type.faultsAt m ""

/-- A string or an array whose length can be told in four bytes; any other value. -/
def Value.lengthFits : Value → Bool
  | .string s => s.utf8ByteSize < 0x100000000
  | .array items => items.length < 0x100000000
  | _ => true

/-! ### What a message has for a field -/

/-- A field is a constant, has no value, or has one value, items or, where there should be items,
something else. -/
inductive Field.Found (f : Field) (m : Message) : Prop
  | constant (given : f.constant.isSome = true)
  | missing (sent : f.constant = none) (absent : m.get? f.accessor = none)
  | one {v : Value} (sent : f.constant = none) (one : f.arity = .one)
      (held : m.get? f.accessor = some v)
  | items {items : List Value} (sent : f.constant = none) (array : f.arity ≠ .one)
      (held : m.get? f.accessor = some (.array items))
  | other {v : Value} (sent : f.constant = none) (array : f.arity ≠ .one)
      (held : m.get? f.accessor = some v) (kind : ∀ items, v ≠ .array items)

namespace Field

variable {f : Field} {m : Message} {path : String} {v : Value} {items : List Value}

theorem found (f : Field) (m : Message) : f.Found m := by
  rcases f.constant_or_one_or_array with constant | ⟨sent, one⟩ | ⟨sent, array⟩
  · exact .constant constant
  · cases held : m.get? f.accessor with
    | none => exact .missing sent held
    | some v => exact .one sent one held
  · cases held : m.get? f.accessor with
    | none => exact .missing sent held
    | some v =>
      cases v with
      | array items => exact .items sent array held
      | _ => exact .other sent array held nofun

theorem faultsIn_constant (given : f.constant.isSome = true) : f.faultsIn m path = [] := by
  obtain ⟨_, _, _, _, _⟩ := f
  unfold faultsIn
  exact if_pos given

/-- Writing a field, sizing it and listing its faults come upon this one fault. -/
def FailsWith (f : Field) (m : Message) (path : String) (e : WireError) : Prop :=
  f.writeIn m path = .ofFault e ∧ f.sizeIn m path = .error e ∧ f.faultsIn m path = [e]

theorem failsWith_missing (path : String) (sent : f.constant = none)
    (absent : m.get? f.accessor = none) :
    f.FailsWith m path (.missingField (fieldPath path f.accessor)) := by
  obtain ⟨_, _, _, _, _⟩ := f
  obtain rfl := sent
  simp only at absent
  simp only [FailsWith, writeIn, sizeIn, faultsIn, absent, Option.isSome_none, Bool.false_eq_true,
    if_false, and_self]

theorem failsWith_other (path : String) (sent : f.constant = none) (array : f.arity ≠ .one)
    (held : m.get? f.accessor = some v) (kind : ∀ items, v ≠ .array items) :
    f.FailsWith m path (.wrongType (fieldPath path f.accessor) f.kindText v.kindName) := by
  obtain ⟨_, _, _, arity, _⟩ := f
  obtain rfl := sent
  simp only at held
  cases arity with
  | one => exact (array rfl).elim
  | many | exactly =>
    simp only [FailsWith, writeIn, sizeIn, faultsIn, held, Option.isSome_none, Bool.false_eq_true,
      if_false]
    cases v with
    | array items => exact (kind items rfl).elim
    | _ => exact ⟨rfl, rfl, rfl⟩

section One

variable (sent : f.constant = none) (one : f.arity = .one) (held : m.get? f.accessor = some v)
include sent one held

theorem writeIn_one : f.writeIn m path = f.element.write v (fieldPath path f.accessor) := by
  obtain ⟨_, _, _, _, _⟩ := f
  obtain rfl := sent
  obtain rfl := one
  simp only at held
  simp only [writeIn, held, Option.isSome_none, Bool.false_eq_true, if_false]

theorem faultsIn_one : f.faultsIn m path = f.element.faults v (fieldPath path f.accessor) := by
  obtain ⟨_, _, _, _, _⟩ := f
  obtain rfl := sent
  obtain rfl := one
  simp only at held
  simp only [faultsIn, held, Option.isSome_none, Bool.false_eq_true, if_false]

end One

section Items

variable (sent : f.constant = none) (array : f.arity ≠ .one)
  (held : m.get? f.accessor = some (.array items))
include sent array held

theorem writeIn_array : f.writeIn m path =
    (writeCount f.arity (fieldPath path f.accessor) items.length).andThen
      (writeItems f.element.write (fieldPath path f.accessor) 0 items) := by
  obtain ⟨_, _, _, arity, _⟩ := f
  obtain rfl := sent
  simp only at held
  cases arity with
  | one => exact (array rfl).elim
  | many | exactly =>
    simp only [writeIn, held, Option.isSome_none, Bool.false_eq_true, if_false]

theorem faultsIn_array : f.faultsIn m path =
    lengthFaults f.arity (fieldPath path f.accessor) items.length ++
      itemFaults f.element.faults (fieldPath path f.accessor) 0 items := by
  obtain ⟨_, _, _, arity, _⟩ := f
  obtain rfl := sent
  simp only at held
  cases arity with
  | one => exact (array rfl).elim
  | many | exactly =>
    simp only [faultsIn, held, Option.isSome_none, Bool.false_eq_true, if_false]

end Items

end Field

/-! ### Writing stops at the first fault -/

theorem Written.fault_andThen (first rest : Written) :
    (first.andThen rest).fault = first.fault.or rest.fault := by
  obtain ⟨_, fault⟩ := first
  cases fault <;> rfl

theorem writeCount_fault {count : Nat} (fits : count < 0x100000000) (arity : Arity) (path : String) :
    (writeCount arity path count).fault = (lengthFaults arity path count).head? := by
  have told : (lengthBytes count path).fault = none := by rw [lengthBytes, if_pos fits]; rfl
  cases arity with
  | one | many => exact told
  | exactly n =>
    rw [writeCount, lengthFaults]
    split
    · exact told
    · rfl

theorem Value.primitiveBytes_fault {v : Value} (fits : v.lengthFits = true) (path : String) :
    (v.primitiveBytes path).fault = none := by
  cases v with
  | string s =>
    have short : s.utf8ByteSize < 0x100000000 := of_decide_eq_true fits
    rw [primitiveBytes, Written.fault_andThen, lengthBytes, if_pos short]
    rfl
  | _ => rfl

/-- Values whose lengths fit are written up to their first fault. -/
def Element.WriteStops (e : Element) : Prop :=
  ∀ v path, v.everywhere Value.lengthFits = true → (e.write v path).fault = (e.faults v path).head?

theorem Element.WriteStops.items {e : Element} (stops : e.WriteStops) {items : List Value}
    (fit : ∀ v ∈ items, v.everywhere Value.lengthFits = true) (path : String) (index : Nat) :
    (writeItems e.write path index items).fault = (itemFaults e.faults path index items).head? := by
  induction items generalizing index with
  | nil => rfl
  | cons v vs ih =>
    obtain ⟨here, later⟩ := List.forall_mem_cons.mp fit
    rw [writeItems, itemFaults, Written.fault_andThen, List.head?_append, stops _ _ here, ih later]

namespace Field

variable {f : Field} {fs : List Field} {m : Message} {path : String}

theorem writeIn_stops (stops : f.element.WriteStops) (fit : m.everywhere Value.lengthFits = true) :
    (f.writeIn m path).fault = (f.faultsIn m path).head? := by
  cases f.found m with
  | constant given =>
    rw [writeIn_constant given, faultsIn_constant given]
    rfl
  | missing sent absent =>
    obtain ⟨written, -, faults⟩ := failsWith_missing path sent absent
    rw [written, faults]
    rfl
  | one sent one held =>
    rw [writeIn_one sent one held, faultsIn_one sent one held]
    exact stops _ _ (Message.everywhere_of_get? fit held)
  | items sent array held =>
    have fits := Message.everywhere_of_get? fit held
    rw [writeIn_array sent array held, faultsIn_array sent array held, Written.fault_andThen,
      List.head?_append, stops.items (Value.everywhere_item fits),
      writeCount_fault (of_decide_eq_true (Value.everywhere_here fits))]
  | other sent array held kind =>
    obtain ⟨written, -, faults⟩ := failsWith_other path sent array held kind
    rw [written, faults]
    rfl

theorem writeAll_stops (stops : ∀ f ∈ fs, f.element.WriteStops)
    (fit : m.everywhere Value.lengthFits = true) :
    (writeAll fs m path).fault = (allFaults fs m path).head? := by
  induction fs with
  | nil =>
    rw [writeAll, allFaults]
    rfl
  | cons f fs ih =>
    obtain ⟨here, later⟩ := List.forall_mem_cons.mp stops
    rw [writeAll, allFaults, Written.fault_andThen, List.head?_append, writeIn_stops here fit, ih later]

end Field

theorem MessageType.faultsAt_eq (type : MessageType) (m : Message) (path : String) :
    type.faultsAt m path = Field.allFaults type.fields m path := by
  cases type
  rw [faultsAt]

theorem Element.writeStops (e : Element) : e.WriteStops := by
  induction e using Element.induction with
  | primitive p =>
    intro v path fit
    rw [write, faults]
    split
    · exact Value.primitiveBytes_fault (Value.everywhere_here fit) path
    · rfl
  | message type ih =>
    intro v path fit
    cases v with
    | message m =>
      rw [Value.everywhere] at fit
      rw [write, faults, MessageType.writeAt_eq, MessageType.faultsAt_eq]
      exact Field.writeAll_stops ih fit
    | _ =>
      simp only [write, faults]
      rfl

/-! ### Sizing stops at the first fault that is no length -/

/-- Values are sized up to their first fault that is not the length of an array. -/
def Element.SizeStops (e : Element) : Prop :=
  ∀ v path, Result.failure? (e.size v path) = (e.faults v path).find? (!·.isArrayLength)

theorem lengthFaults_size (arity : Arity) (path : String) (found : Nat) :
    (lengthFaults arity path found).find? (!·.isArrayLength) = none := by
  cases arity with
  | one | many => rfl
  | exactly n =>
    rw [lengthFaults]
    split <;> rfl

theorem Element.SizeStops.items {e : Element} (stops : e.SizeStops) (path : String) (index : Nat)
    (items : List Value) : Result.failure? (sumItems e.size path index items) =
      (itemFaults e.faults path index items).find? (!·.isArrayLength) := by
  induction items generalizing index with
  | nil => rfl
  | cons v vs ih =>
    rw [sumItems, itemFaults, List.find?_append, Result.failure?_add, stops, ih]

namespace Field

variable {f : Field} {fs : List Field} {m : Message} {path : String}

theorem sizeIn_stops (stops : f.element.SizeStops) :
    Result.failure? (f.sizeIn m path) = (f.faultsIn m path).find? (!·.isArrayLength) := by
  cases f.found m with
  | constant given =>
    rw [sizeIn_constant given, faultsIn_constant given]
    rfl
  | missing sent absent =>
    obtain ⟨-, sized, faults⟩ := failsWith_missing path sent absent
    rw [sized, faults]
    rfl
  | one sent one held =>
    rw [sizeIn_one sent one held, faultsIn_one sent one held]
    exact stops _ _
  | items sent array held =>
    rw [sizeIn_array sent array held, faultsIn_array sent array held, List.find?_append,
      lengthFaults_size, Option.none_or, Result.failure?_map, stops.items]
  | other sent array held kind =>
    obtain ⟨-, sized, faults⟩ := failsWith_other path sent array held kind
    rw [sized, faults]
    rfl

theorem sizeAll_stops (stops : ∀ f ∈ fs, f.element.SizeStops) :
    Result.failure? (sizeAll fs m path) = (allFaults fs m path).find? (!·.isArrayLength) := by
  induction fs with
  | nil =>
    rw [sizeAll, allFaults]
    rfl
  | cons f fs ih =>
    obtain ⟨here, later⟩ := List.forall_mem_cons.mp stops
    rw [sizeAll, allFaults, List.find?_append, Result.failure?_add, sizeIn_stops here, ih later]

end Field

theorem Element.sizeStops (e : Element) : e.SizeStops := by
  induction e using Element.induction with
  | primitive p =>
    intro v path
    rw [size, faults]
    unfold Primitive.size
    split
    · split <;> rfl
    · rfl
  | message type ih =>
    intro v path
    cases v with
    | message m =>
      rw [size, faults, MessageType.sizeAt_eq, MessageType.faultsAt_eq]
      exact Field.sizeAll_stops ih
    | _ =>
      simp only [size, faults]
      rfl

namespace MessageType

variable {type : MessageType} {m : Message} {path : String}

theorem writeAt_stops (fit : m.everywhere Value.lengthFits = true) :
    (type.writeAt m path).fault = (type.faultsAt m path).head? := by
  rw [writeAt_eq, faultsAt_eq]
  exact Field.writeAll_stops (fun f _ => f.element.writeStops) fit

theorem sizeAt_stops :
    Result.failure? (type.sizeAt m path) = (type.faultsAt m path).find? (!·.isArrayLength) := by
  rw [sizeAt_eq, faultsAt_eq]
  exact Field.sizeAll_stops fun f _ => f.element.sizeStops

theorem encodeBody_error_iff {out : Bytes} {e : WireError} :
    (type.encodeBody m out).2 = .error e ↔ (type.writeAt m "").fault = some e := by
  rw [encodeBody]
  obtain ⟨bytes, fault⟩ := type.writeAt m ""
  cases fault <;> simp [Written.result, Except.map]

/-- What is written goes behind what is there and does not depend on it. If nothing fails, the size is
the number of bytes written, and the frame is the size in four bytes and these bytes. If sizing
fails, so does writing, with the same fault or with the length of an array that comes before it. If
only writing fails, it is with the length of an array. -/
theorem size_agrees (type : MessageType) (m : Message) (fit : m.everywhere Value.lengthFits = true) :
    (∃ appended outcome, ∀ out, type.encodeBody m out = (out ++ appended, outcome)) ∧
    (∀ out after, type.encodeBody m out = (after, .ok ()) →
      ∃ body, after = out ++ body ∧ type.size m = .ok body.length ∧
        (body.length < 0x100000000 →
          type.encode m = .ok (Bytes.littleEndian 4 body.length ++ body))) ∧
    (∀ e, type.size m = .error e → ∃ e', (∀ out, (type.encodeBody m out).2 = .error e') ∧
      (e' = e ∨ e'.isArrayLength = true ∧ [e', e].Sublist (type.faults m))) ∧
    (∀ n out e, type.size m = .ok n → (type.encodeBody m out).2 = .error e →
      e.isArrayLength = true) := by
  have stops : (type.writeAt m "").fault = (type.faults m).head? := writeAt_stops fit
  refine ⟨⟨_, _, fun out => rfl⟩, fun out after sent => ?_, fun e unsized => ?_,
    fun n out e sized failed => ?_⟩
  · obtain ⟨rfl, done⟩ := Prod.mk.inj sent
    obtain ⟨body, written, -⟩ := Result.map_ok_iff.mp done
    rw [Written.result_eq_ok_iff] at written
    refine ⟨body, by rw [written, Written.ofBytes], (writeAt_ok written "").2, fun small => ?_⟩
    exact encode_ok_iff.mpr ⟨body, written, small, rfl⟩
  · have first : (type.faults m).find? (!·.isArrayLength) = some e := by
      rw [faults, ← sizeAt_stops]
      exact congrArg Result.failure? unsized
    obtain ⟨other, before, after, found, lengths⟩ := List.find?_eq_some_iff_append.mp first
    -- Only lengths stand before the fault that sizing finds, and writing stops at the first of them.
    cases before with
    | nil =>
      refine ⟨e, fun out => encodeBody_error_iff.mpr ?_, .inl rfl⟩
      rw [stops, found]
      rfl
    | cons e' before =>
      refine ⟨e', fun out => encodeBody_error_iff.mpr ?_, .inr ⟨by simpa using lengths e' (.head _), ?_⟩⟩
      · rw [stops, found]
        rfl
      · rw [found]
        exact .cons_cons e' (List.singleton_sublist.mpr (List.mem_append_right _ (.head _)))
  · have none : (type.faults m).find? (!·.isArrayLength) = none := by
      rw [faults, ← sizeAt_stops]
      exact congrArg Result.failure? sized
    rw [encodeBody_error_iff, stops] at failed
    simpa using List.find?_eq_none.mp none e (List.mem_of_head? failed)

/-- Three limits where there should be two, and none of them has its value. -/
def emptyLimits : Message :=
  ⟨"", [("limits", .array [.message (.empty ""), .message (.empty ""), .message (.empty "")])]⟩

theorem emptyLimits_sized :
    rangeType.Compiled ∧ emptyLimits.everywhere Value.lengthFits = true ∧
      rangeType.size emptyLimits = .error (.missingField "limits[0].x") ∧
      ∃ e, (∀ out, (rangeType.encodeBody emptyLimits out).2 = .error e) ∧
        (e = .missingField "limits[0].x" ∨
          e.isArrayLength = true ∧ [e, .missingField "limits[0].x"].Sublist (rangeType.faults emptyLimits)) ∧
        e = .violation (.arrayLength "limits" 2 3) := by
  have fit : emptyLimits.everywhere Value.lengthFits = true := by rfl
  have unsized : rangeType.size emptyLimits = .error (.missingField "limits[0].x") := by decide +kernel
  obtain ⟨e, failed, order⟩ := (size_agrees rangeType emptyLimits fit).2.2.1 _ unsized
  refine ⟨rangeType_compiled, fit, unsized, e, failed, order, ?_⟩
  have written : (rangeType.encodeBody emptyLimits []).2 =
      .error (.violation (.arrayLength "limits" 2 3)) := by decide +kernel
  exact Except.error.inj ((failed []).symm.trans written)

end MessageType

end TopicWire
