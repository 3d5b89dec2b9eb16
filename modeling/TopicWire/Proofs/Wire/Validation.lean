import TopicWire.Proofs.Wire.Codec
import TopicWire.Proofs.Wire.Faults

/-!
# What validation says about writing

A message that passes a check can be written, unless one of the values that are sent is missing
(`Element.onlyMissing`). One that has all of these, its constants and its type ids is refused by a
lenient check and by writing for the same reason, which is the first of its faults
(`MessageType.validate_stops`). Both are put together in `MessageType.validate_agrees`.
-/

namespace TopicWire

/-! ### Messages inside messages -/

/-- The message `n` at `path`, described by `inner`, is the value at `base` or lies inside it. -/
inductive Element.Inside :
    Element → Value → (base : String) → (inner : MessageType) → (n : Message) → (path : String) → Prop
  | here {type : MessageType} {m : Message} {base : String} :
      Inside (.message type) (.message m) base type m base
  | one {type inner : MessageType} {m n : Message} {base path : String} {f : Field} {v : Value}
      (member : f ∈ type.fields) (sent : f.constant = none) (one : f.arity = .one)
      (held : m.get? f.accessor = some v)
      (inside : Inside f.element v (fieldPath base f.accessor) inner n path) :
      Inside (.message type) (.message m) base inner n path
  | item {type inner : MessageType} {m n : Message} {base path : String} {f : Field}
      {items : List Value} {index : Nat} {v : Value} (member : f ∈ type.fields)
      (sent : f.constant = none) (array : f.arity ≠ .one) (held : m.get? f.accessor = some (.array items))
      (there : items[index]? = some v)
      (inside : Inside f.element v (itemPath (fieldPath base f.accessor) index) inner n path) :
      Inside (.message type) (.message m) base inner n path

/-- In the value at `base`, the field at `path` is sent but has no value. -/
def Element.MissingAt (e : Element) (v : Value) (base path : String) : Prop :=
  ∃ inner n at', e.Inside v base inner n at' ∧
    ∃ f ∈ inner.fields, f.constant = none ∧ n.get? f.accessor = none ∧ path = fieldPath at' f.accessor

namespace MessageType

/-- The message `n` at `path`, described by `inner`, is the message or lies inside it. -/
def Contains (type : MessageType) (m : Message) (inner : MessageType) (n : Message) (path : String) :
    Prop :=
  (Element.message type).Inside (.message m) "" inner n path

/-- In a message of the type, the field at `path` is sent but has no value. -/
def MissingAt (type : MessageType) (m : Message) (path : String) : Prop :=
  (Element.message type).MissingAt (.message m) "" path

/-- The message has a value for every field that is sent, the constants that it has are equal to their
literals, and it does not say that it is of another type. -/
structure Carries (type : MessageType) (m : Message) : Prop where
  own : m.typeId = "" ∨ m.typeId = type.id
  sent : ∀ f ∈ type.fields, f.constant = none → ∃ v, m.get? f.accessor = some v
  constants : ∀ f ∈ type.fields, ∀ literal v, f.constant = some literal →
    m.get? f.accessor = some v → v.same literal = true

end MessageType

theorem Element.Inside.of_flat {type inner : MessageType} {v : Value} {n : Message} {base path : String}
    (flat : ∀ f ∈ type.fields, ∃ p, f.element = .primitive p)
    (inside : (Element.message type).Inside v base inner n path) : inner = type ∧ v = .message n := by
  cases inside with
  | here => exact ⟨rfl, rfl⟩
  | one member _ _ _ inside | item member _ _ _ _ inside =>
    obtain ⟨p, primitive⟩ := flat _ member
    rw [primitive] at inside
    cases inside

/-! ### What passes a check has no faults but missing values -/

theorem mem_itemFaults {faults : Value → String → List WireError} {path : String} {index : Nat}
    {items : List Value} {fault : WireError} (member : fault ∈ itemFaults faults path index items) :
    ∃ i v, items[i]? = some v ∧ fault ∈ faults v (itemPath path (index + i)) := by
  induction items generalizing index with
  | nil => cases member
  | cons v vs ih =>
    rcases List.mem_append.mp member with here | later
    · exact ⟨0, v, rfl, here⟩
    · obtain ⟨i, w, there, among⟩ := ih later
      rw [Nat.add_assoc, Nat.add_comm 1 i] at among
      exact ⟨i + 1, w, there, among⟩

theorem lengthFaults_of_checkLength {arity : Arity} {path base : String} {found : Nat}
    (checked : checkLength arity path found = .ok ()) : lengthFaults arity base found = [] := by
  have allowed := checkLength_ok_iff.mp checked
  cases arity with
  | one | many => rfl
  | exactly n => exact if_pos (allowed n rfl)

/-- Values that pass a check have no faults but missing values. -/
def Element.OnlyMissing (strict : Bool) (e : Element) : Prop :=
  ∀ ⦃v path⦄, e.check strict v path = .ok () → ∀ base, ∀ fault ∈ e.faults v base,
    ∃ path, fault = .missingField path ∧ e.MissingAt v base path

namespace Field

variable {type : MessageType} {f : Field} {m : Message} {base path : String} {strict : Bool}

theorem mem_allFaults {fs : List Field} {fault : WireError} (member : fault ∈ allFaults fs m base) :
    ∃ f ∈ fs, fault ∈ f.faultsIn m base := by
  induction fs with
  | nil =>
    rw [allFaults] at member
    cases member
  | cons f fs ih =>
    rw [allFaults] at member
    rcases List.mem_append.mp member with here | later
    · exact ⟨f, .head fs, here⟩
    · obtain ⟨g, among, there⟩ := ih later
      exact ⟨g, .tail f among, there⟩

theorem onlyMissing (only : f.element.OnlyMissing strict) (member : f ∈ type.fields)
    (checked : checkAll strict type.fields m path = .ok ()) :
    ∀ fault ∈ f.faultsIn m base, ∃ path, fault = .missingField path ∧
      (Element.message type).MissingAt (.message m) base path := by
  intro fault among
  cases f.found m with
  | constant given =>
    rw [faultsIn_constant given] at among
    cases among
  | missing sent absent =>
    obtain ⟨-, -, faults⟩ := failsWith_missing base sent absent
    rw [faults, List.mem_singleton] at among
    exact ⟨_, among, type, m, base, .here, f, member, sent, absent, rfl⟩
  | one sent one held =>
    rw [faultsIn_one sent one held] at among
    obtain ⟨path, missing, inner, n, at', inside, absent⟩ :=
      only (check_one sent one (checkAll_ok checked member held)) _ fault among
    exact ⟨path, missing, inner, n, at', .one member sent one held inside, absent⟩
  | items sent array held =>
    -- The length is that of the type, so the fault is in one of the items.
    obtain ⟨_, same, length, each⟩ := check_array_ok sent array (checkAll_ok checked member held)
    cases same
    rw [faultsIn_array sent array held, lengthFaults_of_checkLength length, List.nil_append] at among
    obtain ⟨i, v, there, among⟩ := mem_itemFaults among
    obtain ⟨_, valid⟩ := checkItems_ok each v (List.mem_of_getElem? there)
    obtain ⟨path, missing, inner, n, at', inside, absent⟩ := only valid _ fault among
    rw [Nat.zero_add] at inside
    exact ⟨path, missing, inner, n, at', .item member sent array held there inside, absent⟩
  | other sent array held kind =>
    obtain ⟨items, same, -⟩ := check_array_ok sent array (checkAll_ok checked member held)
    exact (kind items same).elim

end Field

theorem Element.onlyMissing (strict : Bool) (e : Element) : e.OnlyMissing strict := by
  induction e using Element.induction with
  | primitive p =>
    intro v path checked base fault among
    rw [check] at checked
    split at checked
    · rename_i kind
      rw [faults, if_pos kind] at among
      cases among
    · cases checked
  | message type ih =>
    intro v path checked base fault among
    cases v with
    | message m =>
      rw [check] at checked
      rw [faults, MessageType.faultsAt_eq] at among
      obtain ⟨f, member, among⟩ := Field.mem_allFaults among
      exact Field.onlyMissing (ih f member) member (MessageType.check_fields checked) fault among
    | _ => simp [check] at checked

/-! ### A check stops at the first fault -/

/-- What a check finds is the first of the faults. -/
def StopsAt (check : Except Violation Unit) (faults : List WireError) : Prop :=
  (Result.failure? check).map WireError.violation = faults.head?

namespace StopsAt

variable {check rest : Except Violation Unit} {faults later : List WireError}

theorem andThen (h : StopsAt check faults) (others : StopsAt rest later) :
    StopsAt (check >>= fun _ => rest) (faults ++ later) := by
  unfold StopsAt at h others ⊢
  rw [Result.failure?_bind fun _ => rfl, List.head?_append, ← h, ← others]
  cases check <;> rfl

end StopsAt

theorem checkLength_stops (arity : Arity) (path : String) (found : Nat) :
    StopsAt (checkLength arity path found) (lengthFaults arity path found) := by
  cases arity with
  | one | many => rfl
  | exactly n =>
    rw [checkLength, lengthFaults]
    split <;> rfl

theorem checkItems_stops {check : Value → String → Except Violation Unit}
    {faults : Value → String → List WireError} {path : String} {index : Nat} {items : List Value}
    (each : ∀ i v, items[i]? = some v →
      StopsAt (check v (itemPath path (index + i))) (faults v (itemPath path (index + i)))) :
    StopsAt (checkItems check path index items) (itemFaults faults path index items) := by
  induction items generalizing index with
  | nil => rfl
  | cons v vs ih =>
    rw [checkItems, itemFaults]
    refine (each 0 v rfl).andThen (ih fun i w there => ?_)
    have later := each (i + 1) w there
    rwa [Nat.add_comm i 1, ← Nat.add_assoc] at later

/-- A lenient check of a value in which nothing is missing or modified stops at the first fault. -/
def Element.CheckStops (e : Element) : Prop :=
  ∀ v base, (∀ inner n path, e.Inside v base inner n path → inner.Carries n) →
    StopsAt (e.check false v base) (e.faults v base)

namespace Field

variable {type : MessageType} {f : Field} {fs : List Field} {m : Message} {base : String}

/-- The check of the value that a message has for a field, if it has one. -/
theorem checkAll_cons (strict : Bool) : checkAll strict (f :: fs) m base =
    ((m.get? f.accessor).elim (.ok ()) fun v => f.check strict v (fieldPath base f.accessor)) >>=
      fun _ => checkAll strict fs m base := by
  rw [checkAll]
  cases m.get? f.accessor <;> rfl

theorem check_stops (stops : f.element.CheckStops) (member : f ∈ type.fields)
    (carried : ∀ inner n path, (Element.message type).Inside (.message m) base inner n path →
      inner.Carries n) :
    StopsAt ((m.get? f.accessor).elim (.ok ()) fun v => f.check false v (fieldPath base f.accessor))
      (f.faultsIn m base) := by
  have here : type.Carries m := carried type m base .here
  cases f.found m with
  | constant given =>
    rw [faultsIn_constant given]
    obtain ⟨literal, given⟩ := Option.isSome_iff_exists.mp given
    cases held : m.get? f.accessor with
    | none => rfl
    | some v =>
      rw [Option.elim_some, check_of_constant given, if_pos (here.constants f member _ _ given held)]
      rfl
  | missing sent absent =>
    obtain ⟨v, held⟩ := here.sent f member sent
    rw [absent] at held
    cases held
  | one sent one held =>
    rw [held, Option.elim_some, check_of_one sent one, faultsIn_one sent one held]
    exact stops _ _ fun inner n path inside => carried inner n path (.one member sent one held inside)
  | items sent array held =>
    rw [held, Option.elim_some, check_of_array sent array, faultsIn_array sent array held]
    refine (checkLength_stops ..).andThen (checkItems_stops fun i v there => ?_)
    rw [Nat.zero_add]
    exact stops _ _ fun inner n path inside =>
      carried inner n path (.item member sent array held there inside)
  | other sent array held kind =>
    obtain ⟨-, -, faults⟩ := failsWith_other base sent array held kind
    rw [held, Option.elim_some, faults, check_of_other sent array kind]
    rfl

theorem checkAll_stops (among : ∀ f ∈ fs, f ∈ type.fields)
    (stops : ∀ f ∈ type.fields, f.element.CheckStops)
    (carried : ∀ inner n path, (Element.message type).Inside (.message m) base inner n path →
      inner.Carries n) :
    StopsAt (checkAll false fs m base) (allFaults fs m base) := by
  induction fs with
  | nil =>
    rw [checkAll, allFaults]
    rfl
  | cons f fs ih =>
    obtain ⟨member, later⟩ := List.forall_mem_cons.mp among
    rw [checkAll_cons, allFaults]
    exact (check_stops (stops f member) member carried).andThen (ih later)

end Field

theorem Element.checkStops (e : Element) : e.CheckStops := by
  induction e using Element.induction with
  | primitive p =>
    intro v base _
    rw [check, faults]
    split <;> rfl
  | message type ih =>
    intro v base carried
    cases v with
    | message m =>
      rw [check, faults, MessageType.check_lenient (carried type m base .here).own,
        MessageType.faultsAt_eq]
      exact Field.checkAll_stops (fun _ member => member) ih carried
    | _ =>
      simp only [check, faults]
      rfl

namespace MessageType

variable {type : MessageType} {m : Message}

theorem validate_stops (carried : ∀ inner n path, type.Contains m inner n path → inner.Carries n) :
    StopsAt (type.validate m false) (type.faults m) := by
  have stops := (Element.message type).checkStops (.message m) "" carried
  rwa [Element.check, Element.faults] at stops

theorem validate_only_missing {strict : Bool} (valid : type.validate m strict = .ok ()) :
    ∀ fault ∈ type.faults m, ∃ path, fault = .missingField path ∧ type.MissingAt m path := by
  have whole : (Element.message type).check strict (.message m) "" = .ok () := by
    rwa [Element.check]
  have only := Element.onlyMissing strict _ whole ""
  rwa [Element.faults] at only

/-- A message that is valid, strictly or not, is written unless a value that is sent is missing. If
none is missing at any depth, the constants that are there are unmodified and no type id is
another, then writing fails for just the reasons for which a lenient check fails. -/
theorem validate_agrees (type : MessageType) (m : Message) (fit : m.everywhere Value.lengthFits = true) :
    (∀ strict, type.validate m strict = .ok () → ∀ out,
      (type.encodeBody m out).2 = .ok () ∨
        ∃ path, (type.encodeBody m out).2 = .error (.missingField path) ∧ type.MissingAt m path) ∧
    ((∀ inner n path, type.Contains m inner n path → inner.Carries n) →
      ∀ out e, (type.encodeBody m out).2 = .error (.violation e) ↔
        type.validate m false = .error e) := by
  have written : (type.writeAt m "").fault = (type.faults m).head? := writeAt_stops fit
  constructor
  · intro strict valid out
    cases outcome : (type.encodeBody m out).2 with
    | ok => exact .inl rfl
    | error fault =>
      have first : (type.faults m).head? = some fault := written ▸ encodeBody_error_iff.mp outcome
      obtain ⟨path, rfl, missing⟩ := validate_only_missing valid fault (List.mem_of_head? first)
      exact .inr ⟨path, rfl, missing⟩
  · intro carried out e
    have checked : (Result.failure? (type.validate m false)).map WireError.violation =
        (type.faults m).head? := validate_stops carried
    rw [encodeBody_error_iff, written, ← checked]
    cases type.validate m false <;> simp [Result.failure?]

/-! ### A path with a wrong point -/

/-- Two points, the second of which has a text as its `x`. -/
def wrongPath : Message :=
  ⟨"", [("points", .array [.message ⟨"", [("x", .int32 7)]⟩,
    .message ⟨"geo/Point", [("DIM", .uint8 1), ("x", .string "seven")]⟩])]⟩

theorem pointType_carries {m : Message} (own : m.typeId = "" ∨ m.typeId = "geo/Point") {x : Value}
    (sent : m.get? "x" = some x) (dimension : ∀ v, m.get? "DIM" = some v → v.same (.uint8 1) = true) :
    pointType.Carries m := by
  refine ⟨own, fun f member bare => ?_, fun f member literal v given held => ?_⟩
  · rcases List.mem_cons.mp member with rfl | later
    · exact ⟨x, sent⟩
    · rw [List.mem_singleton.mp later] at bare
      cases bare
  · rcases List.mem_cons.mp member with rfl | later
    · cases given
    · rw [List.mem_singleton.mp later] at given held
      cases given
      exact dimension v held

theorem wrongPath_carried {inner : MessageType} {n : Message} {path : String}
    (inside : pathType.Contains wrongPath inner n path) : inner.Carries n := by
  cases inside with
  | here =>
    refine ⟨.inl rfl, fun f member _ => ?_, fun f member literal v given _ => ?_⟩
    · rw [List.mem_singleton.mp member]
      exact ⟨_, rfl⟩
    · rw [List.mem_singleton.mp member] at given
      cases given
  | one member _ one _ _ =>
    rw [List.mem_singleton.mp member] at one
    cases one
  | item member _ _ held there inside =>
    rw [List.mem_singleton.mp member] at held inside
    cases held
    obtain ⟨rfl, rfl⟩ := inside.of_flat (by simp [pointType])
    rcases List.mem_cons.mp (List.mem_of_getElem? there) with first | later
    · cases first
      exact pointType_carries (.inl rfl) rfl nofun
    · cases List.mem_singleton.mp later
      refine pointType_carries (.inr rfl) rfl fun v held => ?_
      cases held
      simp [Value.same]

theorem wrongPath_refused :
    pathType.Compiled ∧ wrongPath.everywhere Value.lengthFits = true ∧
      (∀ inner n path, pathType.Contains wrongPath inner n path → inner.Carries n) ∧
      ∀ out, (pathType.encodeBody wrongPath out).2 =
        .error (.violation (.wrongType "points[1].x" "int32" "string")) := by
  have fit : wrongPath.everywhere Value.lengthFits = true := by rfl
  have carried : ∀ inner n path, pathType.Contains wrongPath inner n path → inner.Carries n :=
    fun _ _ _ inside => wrongPath_carried inside
  refine ⟨pathType_compiled, fit, carried, fun out => ?_⟩
  exact ((validate_agrees pathType wrongPath fit).2 carried out _).mpr (by decide +kernel)

end MessageType

end TopicWire
