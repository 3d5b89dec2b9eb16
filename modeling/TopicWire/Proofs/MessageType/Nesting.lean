import TopicWire.MessageType.Compile
import TopicWire.Proofs.Result

/-!
# Types inside types

Induction over the types that a message type holds, and what compiling guarantees at every depth:
`Compiled.accessors_nodup` says that no two fields of a type have the same accessor.
-/

namespace TopicWire

/-- Induction over element types: a message type may use the property of its fields' elements. -/
theorem Element.induction {P : Element → Prop} (primitive : ∀ p, P (.primitive p))
    (message : ∀ type : MessageType, (∀ f ∈ type.fields, P f.element) → P (.message type))
    (e : Element) : P e := by
  refine @Element.rec (fun type => ∀ f ∈ type.fields, P f.element) (fun f => P f.element) P
    (fun fields => ∀ f ∈ fields, P f.element) ?_ ?_ primitive message ?_ ?_ e
  · intro _ _ _ _ _ _ fields
    exact fields
  · intro _ _ _ _ _ element
    exact element
  · simp
  · intro _ _ head tail f member
    rcases List.mem_cons.mp member with rfl | later
    · exact head
    · exact tail f later

namespace MessageType

/-- The type and all types inside it have a property. -/
inductive Everywhere (P : MessageType → Prop) : MessageType → Prop
  | intro {type : MessageType} (here : P type)
      (inside : ∀ f ∈ type.fields, ∀ inner, f.element = .message inner → Everywhere P inner) :
      Everywhere P type

theorem Everywhere.here {P : MessageType → Prop} {type : MessageType} (h : type.Everywhere P) :
    P type := by
  cases h with
  | intro here _ => exact here

theorem Everywhere.inside {P : MessageType → Prop} {type : MessageType} (h : type.Everywhere P)
    {f : Field} (member : f ∈ type.fields) {inner : MessageType} (holds : f.element = .message inner) :
    inner.Everywhere P := by
  cases h with
  | intro _ inside => exact inside f member inner holds

theorem Everywhere.flat {P : MessageType → Prop} {type : MessageType} (here : P type)
    (flat : ∀ f ∈ type.fields, ∃ p, f.element = .primitive p) : type.Everywhere P := by
  refine .intro here fun f member inner holds => ?_
  obtain ⟨p, primitive⟩ := flat f member
  rw [primitive] at holds
  cases holds

theorem Everywhere.imp {P Q : MessageType → Prop} {type : MessageType} (h : type.Everywhere P)
    (weaker : ∀ type, P type → Q type) : type.Everywhere Q := by
  induction h with
  | intro here _ ih => exact .intro (weaker _ here) ih

end MessageType

def Element.Everywhere (P : MessageType → Prop) (e : Element) : Prop :=
  ∀ type, e = .message type → type.Everywhere P

theorem Element.Everywhere.induction {P : MessageType → Prop} {Q : Element → Prop}
    (primitive : ∀ p, Q (.primitive p))
    (message : ∀ type : MessageType, P type → (∀ f ∈ type.fields, Q f.element) → Q (.message type))
    {e : Element} (h : e.Everywhere P) : Q e := by
  induction e using Element.induction with
  | primitive p => exact primitive p
  | message type ih =>
    have all : type.Everywhere P := h type rfl
    exact message type all.here fun f member => ih f member fun _ holds => all.inside member holds

theorem Element.everywhere_of_forall {P : MessageType → Prop} (h : ∀ type, P type) (e : Element) :
    e.Everywhere P := by
  induction e using Element.induction with
  | primitive p =>
    intro _ same
    cases same
  | message type ih =>
    intro _ same
    cases same
    exact .intro (h type) ih

theorem MessageType.Everywhere.element {P : MessageType → Prop} {type : MessageType}
    (h : type.Everywhere P) : (Element.message type).Everywhere P := by
  intro _ same
  cases same
  exact h

theorem MessageType.Everywhere.field {P : MessageType → Prop} {type : MessageType}
    (h : type.Everywhere P) {f : Field} (member : f ∈ type.fields) : f.element.Everywhere P :=
  fun _ holds => h.inside member holds

namespace MessageType

/-- A type that compiling made, out of types that compiling made. -/
inductive Compiled : MessageType → Prop
  | ofLines {id digest : String} {lines : List FieldLine} {lookup : String → Option MessageType}
      {type : MessageType} (known : ∀ id inner, lookup id = some inner → Compiled inner)
      (made : MessageType.ofLines id lines digest lookup = .ok type) : Compiled type
  | withDefinition {type : MessageType} (text : String) (made : Compiled type) :
      Compiled { type with definition := text }

theorem Compiled.alone {id digest : String} {lines : List FieldLine} {type : MessageType}
    (made : MessageType.ofLines id lines digest (fun _ => none) = .ok type) : type.Compiled := by
  refine .ofLines (fun _ _ found => ?_) made
  cases found

theorem Compiled.above {id digest key : String} {lines : List FieldLine} {inner type : MessageType}
    (compiled : inner.Compiled)
    (made : MessageType.ofLines id lines digest (fun id => if id = key then some inner else none) =
      .ok type) : type.Compiled := by
  refine .ofLines (fun id found known => ?_) made
  split at known
  · cases known
    exact compiled
  · cases known

end MessageType

/-! ### What a compiled line says -/

/-- How many values the brackets after a type name stand for. -/
def Brackets.arity : Brackets → Arity
  | .none => .one
  | .empty => .many
  | .length n => .exactly n

namespace FieldLine

variable {id : String} {package : Option String} {lookup : String → Option MessageType}

theorem kind?_eq (line : FieldLine) : line.kind? package lookup =
    match splitBrackets line.typeName with
    | none => none
    | some (base, brackets) =>
      if base.isEmpty then none
      else match Primitive.ofName? base with
        | some p => some (.primitive p, brackets.arity)
        | none => (lookup (qualifiedId base package)).map fun type => (.message type, brackets.arity) := by
  unfold kind?
  cases splitBrackets line.typeName with
  | none => rfl
  | some parts =>
    obtain ⟨base, brackets⟩ := parts
    simp only [Option.bind_eq_bind, Option.bind_some]
    split
    · rfl
    · cases Primitive.ofName? base with
      | some p => cases brackets <;> rfl
      | none =>
        cases lookup (qualifiedId base package) with
        | none => rfl
        | some type => cases brackets <;> rfl

theorem kind?_eq_some_iff {line : FieldLine} {e : Element} {arity : Arity} :
    line.kind? package lookup = some (e, arity) ↔
      ∃ base brackets, splitBrackets line.typeName = some (base, brackets) ∧ ¬ base.isEmpty ∧
        arity = brackets.arity ∧
        ((∃ p, Primitive.ofName? base = some p ∧ e = .primitive p) ∨
          Primitive.ofName? base = none ∧
            ∃ type, lookup (qualifiedId base package) = some type ∧ e = .message type) := by
  rw [kind?_eq]
  constructor
  · intro h
    split at h
    · cases h
    · rename_i base brackets divided
      split at h
      · cases h
      · rename_i named
        split at h
        · rename_i p primitive
          cases h
          exact ⟨base, brackets, divided, named, rfl, .inl ⟨p, primitive, rfl⟩⟩
        · rename_i other
          obtain ⟨type, known, same⟩ := Option.map_eq_some_iff.mp h
          cases same
          exact ⟨base, brackets, divided, named, rfl, .inr ⟨other, type, known, rfl⟩⟩
  · rintro ⟨base, brackets, divided, named, rfl, ⟨p, primitive, rfl⟩ | ⟨other, type, known, rfl⟩⟩
    · rw [divided]
      simp only [if_neg named, primitive]
    · rw [divided]
      simp only [if_neg named, other, known, Option.map_some]

theorem kind?_message {line : FieldLine} {inner : MessageType} {arity : Arity}
    (h : line.kind? package lookup = some (.message inner, arity)) :
    ∃ name, lookup name = some inner := by
  obtain ⟨base, _, _, _, _, ⟨p, _, same⟩ | ⟨_, type, known, same⟩⟩ := kind?_eq_some_iff.mp h
  · cases same
  · cases same
    exact ⟨_, known⟩

theorem compile_ok {line : FieldLine} {taken : List String} {f : Field}
    (h : line.compile id package lookup taken = .ok f) :
    line.kind? package lookup = some (f.element, f.arity) ∧ f.line = line ∧
      f.accessor = line.accessor ∧ line.accessor ∉ taken ∧
      (line.literal = none → f.constant = none) ∧
      ∀ literal, line.literal = some literal →
        ∃ value, constant? f.element f.arity literal = some value ∧ f.constant = some value := by
  unfold compile at h
  split at h
  · cases h
  · rename_i element arity kind
    split at h
    · cases h
    · rename_i fresh
      have free : line.accessor ∉ taken := by simpa using fresh
      split at h
      · rename_i bare
        cases h
        exact ⟨kind, rfl, rfl, free, fun _ => rfl, fun literal given => by simp [bare] at given⟩
      · rename_i literal given
        split at h
        · rename_i value read
          cases h
          refine ⟨kind, rfl, rfl, free, fun bare => by simp [given] at bare, fun other same => ?_⟩
          obtain rfl : literal = other := Option.some.inj (given.symm.trans same)
          exact ⟨value, read, rfl⟩
        · cases h

theorem compileAll_cons {line : FieldLine} {lines : List FieldLine} {taken : List String}
    {fields : List Field} (h : compileAll id package lookup taken (line :: lines) = .ok fields) :
    ∃ f rest, fields = f :: rest ∧ line.compile id package lookup taken = .ok f ∧
      compileAll id package lookup (line.accessor :: taken) lines = .ok rest := by
  unfold compileAll at h
  obtain ⟨f, first, h⟩ := Result.bind_ok_iff.mp h
  obtain ⟨rest, others, h⟩ := Result.bind_ok_iff.mp h
  exact ⟨f, rest, (Result.pure_ok_iff.mp h).symm, first, others⟩

theorem compileAll_of_cons {line : FieldLine} {lines : List FieldLine} {taken : List String} {f : Field}
    {rest : List Field} (first : line.compile id package lookup taken = .ok f)
    (others : compileAll id package lookup (line.accessor :: taken) lines = .ok rest) :
    compileAll id package lookup taken (line :: lines) = .ok (f :: rest) := by
  unfold compileAll
  exact Result.bind_ok_iff.mpr ⟨f, first, Result.bind_ok_iff.mpr ⟨rest, others, rfl⟩⟩

theorem compileAll_accessors {lines : List FieldLine} {taken : List String} {fields : List Field}
    (h : compileAll id package lookup taken lines = .ok fields) :
    (fields.map (·.accessor)).Nodup ∧ ∀ accessor ∈ fields.map (·.accessor), accessor ∉ taken := by
  induction lines generalizing taken fields with
  | nil =>
    cases h
    simp
  | cons line lines ih =>
    obtain ⟨f, rest, rfl, first, others⟩ := compileAll_cons h
    obtain ⟨_, _, named, free, _⟩ := compile_ok first
    obtain ⟨distinct, fresh⟩ := ih others
    rw [← named] at fresh free
    simp only [List.map_cons, List.nodup_cons, List.mem_cons, forall_eq_or_imp]
    refine ⟨⟨fun again => fresh _ again List.mem_cons_self, distinct⟩, free, ?_⟩
    intro accessor member
    exact fun used => fresh accessor member (List.mem_cons_of_mem _ used)

theorem compileAll_member {lines : List FieldLine} {taken : List String} {fields : List Field}
    (h : compileAll id package lookup taken lines = .ok fields) {f : Field} (member : f ∈ fields) :
    ∃ (line : FieldLine) (taken : List String), line.compile id package lookup taken = .ok f := by
  induction lines generalizing taken fields with
  | nil =>
    cases h
    simp at member
  | cons line lines ih =>
    obtain ⟨first, rest, rfl, compiled, others⟩ := compileAll_cons h
    rcases List.mem_cons.mp member with rfl | later
    · exact ⟨line, taken, compiled⟩
    · exact ih others later

theorem compileAll_message {lines : List FieldLine} {taken : List String} {fields : List Field}
    (h : compileAll id package lookup taken lines = .ok fields) {f : Field} (member : f ∈ fields)
    {inner : MessageType} (holds : f.element = .message inner) : ∃ name, lookup name = some inner := by
  obtain ⟨line, taken, compiled⟩ := compileAll_member h member
  have kind := (compile_ok compiled).1
  rw [holds] at kind
  exact kind?_message kind

end FieldLine

namespace MessageType

theorem ofLines_ok {id digest : String} {lines : List FieldLine}
    {lookup : String → Option MessageType} {type : MessageType}
    (h : ofLines id lines digest lookup = .ok type) :
    splitId id = .ok (type.package, type.name) ∧ type.id = id ∧ type.digest = digest ∧
      type.definition = "" ∧ FieldLine.compileAll id type.package lookup [] lines = .ok type.fields := by
  unfold ofLines at h
  obtain ⟨⟨package, name⟩, split, h⟩ := Result.bind_ok_iff.mp h
  obtain ⟨fields, compiled, h⟩ := Result.bind_ok_iff.mp h
  obtain rfl := Result.pure_ok_iff.mp h
  exact ⟨split, rfl, rfl, rfl, compiled⟩

/-- What holds of the fields of every list of lines that compiles holds of a compiled type and of the
types inside it. -/
theorem Compiled.everywhere {P : List Field → Prop} {type : MessageType} (made : type.Compiled)
    (fields : ∀ {id package lookup lines fields},
      FieldLine.compileAll id package lookup [] lines = .ok fields → P fields) :
    type.Everywhere fun type => P type.fields := by
  induction made with
  | ofLines _ made ih =>
    obtain ⟨_, _, _, _, compiled⟩ := ofLines_ok made
    refine .intro (fields compiled) fun f member inner holds => ?_
    obtain ⟨name, found⟩ := FieldLine.compileAll_message compiled member holds
    exact ih name inner found
  | withDefinition text _ ih =>
    exact .intro ih.here fun f member inner holds => ih.inside member holds

/-- The accessors of a compiled type are distinct, and so are those of the types inside it. -/
theorem Compiled.accessors_nodup {type : MessageType} (made : type.Compiled) :
    type.Everywhere fun type => type.accessors.Nodup :=
  made.everywhere (P := fun fields => (fields.map Field.accessor).Nodup)
    fun compiled => (FieldLine.compileAll_accessors compiled).1

end MessageType

end TopicWire
