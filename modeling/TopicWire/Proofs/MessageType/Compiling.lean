import Mathlib.Data.List.Forall2
import TopicWire.Proofs.MessageType.Complete
import TopicWire.Proofs.Schema.Spelling

/-!
# Which lines compile

Lines compile exactly if each of them is sound and no two have the same accessor
(`FieldLine.compileAll_ok_iff`), and then each line makes the field that `FieldLine.Makes` describes.
Otherwise the error is that of the first line at fault (`FieldLine.compileAll_error_iff`).
-/

namespace TopicWire

namespace FieldLine

/-- Inside a package the type name of the line stands for this element type and this many values. -/
def Resolves (line : FieldLine) (package : Option String) (lookup : String → Option MessageType)
    (e : Element) (arity : Arity) : Prop :=
  ∃ base brackets, Spelled line.typeName base brackets ∧ base ≠ "" ∧ arity = brackets.arity ∧
    ((∃ p, Primitive.ofName? base = some p ∧ e = .primitive p) ∨
      Primitive.ofName? base = none ∧
        ∃ type, lookup (qualifiedId base package) = some type ∧ e = .message type)

/-- The literal says which value a field of this kind has. Only a single primitive value can be said. -/
def Says (literal : String) (e : Element) (arity : Arity) (value : Value) : Prop :=
  arity = .one ∧ ∃ p, e = .primitive p ∧ p.literal? literal = some value

/-- The type name stands for something, and the literal, if the line has one, says a value of that. -/
def Sound (line : FieldLine) (package : Option String) (lookup : String → Option MessageType) : Prop :=
  ∃ e arity, line.Resolves package lookup e arity ∧
    ∀ literal, line.literal = some literal → ∃ value, Says literal e arity value

structure WellFormed (lines : List FieldLine) (package : Option String)
    (lookup : String → Option MessageType) : Prop where
  sound : ∀ line ∈ lines, line.Sound package lookup
  distinct : (lines.map accessor).Nodup

/-- What is wrong with a line after lines with these accessors. Its type name is looked at first, then
its accessor, then its literal. -/
inductive Fault (line : FieldLine) (id : String) (package : Option String)
    (lookup : String → Option MessageType) (taken : List String) : SchemaError → Prop
  | unknown (unresolved : ¬ ∃ e arity, line.Resolves package lookup e arity) :
      Fault line id package lookup taken (.unknownType line.name line.typeName)
  | again {e : Element} {arity : Arity} (resolved : line.Resolves package lookup e arity)
      (used : line.accessor ∈ taken) :
      Fault line id package lookup taken (.duplicateAccessor id line.accessor)
  | unreadable {e : Element} {arity : Arity} {literal : String}
      (resolved : line.Resolves package lookup e arity) (free : line.accessor ∉ taken)
      (given : line.literal = some literal) (unsaid : ¬ ∃ value, Says literal e arity value) :
      Fault line id package lookup taken (.invalidConstant line.name line.typeName literal)

variable {line : FieldLine} {lines : List FieldLine} {id : String} {package : Option String}
  {lookup : String → Option MessageType} {taken : List String} {e : Element} {arity : Arity}
  {f : Field} {fields : List Field} {error : SchemaError}

/-! ### One line -/

theorem kind?_eq_some_iff_resolves :
    line.kind? package lookup = some (e, arity) ↔ line.Resolves package lookup e arity := by
  rw [kind?_eq_some_iff]
  unfold Resolves
  simp only [splitBrackets_eq_some_iff, String.isEmpty_iff, ne_eq]

theorem kind?_eq_none_iff :
    line.kind? package lookup = none ↔ ¬ ∃ e arity, line.Resolves package lookup e arity := by
  simp only [← kind?_eq_some_iff_resolves, Option.eq_none_iff_forall_ne_some, Prod.forall, not_exists,
    ne_eq]

theorem constant?_eq_some_iff {literal : String} {value : Value} :
    constant? e arity literal = some value ↔ Says literal e arity value := by
  unfold constant? Says
  split
  · simp
  · rename_i other
    simp only [reduceCtorEq, false_iff]
    rintro ⟨rfl, p, rfl, -⟩
    exact other p rfl rfl

theorem constant?_eq_none_iff {literal : String} :
    constant? e arity literal = none ↔ ¬ ∃ value, Says literal e arity value := by
  simp only [← constant?_eq_some_iff, Option.eq_none_iff_forall_ne_some, not_exists, ne_eq]

theorem compile_error_iff : line.compile id package lookup taken = .error error ↔
    line.Fault id package lookup taken error := by
  constructor
  · intro failed
    unfold compile at failed
    split at failed
    · rename_i unknown
      cases failed
      exact .unknown (kind?_eq_none_iff.mp unknown)
    · rename_i kind
      have resolved := kind?_eq_some_iff_resolves.mp kind
      split at failed
      · rename_i used
        cases failed
        exact .again resolved (List.contains_iff_mem.mp used)
      · rename_i fresh
        have free := mt List.contains_iff_mem.mpr fresh
        split at failed
        · cases failed
        · rename_i given
          split at failed
          · cases failed
          · rename_i unread
            cases failed
            exact .unreadable resolved free given (constant?_eq_none_iff.mp unread)
  · intro fault
    unfold compile
    cases fault with
    | unknown unresolved => rw [kind?_eq_none_iff.mpr unresolved]
    | again resolved used =>
      rw [kind?_eq_some_iff_resolves.mpr resolved]
      exact if_pos (List.contains_iff_mem.mpr used)
    | unreadable resolved free given unsaid =>
      rw [kind?_eq_some_iff_resolves.mpr resolved]
      dsimp only
      rw [if_neg (mt List.contains_iff_mem.mp free), given]
      dsimp only
      rw [constant?_eq_none_iff.mpr unsaid]

theorem Fault.congr {seen : List String} (fault : line.Fault id package lookup taken error)
    (same : ∀ name, name ∈ taken ↔ name ∈ seen) : line.Fault id package lookup seen error := by
  cases fault with
  | unknown unresolved => exact .unknown unresolved
  | again resolved used => exact .again resolved ((same _).mp used)
  | unreadable resolved free given unsaid =>
    exact .unreadable resolved (mt (same _).mpr free) given unsaid

/-! ### All lines -/

theorem compileAll_cons_error_iff : compileAll id package lookup taken (line :: lines) = .error error ↔
    line.compile id package lookup taken = .error error ∨
      ∃ f, line.compile id package lookup taken = .ok f ∧
        compileAll id package lookup (line.accessor :: taken) lines = .error error := by
  rw [compileAll, Result.bind_error_iff]
  refine or_congr_right (exists_congr fun f => and_congr_right fun _ => ?_)
  rw [Result.bind_error_iff]
  exact or_iff_left fun ⟨_, _, done⟩ => by cases done

/-- The error is that of the first line at fault: the lines before it compile. -/
theorem compileAll_error_iff : compileAll id package lookup taken lines = .error error ↔
    ∃ before line after, lines = before ++ line :: after ∧
      (∃ fields, compileAll id package lookup taken before = .ok fields) ∧
      line.Fault id package lookup (before.map accessor ++ taken) error := by
  induction lines generalizing taken with
  | nil => simp [compileAll]
  | cons first lines ih =>
    -- Members only matter, so the accessor of the first line may stand at either place.
    have swap : ∀ before : List FieldLine, ∀ name,
        name ∈ before.map accessor ++ first.accessor :: taken ↔
          name ∈ (first :: before).map accessor ++ taken := by
      intro before name
      exact List.perm_middle.mem_iff
    rw [compileAll_cons_error_iff]
    constructor
    · rintro (broken | ⟨f, made, later⟩)
      · exact ⟨[], first, lines, rfl, ⟨[], rfl⟩, compile_error_iff.mp broken⟩
      · obtain ⟨before, line, after, rfl, ⟨rest, compiled⟩, fault⟩ := ih.mp later
        refine ⟨first :: before, line, after, rfl, ?_, fault.congr (swap before)⟩
        exact ⟨f :: rest, compileAll_of_cons made compiled⟩
    · rintro ⟨before, line, after, together, ⟨fields, compiled⟩, fault⟩
      cases before with
      | nil =>
        cases together
        exact .inl (compile_error_iff.mpr fault)
      | cons head before =>
        cases together
        obtain ⟨f, rest, rfl, made, others⟩ := compileAll_cons compiled
        refine .inr ⟨f, made, ih.mpr ⟨before, line, after, rfl, ⟨rest, others⟩, ?_⟩⟩
        exact fault.congr fun name => (swap before name).symm

end FieldLine

namespace MessageType

variable {id digest : String} {lines : List FieldLine} {lookup : String → Option MessageType}

theorem ofLines_error_iff {package : Option String} {name : String} {e : SchemaError}
    (parts : IdParts id package name) : ofLines id lines digest lookup = .error e ↔
      FieldLine.compileAll id package lookup [] lines = .error e := by
  unfold ofLines
  rw [parts.splitId]
  show (FieldLine.compileAll id package lookup [] lines >>= _) = .error e ↔ _
  rw [Result.bind_error_iff]
  exact or_iff_left fun ⟨_, _, done⟩ => by cases done

/-- A constant and a value in camel case want the same accessor, which is found before the literal is
read. -/
example : ofLines "geo/Mark" [⟨"a_b", "int32", none, 1⟩, ⟨"aB", "int32", some "x", 2⟩] ""
    (fun _ => none) = .error (.duplicateAccessor "geo/Mark" "aB") := by
  rfl

end MessageType

end TopicWire
