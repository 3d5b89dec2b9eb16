import Mathlib.Data.List.Induction
import Mathlib.Data.List.Nodup
import TopicWire.Proofs.MessageType.FromText

/-!
# The types that compiling looks up

Compiling asks its lookup for the types that the lines name, and for no others. So a lookup that finds
more makes the same type (`MessageType.ofText_mono`), and which types are found makes no difference to
whether compiling succeeds (`MessageType.ofLines_of_found`).
-/

namespace TopicWire

namespace FieldLine

variable {line : FieldLine} {lines : List FieldLine} {id : String} {package : Option String}
  {lookup lookup' : String → Option MessageType} {taken : List String}

/-- The id that a line refers to, if its element type is a message type. -/
def refers? (line : FieldLine) (package : Option String) : Option String :=
  match splitBrackets line.typeName with
  | some (base, _) =>
    if (Primitive.ofName? base).isSome then none else some (qualifiedId base package)
  | none => none

theorem refers?_eq_some_iff {name : String} : line.refers? package = some name ↔
    ∃ base brackets, splitBrackets line.typeName = some (base, brackets) ∧
      Primitive.ofName? base = none ∧ name = qualifiedId base package := by
  unfold refers?
  cases splitBrackets line.typeName with
  | none => simp
  | some parts =>
    obtain ⟨base, brackets⟩ := parts
    cases other : Primitive.ofName? base <;> simp [other, eq_comm]

theorem nestedIds_concat : nestedIds (lines ++ [line]) package =
    match line.refers? package with
    | none => nestedIds lines package
    | some id =>
      if id ∈ nestedIds lines package then nestedIds lines package
      else nestedIds lines package ++ [id] := by
  have step : nestedIds (lines ++ [line]) package =
      match splitBrackets line.typeName with
      | some (base, _) =>
        let id := qualifiedId base package
        if (Primitive.ofName? base).isSome || (nestedIds lines package).contains id then
          nestedIds lines package
        else nestedIds lines package ++ [id]
      | none => nestedIds lines package := by
    unfold nestedIds
    rw [List.foldl_append]
    rfl
  rw [step, refers?]
  cases splitBrackets line.typeName with
  | none => rfl
  | some parts =>
    dsimp only
    cases Primitive.ofName? parts.1 <;> simp

theorem mem_nestedIds_iff_refers :
    id ∈ nestedIds lines package ↔ ∃ line ∈ lines, line.refers? package = some id := by
  induction lines using List.reverseRecOn with
  | nil => simp [nestedIds]
  | append_singleton lines line ih =>
    rw [nestedIds_concat]
    simp only [List.mem_append, List.mem_singleton, or_and_right, exists_or, exists_eq_left, ← ih]
    cases line.refers? package with
    | none => simp
    | some name =>
      dsimp only
      split
      · rename_i there
        constructor
        · exact .inl
        · rintro (old | same)
          · exact old
          · exact Option.some.inj same ▸ there
      · simp [eq_comm]

theorem nodup_nestedIds : (nestedIds lines package).Nodup := by
  induction lines using List.reverseRecOn with
  | nil => exact List.nodup_nil
  | append_singleton lines line ih =>
    rw [nestedIds_concat]
    split
    · exact ih
    · split
      · exact ih
      · rename_i new
        rw [List.nodup_append_comm, List.singleton_append]
        exact List.nodup_cons.mpr ⟨new, ih⟩

/-- What the first lines refer to comes first. -/
theorem nestedIds_initial (before after : List FieldLine) :
    nestedIds before package <+: nestedIds (before ++ after) package := by
  induction after using List.reverseRecOn with
  | nil => simp
  | append_singleton after line ih =>
    rw [← List.append_assoc, nestedIds_concat]
    split
    · exact ih
    · split
      · exact ih
      · exact ih.trans (List.prefix_append _ _)

theorem kind?_mono {e : Element} {arity : Arity}
    (more : ∀ id type, lookup id = some type → lookup' id = some type)
    (h : line.kind? package lookup = some (e, arity)) :
    line.kind? package lookup' = some (e, arity) := by
  obtain ⟨base, brackets, split, named, same, element⟩ := kind?_eq_some_iff.mp h
  refine kind?_eq_some_iff.mpr ⟨base, brackets, split, named, same, ?_⟩
  rcases element with primitive | ⟨other, type, known, message⟩
  · exact .inl primitive
  · exact .inr ⟨other, type, more _ type known, message⟩

theorem kind?_of_found {e : Element} {arity : Arity}
    (found : ∀ id, line.refers? package = some id → (lookup' id).isSome)
    (h : line.kind? package lookup = some (e, arity)) :
    ∃ e', line.kind? package lookup' = some (e', arity) ∧
      ∀ literal, constant? e' arity literal = constant? e arity literal := by
  obtain ⟨base, brackets, split, named, same, element⟩ := kind?_eq_some_iff.mp h
  rcases element with primitive | ⟨other, type, -, rfl⟩
  · exact ⟨e, kind?_eq_some_iff.mpr ⟨base, brackets, split, named, same, .inl primitive⟩, fun _ => rfl⟩
  · have refers : line.refers? package = some (qualifiedId base package) :=
      refers?_eq_some_iff.mpr ⟨base, brackets, split, other, rfl⟩
    obtain ⟨type', known⟩ := Option.isSome_iff_exists.mp (found _ refers)
    have message := kind?_eq_some_iff.mpr
      ⟨base, brackets, split, named, same, .inr ⟨other, type', known, rfl⟩⟩
    exact ⟨.message type', message, fun _ => rfl⟩

theorem compile_mono {f : Field} (more : ∀ id type, lookup id = some type → lookup' id = some type)
    (made : line.compile id package lookup taken = .ok f) :
    line.compile id package lookup' taken = .ok f := by
  have kind := (compile_ok made).1
  unfold compile at made ⊢
  rw [kind] at made
  rw [kind?_mono more kind]
  exact made

theorem compile_of_found {f : Field}
    (found : ∀ id, line.refers? package = some id → (lookup' id).isSome)
    (made : line.compile id package lookup taken = .ok f) :
    ∃ g, line.compile id package lookup' taken = .ok g := by
  obtain ⟨kind, -, -, free, -, literal⟩ := compile_ok made
  obtain ⟨e', kind', same⟩ := kind?_of_found found kind
  have fresh : ¬ taken.contains line.accessor = true := by rwa [List.contains_iff_mem]
  unfold compile
  rw [kind']
  dsimp only
  rw [if_neg fresh]
  cases given : line.literal with
  | none => exact ⟨_, rfl⟩
  | some text =>
    obtain ⟨value, read, -⟩ := literal text given
    dsimp only
    rw [same, read]
    exact ⟨_, rfl⟩

theorem compileAll_mono {fields : List Field}
    (more : ∀ id type, lookup id = some type → lookup' id = some type)
    (made : compileAll id package lookup taken lines = .ok fields) :
    compileAll id package lookup' taken lines = .ok fields := by
  induction lines generalizing taken fields with
  | nil => exact made
  | cons line lines ih =>
    obtain ⟨f, rest, rfl, first, others⟩ := compileAll_cons made
    exact compileAll_of_cons (compile_mono more first) (ih others)

theorem compileAll_of_found {fields : List Field}
    (found : ∀ line ∈ lines, ∀ id, line.refers? package = some id → (lookup' id).isSome)
    (made : compileAll id package lookup taken lines = .ok fields) :
    ∃ fields', compileAll id package lookup' taken lines = .ok fields' := by
  induction lines generalizing taken fields with
  | nil => exact ⟨fields, made⟩
  | cons line lines ih =>
    obtain ⟨f, rest, rfl, first, others⟩ := compileAll_cons made
    obtain ⟨g, again⟩ := compile_of_found (found line (.head lines)) first
    obtain ⟨rest', others'⟩ := ih (fun line member => found line (.tail _ member)) others
    exact ⟨g :: rest', compileAll_of_cons again others'⟩

end FieldLine

namespace MessageType

variable {id text digest : String} {lookup lookup' : String → Option MessageType} {type : MessageType}

theorem ofLines_mono {lines : List FieldLine}
    (more : ∀ id type, lookup id = some type → lookup' id = some type)
    (made : ofLines id lines digest lookup = .ok type) : ofLines id lines digest lookup' = .ok type := by
  obtain ⟨⟨package, name⟩, split, made⟩ := Result.bind_ok_iff.mp made
  obtain ⟨fields, compiled, made⟩ := Result.bind_ok_iff.mp made
  refine Result.bind_ok_iff.mpr ⟨(package, name), split, ?_⟩
  exact Result.bind_ok_iff.mpr ⟨fields, FieldLine.compileAll_mono more compiled, made⟩

theorem ofText_mono (more : ∀ id type, lookup id = some type → lookup' id = some type)
    (made : ofText id text lookup = .ok type) : ofText id text lookup' = .ok type := by
  obtain ⟨lines, parsed, made⟩ := Result.bind_ok_iff.mp made
  obtain ⟨plain, compiled, made⟩ := Result.bind_ok_iff.mp made
  refine Result.bind_ok_iff.mpr ⟨lines, parsed, ?_⟩
  exact Result.bind_ok_iff.mpr ⟨plain, ofLines_mono more compiled, made⟩

theorem ofLines_of_found {lines : List FieldLine} {package : Option String} {name : String}
    (split : splitId id = .ok (package, name))
    (found : ∀ id ∈ nestedIds lines package, (lookup' id).isSome)
    (made : ofLines id lines digest lookup = .ok type) :
    ∃ type', ofLines id lines digest lookup' = .ok type' := by
  obtain ⟨parts, again, made⟩ := Result.bind_ok_iff.mp made
  obtain rfl := Except.ok.inj (again.symm.trans split)
  obtain ⟨fields, compiled, -⟩ := Result.bind_ok_iff.mp made
  obtain ⟨fields', compiled'⟩ := FieldLine.compileAll_of_found (fun line member id refers =>
    found id (FieldLine.mem_nestedIds_iff_refers.mpr ⟨line, member, refers⟩)) compiled
  refine ⟨⟨id, package, name, digest, "", fields'⟩, ?_⟩
  refine Result.bind_ok_iff.mpr ⟨(package, name), split, ?_⟩
  exact Result.bind_ok_iff.mpr ⟨fields', compiled', rfl⟩

end MessageType

end TopicWire
