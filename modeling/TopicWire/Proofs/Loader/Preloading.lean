import TopicWire.Loader
import TopicWire.Proofs.MessageType.Compiling
import TopicWire.Proofs.MessageType.Lookup

/-!
# What is loaded before a schema is compiled

`MessageType.ofLinesVia` is `MessageType.ofLines` with a lookup that has effects, such as a record of
the ids that it is asked for (`asking`). All of these are among `nestedIds`, which a loader loads
first.
-/

namespace TopicWire

/-! ### Compiling with a record of what is looked up -/

section

variable {m : Type → Type} [Monad m]

namespace FieldLine

/-- `kind?` with a lookup that has effects. -/
def kindVia (line : FieldLine) (package : Option String) (lookup : String → m (Option MessageType)) :
    m (Option (Element × Arity)) :=
  match splitBrackets line.typeName with
  | none => return none
  | some (base, brackets) =>
    if base.isEmpty then return none
    else match Primitive.ofName? base with
      | some p => return some (.primitive p, brackets.arity)
      | none => do
        let found ← lookup (qualifiedId base package)
        return found.map fun type => (.message type, brackets.arity)

/-- What `compile` does once the kind of the line is known, or known to be none. -/
def ofKind (line : FieldLine) (id : String) (taken : List String) :
    Option (Element × Arity) → Except SchemaError Field
  | none => .error (.unknownType line.name line.typeName)
  | some (element, arity) =>
    if taken.contains line.accessor then .error (.duplicateAccessor id line.accessor)
    else match line.literal with
      | none => .ok ⟨line, line.accessor, element, arity, none⟩
      | some literal =>
        match constant? element arity literal with
        | some value => .ok ⟨line, line.accessor, element, arity, some value⟩
        | none => .error (.invalidConstant line.name line.typeName literal)

def compileAllVia (id : String) (package : Option String) (lookup : String → m (Option MessageType))
    (taken : List String) : List FieldLine → m (Except SchemaError (List Field))
  | [] => return .ok []
  | line :: lines => do
    let kind ← line.kindVia package lookup
    match line.ofKind id taken kind with
    | .error e => return .error e
    | .ok field => do
      let rest ← compileAllVia id package lookup (line.accessor :: taken) lines
      return rest.map (field :: ·)

end FieldLine

/-- `ofLines` with a lookup that has effects. -/
def MessageType.ofLinesVia (id : String) (lines : List FieldLine) (digest : String)
    (lookup : String → m (Option MessageType)) : m (Except SchemaError MessageType) :=
  match splitId id with
  | .error e => return .error e
  | .ok (package, name) => do
    let fields ← FieldLine.compileAllVia id package lookup [] lines
    return fields.map fun fields => ⟨id, package, name, digest, "", fields⟩

end

theorem recorded_bind {σ α β : Type} {x : StateM σ α} {f : α → StateM σ β} {s s' : σ} {a : α}
    (ran : x s = (a, s')) : (x >>= f) s = f a s' := by
  show StateT.bind x f s = _
  unfold StateT.bind
  rw [ran]
  rfl

/-- The lookup that also writes down what it was asked for. -/
def asking (lookup : String → Option MessageType) (name : String) :
    StateM (List String) (Option MessageType) := fun asked => (lookup name, asked ++ [name])

namespace FieldLine

variable {line : FieldLine} {lines : List FieldLine} {id name : String} {package : Option String}
  {lookup lookup' : String → Option MessageType} {taken : List String}

theorem compile_eq_ofKind :
    line.compile id package lookup taken = line.ofKind id taken (line.kind? package lookup) := by
  unfold compile ofKind
  rfl

/-- The type name of the line is a message type's, that of this id. -/
def RefersTo (line : FieldLine) (package : Option String) (name : String) : Prop :=
  ∃ base brackets, Spelled line.typeName base brackets ∧ Primitive.ofName? base = none ∧
    name = qualifiedId base package

theorem kindVia_asking (line : FieldLine) (package : Option String)
    (lookup : String → Option MessageType) (asked : List String) : ∃ more,
    line.kindVia package (asking lookup) asked = (line.kind? package lookup, asked ++ more) ∧
      ∀ name ∈ more, line.RefersTo package name := by
  rw [kind?_eq]
  unfold kindVia
  cases divided : splitBrackets line.typeName with
  | none => exact ⟨[], by rw [List.append_nil]; rfl, nofun⟩
  | some parts =>
    obtain ⟨base, brackets⟩ := parts
    dsimp only
    split
    · exact ⟨[], by rw [List.append_nil]; rfl, nofun⟩
    · cases other : Primitive.ofName? base with
      | some p => exact ⟨[], by rw [List.append_nil]; rfl, nofun⟩
      | none =>
        refine ⟨[qualifiedId base package], rfl, ?_⟩
        intro name member
        exact ⟨base, brackets, splitBrackets_eq_some_iff.mp divided, other, List.mem_singleton.mp member⟩

theorem compileAllVia_asking (id : String) (package : Option String)
    (lookup : String → Option MessageType) (taken : List String) (lines : List FieldLine)
    (asked : List String) : ∃ more,
    compileAllVia id package (asking lookup) taken lines asked =
      (compileAll id package lookup taken lines, asked ++ more) ∧
    ∀ name ∈ more, ∃ line ∈ lines, line.RefersTo package name := by
  induction lines generalizing taken asked with
  | nil => exact ⟨[], by rw [List.append_nil]; rfl, nofun⟩
  | cons line lines ih =>
    obtain ⟨here, first, among⟩ := kindVia_asking line package lookup asked
    unfold compileAllVia compileAll
    rw [recorded_bind first, compile_eq_ofKind]
    cases line.ofKind id taken (line.kind? package lookup) with
    | error e =>
      refine ⟨here, rfl, ?_⟩
      intro name member
      exact ⟨line, .head lines, among name member⟩
    | ok field =>
      obtain ⟨later, rest, others⟩ := ih (line.accessor :: taken) (asked ++ here)
      refine ⟨here ++ later, ?_, ?_⟩
      · dsimp only
        rw [recorded_bind rest, List.append_assoc]
        cases compileAll id package lookup (line.accessor :: taken) lines <;> rfl
      · intro name member
        rcases List.mem_append.mp member with member | member
        · exact ⟨line, .head lines, among name member⟩
        · obtain ⟨other, there, refers⟩ := others name member
          exact ⟨other, .tail line there, refers⟩

theorem kind?_congr (same : ∀ name, line.RefersTo package name → lookup name = lookup' name) :
    line.kind? package lookup = line.kind? package lookup' := by
  rw [kind?_eq, kind?_eq]
  cases divided : splitBrackets line.typeName with
  | none => rfl
  | some parts =>
    obtain ⟨base, brackets⟩ := parts
    dsimp only
    split
    · rfl
    · cases other : Primitive.ofName? base with
      | some p => rfl
      | none =>
        have refers : line.RefersTo package (qualifiedId base package) :=
          ⟨base, brackets, splitBrackets_eq_some_iff.mp divided, other, rfl⟩
        dsimp only
        rw [same _ refers]

theorem compileAll_congr
    (same : ∀ line ∈ lines, ∀ name, line.RefersTo package name → lookup name = lookup' name) :
    compileAll id package lookup taken lines = compileAll id package lookup' taken lines := by
  induction lines generalizing taken with
  | nil => rfl
  | cons line lines ih =>
    have first := kind?_congr (same line (.head lines))
    have others : ∀ taken, compileAll id package lookup taken lines =
        compileAll id package lookup' taken lines := by
      intro taken
      apply ih
      intro line member
      exact same line (.tail _ member)
    simp only [compileAll, compile_eq_ofKind, first, others]

/-! ### The ids of the lines -/

theorem refers?_eq_some_iff_refersTo : line.refers? package = some name ↔ line.RefersTo package name := by
  rw [refers?_eq_some_iff]
  unfold RefersTo
  simp only [splitBrackets_eq_some_iff]

theorem mem_nestedIds_iff :
    name ∈ nestedIds lines package ↔ ∃ line ∈ lines, line.RefersTo package name := by
  rw [mem_nestedIds_iff_refers]
  simp only [refers?_eq_some_iff_refersTo]

/-- The line has a base, and if that is no primitive type then a type is found for it. -/
theorem resolves_of_found {base : String} {brackets : Brackets}
    (spelled : Spelled line.typeName base brackets) (named : base ≠ "")
    (found : ∀ name, line.RefersTo package name → (lookup name).isSome) :
    ∃ e arity, line.Resolves package lookup e arity := by
  cases other : Primitive.ofName? base with
  | some p =>
    exact ⟨.primitive p, brackets.arity, base, brackets, spelled, named, rfl, .inl ⟨p, other, rfl⟩⟩
  | none =>
    obtain ⟨type, known⟩ := Option.isSome_iff_exists.mp
      (found (qualifiedId base package) ⟨base, brackets, spelled, other, rfl⟩)
    exact ⟨.message type, brackets.arity, base, brackets, spelled, named, rfl,
      .inr ⟨other, type, known, rfl⟩⟩

end FieldLine

theorem Loader.loadAll_found {load : String → Loading MessageType} {ids : List String}
    {before after : Catalog} {nested : List (String × MessageType)}
    (loaded : loadAll load ids before = .ok nested after) : ∀ id ∈ ids, (nested.lookup id).isSome := by
  induction ids generalizing before nested with
  | nil => exact nofun
  | cons id ids ih =>
    obtain ⟨type, middle, first, loaded⟩ := Stateful.bind_ok_iff.mp loaded
    obtain ⟨rest, last, others, loaded⟩ := Stateful.bind_ok_iff.mp loaded
    obtain ⟨rfl, rfl⟩ := Stateful.pure_ok_iff.mp loaded
    intro other member
    rw [Keyed.lookup_cons]
    split
    · rfl
    · rename_i different
      exact ih others other ((List.mem_cons.mp member).resolve_left different)

namespace MessageType

variable {id digest name : String} {lines : List FieldLine} {package : Option String}
  {lookup lookup' : String → Option MessageType}

theorem ofLinesVia_asking (parts : IdParts id package name) : ∃ asked,
    ofLinesVia id lines digest (asking lookup) [] = (ofLines id lines digest lookup, asked) ∧
      ∀ name ∈ asked, name ∈ nestedIds lines package := by
  obtain ⟨asked, compiled, among⟩ := FieldLine.compileAllVia_asking id package lookup [] lines []
  refine ⟨asked, ?_, ?_⟩
  · unfold ofLinesVia ofLines
    rw [parts.splitId]
    dsimp only
    rw [recorded_bind compiled, List.nil_append]
    show _ = (FieldLine.compileAll id package lookup [] lines >>= _, asked)
    cases FieldLine.compileAll id package lookup [] lines <;> rfl
  · intro name member
    exact FieldLine.mem_nestedIds_iff.mpr (among name member)

theorem ofLines_congr (parts : IdParts id package name)
    (same : ∀ name ∈ nestedIds lines package, lookup name = lookup' name) :
    ofLines id lines digest lookup = ofLines id lines digest lookup' := by
  have compiled : FieldLine.compileAll id package lookup [] lines =
      FieldLine.compileAll id package lookup' [] lines := by
    apply FieldLine.compileAll_congr
    intro line member name refers
    exact same name (FieldLine.mem_nestedIds_iff.mpr ⟨line, member, refers⟩)
  unfold ofLines
  rw [parts.splitId]
  show (FieldLine.compileAll id package lookup [] lines >>= _) =
    (FieldLine.compileAll id package lookup' [] lines >>= _)
  rw [compiled]

theorem malformed_of_unknownType {field typeName : String} (parts : IdParts id package name)
    (found : ∀ name ∈ nestedIds lines package, (lookup name).isSome)
    (failed : ofLines id lines digest lookup = .error (.unknownType field typeName)) :
    ∃ line ∈ lines, line.name = field ∧ line.typeName = typeName ∧
      ∀ base brackets, Spelled typeName base brackets → base = "" := by
  rw [ofLines_error_iff parts, FieldLine.compileAll_error_iff] at failed
  obtain ⟨before, line, after, rfl, -, fault⟩ := failed
  have member : line ∈ before ++ line :: after := List.mem_append_right before (.head after)
  cases fault with
  | unknown unresolved =>
    refine ⟨line, member, rfl, rfl, ?_⟩
    intro base brackets spelled
    by_contra named
    apply unresolved
    apply FieldLine.resolves_of_found spelled named
    intro name refers
    exact found name (FieldLine.mem_nestedIds_iff.mpr ⟨line, member, refers⟩)

/-- Compiling looks up no ids but `nestedIds`, and no others make a difference to it. They are the ids
that the lines refer to, each once and in the order in which the lines first refer to them. If all of
them are found, as they are after a loader has loaded them, a type is unknown only for the brackets
after it or for having no name before them. -/
theorem looks_up_nested (id digest : String) (lines : List FieldLine) (package : Option String)
    (name : String) (parts : IdParts id package name) :
    (∀ lookup, ∃ asked,
      ofLinesVia id lines digest (asking lookup) [] = (ofLines id lines digest lookup, asked) ∧
        ∀ name ∈ asked, name ∈ nestedIds lines package) ∧
    (∀ lookup lookup' : String → Option MessageType,
      (∀ name ∈ nestedIds lines package, lookup name = lookup' name) →
        ofLines id lines digest lookup = ofLines id lines digest lookup') ∧
    ((nestedIds lines package).Nodup ∧
      (∀ name, name ∈ nestedIds lines package ↔ ∃ line ∈ lines, line.RefersTo package name) ∧
      ∀ before after, lines = before ++ after →
        nestedIds before package <+: nestedIds lines package) ∧
    (∀ lookup : String → Option MessageType,
      (∀ name ∈ nestedIds lines package, (lookup name).isSome) →
        ∀ field typeName, ofLines id lines digest lookup = .error (.unknownType field typeName) →
          ∃ line ∈ lines, line.name = field ∧ line.typeName = typeName ∧
            ((¬ ∃ base brackets, Spelled typeName base brackets) ∨
              ∃ brackets, Spelled typeName "" brackets)) ∧
    (∀ load before nested after,
      Loader.loadAll load (nestedIds lines package) before = .ok nested after →
        ∀ name ∈ nestedIds lines package, (nested.lookup name).isSome) := by
  refine ⟨?_, ?_, ⟨FieldLine.nodup_nestedIds, ?_, ?_⟩, ?_, ?_⟩
  · intro lookup
    exact ofLinesVia_asking parts
  · intro lookup lookup' same
    exact ofLines_congr parts same
  · intro name
    exact FieldLine.mem_nestedIds_iff
  · rintro before after rfl
    exact FieldLine.nestedIds_initial before after
  · intro lookup found field typeName failed
    obtain ⟨line, member, named, typed, malformed⟩ := malformed_of_unknownType parts found failed
    refine ⟨line, member, named, typed, ?_⟩
    by_cases spelled : ∃ base brackets, Spelled typeName base brackets
    · obtain ⟨base, brackets, spelled⟩ := spelled
      obtain rfl := malformed base brackets spelled
      exact .inr ⟨brackets, spelled⟩
    · exact .inl spelled
  · intro load before nested after loaded
    exact Loader.loadAll_found loaded

/-- A header, points, things of another package, a number and a last point. -/
def routeLines : List FieldLine :=
  [⟨"h", "Header", none, 1⟩, ⟨"points", "Point[]", none, 2⟩, ⟨"things", "other/Thing[+2]", none, 3⟩,
    ⟨"count", "int32", none, 4⟩, ⟨"last", "Point", none, 5⟩]

theorem routeLines_look_up :
    IdParts "geo/Route" (some "geo") "Route" ∧
      nestedIds routeLines (some "geo") = ["std_msgs/Header", "geo/Point", "other/Thing"] ∧
      ∀ lookup, ∃ asked,
        ofLinesVia "geo/Route" routeLines "" (asking lookup) [] =
          (ofLines "geo/Route" routeLines "" lookup, asked) ∧
        ∀ name ∈ asked, name ∈ ["std_msgs/Header", "geo/Point", "other/Thing"] := by
  have parts : IdParts "geo/Route" (some "geo") "Route" :=
    @IdParts.packaged "geo" "Route" (by decide) (by decide)
  have nested : nestedIds routeLines (some "geo") = ["std_msgs/Header", "geo/Point", "other/Thing"] := by
    rfl
  refine ⟨parts, nested, ?_⟩
  rw [← nested]
  exact (looks_up_nested "geo/Route" "" routeLines (some "geo") "Route" parts).1

end MessageType

end TopicWire
