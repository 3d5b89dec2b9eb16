import TopicWire.Loader
import TopicWire.Proofs.MessageType.Nesting

/-!
# Types from schema texts

What compiling a schema text guarantees, and that every type a loader returns was compiled from one
(`Loader.load_fromText` and those for texts and files after it).
-/

namespace TopicWire

namespace MessageType

variable {type : MessageType}

/-- The type was compiled from a schema text, out of types that compiling made. -/
def FromText (type : MessageType) : Prop :=
  ∃ id text lookup, (∀ id inner, lookup id = some inner → inner.Compiled) ∧
    ofText id text lookup = .ok type

theorem ofText_ok {id text : String} {lookup : String → Option MessageType}
    (made : ofText id text lookup = .ok type) :
    ∃ lines plain, FieldLine.parse text = .ok lines ∧
      ofLines id lines (schemaDigest text) lookup = .ok plain ∧
      type = { plain with definition := text } := by
  unfold ofText at made
  obtain ⟨lines, parsed, made⟩ := Result.bind_ok_iff.mp made
  obtain ⟨plain, compiled, made⟩ := Result.bind_ok_iff.mp made
  exact ⟨lines, plain, parsed, compiled, (Result.pure_ok_iff.mp made).symm⟩

theorem FromText.compiled (made : type.FromText) : type.Compiled := by
  obtain ⟨id, text, lookup, known, made⟩ := made
  obtain ⟨lines, plain, _, compiled, rfl⟩ := ofText_ok made
  exact .withDefinition text (.ofLines known compiled)

theorem FromText.digest_eq (made : type.FromText) : type.digest = schemaDigest type.definition := by
  obtain ⟨id, text, lookup, _, made⟩ := made
  obtain ⟨lines, plain, _, compiled, rfl⟩ := ofText_ok made
  exact (ofLines_ok compiled).2.2.1

theorem FromText.lines (made : type.FromText) :
    ∃ id lookup lines, FieldLine.parse type.definition = .ok lines ∧
      FieldLine.compileAll id type.package lookup [] lines = .ok type.fields := by
  obtain ⟨id, text, lookup, _, made⟩ := made
  obtain ⟨lines, plain, parsed, compiled, rfl⟩ := ofText_ok made
  exact ⟨id, lookup, lines, parsed, (ofLines_ok compiled).2.2.2.2⟩

end MessageType

/-! ### Loading -/

def Catalog.FromTexts (catalog : Catalog) : Prop :=
  ∀ id type, catalog.get? id = some type → type.FromText

theorem Catalog.FromTexts.insert {catalog : Catalog} (all : catalog.FromTexts) {type : MessageType}
    (made : type.FromText) (id : String) : (catalog.insert id type).FromTexts := by
  intro other found h
  rw [Catalog.get?_insert] at h
  split at h
  · cases known : catalog.get? id with
    | none =>
      rw [known, Option.getD_none, Option.some.injEq] at h
      exact h ▸ made
    | some old =>
      rw [known, Option.getD_some, Option.some.injEq] at h
      exact h ▸ all id old known
  · exact all other found h

namespace Loading

variable {catalog catalog' : Catalog}

theorem of_ok_iff {α : Type} {result : Except SchemaError α} {a : α} :
    Loading.of result catalog = .ok a catalog' ↔ result = .ok a ∧ catalog = catalog' := by
  cases result with
  | ok b => simp [Loading.of, Stateful.pure_ok_iff]
  | error e =>
    constructor
    · intro h
      exact (Stateful.throw_ok h).elim
    · rintro ⟨h, _⟩
      cases h

end Loading

namespace Loader

variable {l : Loader} {catalog catalog' : Catalog}

def LoadsTexts (load : String → Loading MessageType) : Prop :=
  ∀ ⦃id catalog type catalog'⦄, Catalog.FromTexts catalog → load id catalog = .ok type catalog' →
    type.FromText ∧ catalog'.FromTexts

theorem loadAll_fromText {load : String → Loading MessageType} (loads : LoadsTexts load)
    (all : catalog.FromTexts) {ids : List String} {found : List (String × MessageType)}
    (loaded : loadAll load ids catalog = .ok found catalog') :
    (∀ id type, found.lookup id = some type → type.FromText) ∧ catalog'.FromTexts := by
  induction ids generalizing catalog found with
  | nil =>
    obtain ⟨rfl, rfl⟩ := Stateful.pure_ok_iff.mp loaded
    exact ⟨fun _ _ h => (Option.some_ne_none _ h.symm).elim, all⟩
  | cons id ids ih =>
    obtain ⟨type, middle, first, loaded⟩ := Stateful.bind_ok_iff.mp loaded
    obtain ⟨rest, last, others, loaded⟩ := Stateful.bind_ok_iff.mp loaded
    obtain ⟨rfl, rfl⟩ := Stateful.pure_ok_iff.mp loaded
    obtain ⟨made, allMiddle⟩ := loads all first
    obtain ⟨madeRest, allLast⟩ := ih allMiddle others
    refine ⟨fun other inner h => ?_, allLast⟩
    rw [Keyed.lookup_cons] at h
    split at h
    · exact Option.some.inj h ▸ made
    · exact madeRest other inner h

theorem compileWith_fromText {load : String → Loading MessageType} (loads : LoadsTexts load)
    (all : catalog.FromTexts) {id text : String} {type : MessageType}
    (loaded : compileWith load id text catalog = .ok type catalog') :
    type.FromText ∧ catalog'.FromTexts := by
  unfold compileWith at loaded
  obtain ⟨lines, _, parsed, loaded⟩ := Stateful.bind_ok_iff.mp loaded
  obtain ⟨-, rfl⟩ := Loading.of_ok_iff.mp parsed
  obtain ⟨⟨package, name⟩, _, split, loaded⟩ := Stateful.bind_ok_iff.mp loaded
  obtain ⟨-, rfl⟩ := Loading.of_ok_iff.mp split
  obtain ⟨nested, middle, found, loaded⟩ := Stateful.bind_ok_iff.mp loaded
  obtain ⟨known, allMiddle⟩ := loadAll_fromText loads all found
  obtain ⟨made, _, compiling, loaded⟩ := Stateful.bind_ok_iff.mp loaded
  obtain ⟨compiled, rfl⟩ := Loading.of_ok_iff.mp compiling
  obtain ⟨_, _, kept, loaded⟩ := Stateful.bind_ok_iff.mp loaded
  cases kept
  obtain ⟨rfl, rfl⟩ := Stateful.pure_ok_iff.mp loaded
  have text : made.FromText :=
    ⟨id, text, _, fun other inner h => (known other inner h).compiled, compiled⟩
  exact ⟨text, allMiddle.insert text id⟩

theorem unlessKnown_fromText (all : catalog.FromTexts) {id : String} {type : MessageType}
    {rest : Loading MessageType}
    (loads : ∀ type catalog', rest catalog = .ok type catalog' → type.FromText ∧ catalog'.FromTexts)
    (loaded : (do
      match (← get).get? id with
      | some type => return type
      | none => rest : Loading MessageType) catalog = .ok type catalog') :
    type.FromText ∧ catalog'.FromTexts := by
  obtain ⟨_, _, got, loaded⟩ := Stateful.bind_ok_iff.mp loaded
  cases got
  cases known : catalog.get? id with
  | some old =>
    simp only [known] at loaded
    obtain ⟨rfl, rfl⟩ := Stateful.pure_ok_iff.mp loaded
    exact ⟨all id _ known, all⟩
  | none =>
    simp only [known] at loaded
    exact loads _ _ loaded

theorem loadInside_fromText (fuel : Nat) (inside : List String) :
    LoadsTexts (l.loadInside fuel inside) := by
  induction fuel generalizing inside with
  | zero =>
    intro id catalog type catalog' _ loaded
    exact (Stateful.throw_ok loaded).elim
  | succ fuel ih =>
    intro id catalog type catalog' all loaded
    unfold loadInside at loaded
    refine unlessKnown_fromText all (fun type last loaded => ?_) loaded
    split at loaded
    · exact (Stateful.throw_ok loaded).elim
    · obtain ⟨text, _, read, loaded⟩ := Stateful.bind_ok_iff.mp loaded
      obtain ⟨-, rfl⟩ := Loading.of_ok_iff.mp read
      exact compileWith_fromText (ih _) all loaded

/-- A loader returns types from texts only, if its catalog holds none but such types. -/
theorem load_fromText (all : catalog.FromTexts) {id : String} {type : MessageType}
    (loaded : l.load id catalog = .ok type catalog') : type.FromText ∧ catalog'.FromTexts :=
  loadInside_fromText l.depth [] all loaded

theorem loadText_fromText (all : catalog.FromTexts) {id text : String} {type : MessageType}
    (loaded : l.loadText id text catalog = .ok type catalog') :
    type.FromText ∧ catalog'.FromTexts := by
  unfold loadText at loaded
  obtain ⟨_, _, named, loaded⟩ := Stateful.bind_ok_iff.mp loaded
  obtain ⟨-, rfl⟩ := Loading.of_ok_iff.mp named
  refine unlessKnown_fromText all (fun type last loaded => ?_) loaded
  exact compileWith_fromText (loadInside_fromText l.depth [id]) all loaded

theorem loadFile_fromText (all : catalog.FromTexts) {id path : String} {type : MessageType}
    (loaded : l.loadFile id path catalog = .ok type catalog') :
    type.FromText ∧ catalog'.FromTexts := by
  unfold loadFile at loaded
  obtain ⟨_, _, named, loaded⟩ := Stateful.bind_ok_iff.mp loaded
  obtain ⟨-, rfl⟩ := Loading.of_ok_iff.mp named
  refine unlessKnown_fromText all (fun type last loaded => ?_) loaded
  obtain ⟨text, _, read, loaded⟩ := Stateful.bind_ok_iff.mp loaded
  obtain ⟨-, rfl⟩ := Loading.of_ok_iff.mp read
  exact compileWith_fromText (loadInside_fromText l.depth [id]) all loaded

end Loader

end TopicWire
