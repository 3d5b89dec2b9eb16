import TopicWire.Proofs.Loader.Ids

/-!
# The catalog as a cache

What a load would do without a catalog is `Loader.make`, which reads and compiles a type each time
that it is named. A catalog filled by loads only holds what that comes to (`Loader.make_of_known`),
because each type in it was compiled from types that were there before. So a load has the outcome of
`Loader.make` whatever was loaded before, or failed to load (`Loader.loadInside_make`).
-/

namespace TopicWire

namespace Loading

variable {α : Type}

/-- A load that has come to an outcome and leaves this catalog. -/
def ended (outcome : Except SchemaError α) (catalog : Catalog) :
    EStateM.Result SchemaError Catalog α :=
  match outcome with
  | .ok a => .ok a catalog
  | .error e => .error e catalog

def outcome : EStateM.Result SchemaError Catalog α → Except SchemaError α
  | .ok a _ => .ok a
  | .error e _ => .error e

/-- The catalog that a load leaves. -/
def left : EStateM.Result SchemaError Catalog α → Catalog
  | .ok _ catalog => catalog
  | .error _ catalog => catalog

@[simp] theorem outcome_ended (result : Except SchemaError α) (catalog : Catalog) :
    outcome (ended result catalog) = result := by
  cases result <;> rfl

@[simp] theorem left_ended (result : Except SchemaError α) (catalog : Catalog) :
    left (ended result catalog) = catalog := by
  cases result <;> rfl

end Loading

namespace Loader

/-! ### The ways a load goes -/

section

variable {l : Loader} {before middle after : Catalog} {inside ids names : List String}
  {id text : String} {e : SchemaError} {type : MessageType} {nested : List (String × MessageType)}
  {load : String → Loading MessageType} {fuel : Nat}

theorem loadAll_failed (first : load id before = .error e after) :
    loadAll load (id :: ids) before = .error e after := by
  unfold loadAll
  exact Stateful.bind_of_error first

theorem loadAll_broken (first : load id before = .ok type middle)
    (rest : loadAll load ids middle = .error e after) :
    loadAll load (id :: ids) before = .error e after := by
  unfold loadAll
  rw [Stateful.bind_of_ok first]
  exact Stateful.bind_of_error rest

theorem loadAll_cons (first : load id before = .ok type middle)
    (rest : loadAll load ids middle = .ok nested after) :
    loadAll load (id :: ids) before = .ok ((id, type) :: nested) after := by
  unfold loadAll
  rw [Stateful.bind_of_ok first]
  exact Stateful.bind_of_ok rest

/-- The last step of a load: the type is put into the catalog. -/
def keep (id : String) (made : Except SchemaError MessageType) : Loading MessageType := do
  let type ← Loading.of made
  modify fun catalog => catalog.insert id type
  return type

theorem compileWith_eq (id text : String) : compileWith load id text = (do
    let names ← Loading.of (wanted id text)
    let nested ← loadAll load names
    keep id (MessageType.ofText id text fun id => nested.lookup id)) := by
  unfold compileWith wanted
  cases FieldLine.parse text with
  | error e => rfl
  | ok lines =>
    cases splitId id with
    | error e => rfl
    | ok parts => rfl

theorem compileWith_unparsed (failed : wanted id text = .error e) :
    compileWith load id text before = .error e before := by
  rw [compileWith_eq, failed]
  rfl

theorem compileWith_broken (refers : wanted id text = .ok names)
    (all : loadAll load names before = .error e after) :
    compileWith load id text before = .error e after := by
  have start : Loading.of (wanted id text) before = .ok names before := by rw [refers]; rfl
  rw [compileWith_eq, Stateful.bind_of_ok start]
  exact Stateful.bind_of_error all

theorem compileWith_loaded (refers : wanted id text = .ok names)
    (all : loadAll load names before = .ok nested after) :
    compileWith load id text before =
      keep id (MessageType.ofText id text (nested.lookup ·)) after := by
  have start : Loading.of (wanted id text) before = .ok names before := by rw [refers]; rfl
  rw [compileWith_eq, Stateful.bind_of_ok start]
  exact Stateful.bind_of_ok all

theorem loadInside_known (there : before.get? id = some type) :
    l.loadInside (fuel + 1) inside id before = .ok type before := by
  have got : (get : Loading Catalog) before = .ok before before := rfl
  unfold loadInside
  rw [Stateful.bind_of_ok got, there]
  rfl

theorem loadInside_new (fresh : before.get? id = none) :
    l.loadInside (fuel + 1) inside id before =
      if id ∈ inside then .error (.recursive id) before
      else match l.schemaText id with
        | .error e => .error e before
        | .ok text => compileWith (l.loadInside fuel (id :: inside)) id text before := by
  have got : (get : Loading Catalog) before = .ok before before := rfl
  unfold loadInside
  rw [Stateful.bind_of_ok got, fresh]
  dsimp only
  simp only [List.contains_iff_mem]
  split
  · rfl
  · cases l.schemaText id <;> rfl

end

/-! ### Without a catalog -/

def makeAll (make : String → Except SchemaError MessageType) :
    List String → Except SchemaError (List (String × MessageType))
  | [] => .ok []
  | id :: ids => do
    let type ← make id
    let rest ← makeAll make ids
    return (id, type) :: rest

def makeText (make : String → Except SchemaError MessageType) (id text : String) :
    Except SchemaError MessageType := do
  let names ← wanted id text
  let nested ← makeAll make names
  MessageType.ofText id text fun id => nested.lookup id

/-- What loading a type inside others comes to if nothing is kept. -/
def make (l : Loader) : (fuel : Nat) → (inside : List String) → String →
    Except SchemaError MessageType
  | 0, _, id => .error (.recursive id)
  | fuel + 1, inside, id =>
    if inside.contains id then .error (.recursive id)
    else do
      let text ← l.schemaText id
      makeText (l.make fuel (id :: inside)) id text

/-- Takes a type from a catalog that has it. -/
def known (catalog : Catalog) (id : String) : Except SchemaError MessageType :=
  match catalog.get? id with
  | some type => .ok type
  | none => .error (.recursive id)

variable {l : Loader} {catalog : Catalog} {inside : List String} {id root text : String}

theorem known_ok_iff {type : MessageType} :
    known catalog id = .ok type ↔ catalog.get? id = some type := by
  unfold known
  cases catalog.get? id with
  | none =>
    constructor
    · intro h
      cases h
    · intro h
      cases h
  | some found => rw [Except.ok.injEq, Option.some.injEq]

/-- Making succeeds in the same way if the types that are named can be made in the same way. -/
theorem makeAll_mono {first second : String → Except SchemaError MessageType} {ids : List String}
    {nested : List (String × MessageType)}
    (same : ∀ id ∈ ids, ∀ type, first id = .ok type → second id = .ok type)
    (made : makeAll first ids = .ok nested) : makeAll second ids = .ok nested := by
  induction ids generalizing nested with
  | nil => exact made
  | cons id ids ih =>
    obtain ⟨type, here, made⟩ := Result.bind_ok_iff.mp made
    obtain ⟨rest, others, made⟩ := Result.bind_ok_iff.mp made
    refine Result.bind_ok_iff.mpr ⟨type, same id (.head ids) type here, ?_⟩
    exact Result.bind_ok_iff.mpr
      ⟨rest, ih (fun other there => same other (.tail id there)) others, made⟩

theorem makeText_mono {first second : String → Except SchemaError MessageType} {type : MessageType}
    (same : ∀ names, wanted id text = .ok names →
      ∀ id ∈ names, ∀ type, first id = .ok type → second id = .ok type)
    (made : makeText first id text = .ok type) : makeText second id text = .ok type := by
  obtain ⟨names, refers, made⟩ := Result.bind_ok_iff.mp made
  obtain ⟨nested, all, made⟩ := Result.bind_ok_iff.mp made
  refine Result.bind_ok_iff.mpr ⟨names, refers, ?_⟩
  exact Result.bind_ok_iff.mpr ⟨nested, makeAll_mono (same names refers) all, made⟩

/-! ### What a catalog holds -/

/-- A catalog that loads have filled, one type after the other. -/
inductive Filled (l : Loader) : Catalog → Prop
  | empty : Filled l {}
  /-- A type is compiled from types that are there already. -/
  | insert {catalog : Catalog} {id text : String} {type : MessageType} (filled : Filled l catalog)
      (fresh : catalog.get? id = none) (read : l.schemaText id = .ok text)
      (made : makeText (known catalog) id text = .ok type) : Filled l (catalog.insert id type)

def Apart (catalog : Catalog) (inside : List String) : Prop :=
  ∀ id ∈ inside, catalog.get? id = none

theorem Apart.cons (apart : Apart catalog inside) (fresh : catalog.get? id = none) :
    Apart catalog (id :: inside) := by
  intro other member
  rcases List.mem_cons.mp member with rfl | member
  · exact fresh
  · exact apart other member

/-- A type that is in the catalog would be made again as it is. No type inside which that happens is
met on the way, since none of them is in the catalog. -/
theorem make_of_known {type : MessageType} (filled : l.Filled catalog) {fuel : Nat}
    (apart : Apart catalog inside) (ample : l.Ample root fuel inside) (member : id ∈ l.ids root)
    (there : catalog.get? id = some type) : l.make fuel inside id = .ok type := by
  induction filled generalizing fuel inside id type with
  | empty => cases there
  | @insert catalog key text newest filled fresh read made ih =>
    have before : Apart catalog inside := by
      intro other within
      have absent := apart other within
      rw [Catalog.get?_insert] at absent
      split at absent
      · cases absent
      · exact absent
    rw [Catalog.get?_insert_fresh fresh] at there
    split at there
    · rename_i same
      obtain rfl := Option.some.inj there
      subst same
      obtain ⟨less, rfl⟩ := Nat.exists_eq_add_one_of_ne_zero ample.pos.ne'
      have outside : id ∉ inside := by
        intro within
        have absent := apart id within
        rw [Catalog.get?_insert, if_pos rfl] at absent
        cases absent
      have given : ¬ inside.contains id = true := by rwa [List.contains_iff_mem]
      rw [make, if_neg given]
      refine Result.bind_ok_iff.mpr ⟨text, read, makeText_mono (fun names refers => ?_) made⟩
      intro name named type found
      exact ih (before.cons fresh) (ample.more member outside) (wanted_among member read refers named)
        (known_ok_iff.mp found)
    · exact ih before ample member there

/-! ### Loading and making -/

/-- What a load inside others leaves: more types, but none of those that are being loaded. -/
structure Leaves (l : Loader) (inside : List String) (before after : Catalog) : Prop where
  filled : l.Filled after
  keeps : ∀ id type, before.get? id = some type → after.get? id = some type
  apart : Apart after inside

theorem Leaves.refl (filled : l.Filled catalog) (apart : Apart catalog inside) :
    l.Leaves inside catalog catalog :=
  ⟨filled, fun _ _ there => there, apart⟩

theorem Leaves.trans {before between : Catalog} (first : l.Leaves inside before between)
    (second : l.Leaves inside between after) : l.Leaves inside before after where
  filled := second.filled
  keeps id type there := second.keeps id type (first.keeps id type there)
  apart := second.apart

theorem Leaves.outer {before after : Catalog} (leaves : l.Leaves (id :: inside) before after) :
    l.Leaves inside before after where
  filled := leaves.filled
  keeps := leaves.keeps
  apart other within := leaves.apart other (.tail id within)

/-- A load from this catalog has come to what making the type comes to, and the type is in the catalog
that it leaves. -/
def Ends (l : Loader) (inside : List String) (before : Catalog) (id : String)
    (loaded : EStateM.Result SchemaError Catalog MessageType)
    (made : Except SchemaError MessageType) : Prop :=
  ∃ after, loaded = Loading.ended made after ∧ l.Leaves inside before after ∧
    ∀ type, made = .ok type → after.get? id = some type

theorem Leaves.failed {before : Catalog} {e : SchemaError} (leaves : l.Leaves inside before catalog)
    (id : String) : l.Ends inside before id (.error e catalog) (.error e) :=
  ⟨catalog, rfl, leaves, fun _ made => by cases made⟩

/-- Whatever a catalog holds, loading these types comes to what making them comes to. -/
def Agree (l : Loader) (inside : List String) (load : String → Loading MessageType)
    (make : String → Except SchemaError MessageType) (ids : List String) : Prop :=
  ∀ id ∈ ids, ∀ catalog, l.Filled catalog → Apart catalog inside →
    l.Ends inside catalog id (load id catalog) (make id)

variable {load : String → Loading MessageType} {make : String → Except SchemaError MessageType}

theorem loadAll_makeAll {ids : List String} (agree : l.Agree inside load make ids)
    (filled : l.Filled catalog) (apart : Apart catalog inside) :
    ∃ after, loadAll load ids catalog = Loading.ended (makeAll make ids) after ∧
      l.Leaves inside catalog after ∧
      ∀ nested, makeAll make ids = .ok nested → makeAll (known after) ids = .ok nested := by
  induction ids generalizing catalog with
  | nil => exact ⟨catalog, rfl, .refl filled apart, fun _ made => made⟩
  | cons id ids ih =>
    obtain ⟨middle, first, leaves, kept⟩ := agree id (.head ids) catalog filled apart
    unfold makeAll
    cases here : make id with
    | error e =>
      rw [here] at first
      exact ⟨middle, loadAll_failed first, leaves, fun _ made => by cases made⟩
    | ok type =>
      rw [here] at first
      obtain ⟨after, rest, more, all⟩ :=
        ih (fun other there => agree other (.tail id there)) leaves.filled leaves.apart
      refine ⟨after, ?_, leaves.trans more, fun nested made => ?_⟩
      · cases others : makeAll make ids with
        | error e =>
          rw [others] at rest
          exact loadAll_broken first rest
        | ok found =>
          rw [others] at rest
          exact loadAll_cons first rest
      · obtain ⟨_, same, made⟩ := Result.bind_ok_iff.mp made
        cases same
        obtain ⟨found, others, made⟩ := Result.bind_ok_iff.mp made
        have there := more.keeps id type (kept type here)
        refine Result.bind_ok_iff.mpr ⟨type, known_ok_iff.mpr there, ?_⟩
        exact Result.bind_ok_iff.mpr ⟨found, all found others, made⟩

/-- A type that was compiled from types in the catalog can be put into it. -/
theorem keep_ended {made : Except SchemaError MessageType} {before : Catalog}
    (read : l.schemaText id = .ok text)
    (compiled : ∀ type, made = .ok type → makeText (known catalog) id text = .ok type)
    (leaves : l.Leaves (id :: inside) before catalog) (outside : id ∉ inside) :
    l.Ends inside before id (keep id made catalog) made := by
  have fresh := leaves.apart id (.head inside)
  cases made with
  | error e => exact leaves.outer.failed id
  | ok type =>
    refine ⟨catalog.insert id type, rfl, ⟨?_, fun other old there => ?_, fun other within => ?_⟩, ?_⟩
    · exact .insert leaves.filled fresh read (compiled type rfl)
    · exact Catalog.get?_insert_keeps fresh (leaves.keeps other old there)
    · have different : other ≠ id := by
        rintro rfl
        exact outside within
      rw [Catalog.get?_insert_fresh fresh, if_neg different, leaves.outer.apart other within]
    · intro other same
      cases same
      rw [Catalog.get?_insert_fresh fresh, if_pos rfl]

theorem compileWith_makeText (read : l.schemaText id = .ok text)
    (agree : ∀ names, wanted id text = .ok names → l.Agree (id :: inside) load make names)
    (filled : l.Filled catalog) (apart : Apart catalog (id :: inside)) (outside : id ∉ inside) :
    l.Ends inside catalog id (compileWith load id text catalog) (makeText make id text) := by
  cases refers : wanted id text with
  | error e =>
    have failed : makeText make id text = .error e := by rw [makeText, refers]; rfl
    rw [failed, compileWith_unparsed refers]
    exact (Leaves.refl filled apart).outer.failed id
  | ok names =>
    have goes (make : String → Except SchemaError MessageType) : makeText make id text =
        makeAll make names >>= fun nested => MessageType.ofText id text (nested.lookup ·) := by
      rw [makeText, refers]
      rfl
    obtain ⟨middle, loaded, leaves, all⟩ := loadAll_makeAll (agree names refers) filled apart
    rw [goes]
    cases found : makeAll make names with
    | error e =>
      rw [found] at loaded
      rw [compileWith_broken refers loaded]
      exact leaves.outer.failed id
    | ok nested =>
      rw [found] at loaded
      rw [compileWith_loaded refers loaded]
      refine keep_ended read (fun type made => ?_) leaves outside
      rw [goes]
      exact Result.bind_ok_iff.mpr ⟨nested, all nested found, made⟩

theorem loadInside_make {fuel : Nat} (ample : l.Ample root fuel inside) :
    l.Agree inside (l.loadInside fuel inside) (l.make fuel inside) (l.ids root) := by
  induction fuel generalizing inside with
  | zero => exact (Nat.lt_irrefl 0 ample.pos).elim
  | succ fuel ih =>
    intro id member catalog filled apart
    cases there : catalog.get? id with
    | some type =>
      rw [loadInside_known there, make_of_known filled apart ample member there]
      exact ⟨catalog, rfl, .refl filled apart, fun _ made => Except.ok.inj made ▸ there⟩
    | none =>
      rw [loadInside_new there]
      unfold Loader.make
      by_cases within : id ∈ inside
      · rw [if_pos within, if_pos (List.contains_iff_mem.mpr within)]
        exact (Leaves.refl filled apart).failed id
      · rw [if_neg within, if_neg (mt List.contains_iff_mem.mp within)]
        cases read : l.schemaText id with
        | error e => exact (Leaves.refl filled apart).failed id
        | ok text =>
          have agree := ih (ample.more member within)
          refine compileWith_makeText read (fun names refers name named => ?_) filled
            (apart.cons there) within
          exact agree name (wanted_among member read refers named)

/-! ### Loads one after the other -/

/-- The catalog after these loads, of which each has come to an end. -/
def after (l : Loader) (ids : List String) : Catalog :=
  ids.foldl (fun catalog id => Loading.left (l.load id catalog)) {}

theorem load_make (filled : l.Filled catalog) (id : String) :
    ∃ after, l.load id catalog = Loading.ended (l.make l.depth [] id) after ∧ l.Filled after := by
  have none : Apart catalog [] := fun _ within => by cases within
  obtain ⟨after, same, leaves, -⟩ := loadInside_make (.start l id) id (l.root_mem id) catalog filled none
  exact ⟨after, same, leaves.filled⟩

theorem filled_after (l : Loader) (ids : List String) : l.Filled (l.after ids) := by
  refine List.foldlRecOn ids _ .empty fun catalog filled id _ => ?_
  obtain ⟨after, same, filled⟩ := load_make filled id
  rw [same, Loading.left_ended]
  exact filled

/-- What a load comes to does not depend on what was loaded, or failed to load, before. -/
theorem load_after (l : Loader) (earlier : List String) (id : String) :
    Loading.outcome (l.load id (l.after earlier)) = Loading.outcome (l.load id {}) := by
  obtain ⟨_, late, -⟩ := load_make (l.filled_after earlier) id
  obtain ⟨_, first, -⟩ := load_make (l := l) .empty id
  rw [late, first, Loading.outcome_ended, Loading.outcome_ended]

end Loader

end TopicWire
