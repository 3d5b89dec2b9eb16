import TopicWire.Proofs.Keyed
import TopicWire.Proofs.Loader.Runs
import TopicWire.Proofs.MessageType.Lookup

/-!
# What a catalog holds after loads

However loads go, by id, from files or from texts, each type in the catalog was compiled from types
that are in it (`Catalog.Closed`), and after a load its id is in the catalog exactly if the load
succeeded (`Loader.Registers`).
-/

namespace TopicWire

/-! ### Closed catalogs -/

namespace Catalog

variable {catalog : Catalog} {id : String} {type : MessageType}

/-- A catalog that was filled with one type after the other, each compiled from types that were
there. -/
inductive Closed : Catalog → Prop
  | empty : Closed {}
  | insert {catalog : Catalog} {id text : String} {type : MessageType} (closed : Closed catalog)
      (fresh : catalog.get? id = none) (made : MessageType.ofText id text catalog.get? = .ok type) :
      Closed (catalog.insert id type)

/-- What a type in a catalog has to do with the catalog and with the key that it is under. -/
structure Registered (catalog : Catalog) (id : String) (type : MessageType) : Prop where
  id_eq : type.id = id
  digest_eq : type.digest = schemaDigest type.definition
  compiles : MessageType.ofText id type.definition catalog.get? = .ok type
  everywhere : type.Everywhere fun inner => catalog.get? inner.id = some inner

theorem Registered.insert {key : String} {newest : MessageType}
    (registered : catalog.Registered id type) (fresh : catalog.get? key = none) :
    (catalog.insert key newest).Registered id type where
  id_eq := registered.id_eq
  digest_eq := registered.digest_eq
  compiles := MessageType.ofText_mono (fun _ _ there => get?_insert_keeps fresh there)
    registered.compiles
  everywhere := registered.everywhere.imp fun _ there => get?_insert_keeps fresh there

theorem Closed.registered (closed : catalog.Closed) (there : catalog.get? id = some type) :
    catalog.Registered id type := by
  induction closed generalizing id type with
  | empty => cases there
  | @insert catalog key text newest closed fresh made ih =>
    rw [get?_insert_fresh fresh] at there
    split at there
    · rename_i same
      cases there
      subst same
      obtain ⟨lines, plain, parsed, compiled, rfl⟩ := MessageType.ofText_ok made
      obtain ⟨-, named, digest, -, fields⟩ := MessageType.ofLines_ok compiled
      have found {other inner} (old : catalog.get? other = some inner) :
          (catalog.insert id { plain with definition := text }).get? other = some inner :=
        get?_insert_keeps fresh old
      refine ⟨named, digest, MessageType.ofText_mono (fun _ _ => found) made, .intro ?_ ?_⟩
      · dsimp only
        rw [named, get?_insert_fresh fresh, if_pos rfl]
      · intro f member inner holds
        obtain ⟨name, old⟩ := FieldLine.compileAll_message fields member holds
        exact ((ih old).insert fresh).everywhere
    · exact (ih there).insert fresh

theorem Closed.ascending (closed : catalog.Closed) : catalog.ids.Pairwise (· < ·) := by
  induction closed with
  | empty => exact .nil
  | insert closed fresh made ih =>
    unfold Catalog.insert
    split
    · exact ih
    · exact Keyed.ascending_insert ih

/-- Nothing is under an id that is none. -/
theorem Closed.absent {e : SchemaError} (closed : catalog.Closed) (invalid : splitId id = .error e) :
    catalog.get? id = none := by
  cases there : catalog.get? id with
  | none => rfl
  | some type =>
    obtain ⟨lines, plain, -, compiled, -⟩ := MessageType.ofText_ok (closed.registered there).compiles
    cases invalid.symm.trans (MessageType.ofLines_ok compiled).1

end Catalog

/-! ### What loading leaves -/

namespace Loader

variable {l : Loader} {before middle after : Catalog} {id text : String} {inside ids : List String}
  {load : String → Loading MessageType}

/-- From one catalog to the next nothing is lost, and nothing is put under the ids of the types that
are being loaded. -/
structure Grows (inside : List String) (before after : Catalog) : Prop where
  closed : after.Closed
  keeps : ∀ id type, before.get? id = some type → after.get? id = some type
  apart : ∀ id ∈ inside, after.get? id = before.get? id

theorem Grows.refl (closed : before.Closed) : Grows inside before before :=
  ⟨closed, fun _ _ there => there, fun _ _ => rfl⟩

theorem Grows.trans (first : Grows inside before middle) (second : Grows inside middle after) :
    Grows inside before after where
  closed := second.closed
  keeps id type there := second.keeps id type (first.keeps id type there)
  apart id within := (second.apart id within).trans (first.apart id within)

theorem Grows.outer (grows : Grows (id :: inside) before after) : Grows inside before after where
  closed := grows.closed
  keeps := grows.keeps
  apart other within := grows.apart other (.tail id within)

theorem Grows.insert {type : MessageType} (grows : Grows (id :: inside) before after)
    (fresh : before.get? id = none) (outside : id ∉ inside)
    (made : MessageType.ofText id text after.get? = .ok type) :
    Grows inside before (after.insert id type) := by
  have still : after.get? id = none := (grows.apart id (.head inside)).trans fresh
  refine ⟨.insert grows.closed still made, fun other old there => ?_, fun other within => ?_⟩
  · exact Catalog.get?_insert_keeps still (grows.keeps other old there)
  · have different : other ≠ id := by
      rintro rfl
      exact outside within
    rw [Catalog.get?_insert_fresh still, if_neg different, grows.outer.apart other within]

/-- What a load of an id leaves: under the id is the type that it has come to, or, if it failed, what was
there before. -/
def Registers (inside : List String) (before : Catalog) (id : String) :
    EStateM.Result SchemaError Catalog MessageType → Prop
  | .ok type after => Grows inside before after ∧ after.get? id = some type
  | .error _ after => Grows inside before after ∧ after.get? id = before.get? id

theorem Registers.grows {loaded : EStateM.Result SchemaError Catalog MessageType}
    (leaves : Registers inside before id loaded) : Grows inside before (Loading.left loaded) := by
  cases loaded with
  | ok type after => exact leaves.1
  | error e after => exact leaves.1

def RegistersAll (inside : List String) (before : Catalog) :
    EStateM.Result SchemaError Catalog (List (String × MessageType)) → Prop
  | .ok nested after => Grows inside before after ∧
      ∀ id type, nested.lookup id = some type → after.get? id = some type
  | .error _ after => Grows inside before after

def Registering (inside : List String) (load : String → Loading MessageType) : Prop :=
  ∀ id before, before.Closed → Registers inside before id (load id before)

theorem loadAll_registers (registering : Registering inside load) (closed : before.Closed)
    (ids : List String) : RegistersAll inside before (loadAll load ids before) := by
  induction ids generalizing before with
  | nil => exact ⟨.refl closed, fun _ _ none => by cases none⟩
  | cons id ids ih =>
    have one := registering id before closed
    cases first : load id before with
    | error e after =>
      rw [first] at one
      rw [loadAll_failed first]
      exact one.1
    | ok type middle =>
      rw [first] at one
      obtain ⟨grows, here⟩ := one
      have others := ih grows.closed
      cases rest : loadAll load ids middle with
      | error e after =>
        rw [rest] at others
        rw [loadAll_broken first rest]
        exact grows.trans others
      | ok nested after =>
        rw [rest] at others
        obtain ⟨more, found⟩ := others
        rw [loadAll_cons first rest]
        refine ⟨grows.trans more, fun other inner there => ?_⟩
        rw [Keyed.lookup_cons] at there
        split at there
        · rename_i same
          cases there
          exact same ▸ more.keeps id type here
        · exact found other inner there

theorem compileWith_registers (registering : Registering (id :: inside) load)
    (closed : before.Closed) (fresh : before.get? id = none) (outside : id ∉ inside) :
    Registers inside before id (compileWith load id text before) := by
  cases refers : wanted id text with
  | error e =>
    rw [compileWith_unparsed refers]
    exact ⟨.refl closed, rfl⟩
  | ok names =>
    have named := loadAll_registers registering closed names
    cases all : loadAll load names before with
    | error e after =>
      rw [all] at named
      rw [compileWith_broken refers all]
      exact ⟨named.outer, named.apart id (.head inside)⟩
    | ok nested after =>
      rw [all] at named
      obtain ⟨grows, found⟩ := named
      have still := grows.apart id (.head inside)
      rw [compileWith_loaded refers all]
      cases made : MessageType.ofText id text (nested.lookup ·) with
      | error e => exact ⟨grows.outer, still⟩
      | ok type =>
        refine ⟨grows.insert fresh outside (MessageType.ofText_mono found made), ?_⟩
        rw [Catalog.get?_insert_fresh (still.trans fresh), if_pos rfl]

theorem loadInside_registers (l : Loader) (fuel : Nat) (inside : List String) :
    Registering inside (l.loadInside fuel inside) := by
  induction fuel generalizing inside with
  | zero => exact fun _ _ closed => ⟨.refl closed, rfl⟩
  | succ fuel ih =>
    intro id before closed
    cases there : before.get? id with
    | some type =>
      rw [loadInside_known there]
      exact ⟨.refl closed, there⟩
    | none =>
      rw [loadInside_new there]
      split
      · exact ⟨.refl closed, rfl⟩
      · rename_i outside
        cases l.schemaText id with
        | error e => exact ⟨.refl closed, rfl⟩
        | ok text => exact compileWith_registers (ih (id :: inside)) closed there outside

/-- Makes a type under an id that has to be valid, unless there is one already. -/
def unlessKnown (id : String) (make : Loading MessageType) : Loading MessageType := do
  let _ ← Loading.of (splitId id)
  match (← get).get? id with
  | some type => return type
  | none => make

variable {make : Loading MessageType}

theorem unlessKnown_invalid {e : SchemaError} (invalid : splitId id = .error e) :
    unlessKnown id make before = .error e before := by
  unfold unlessKnown
  rw [invalid]
  rfl

theorem unlessKnown_valid {parts : Option String × String} (valid : splitId id = .ok parts) :
    unlessKnown id make before =
      match before.get? id with
      | some type => .ok type before
      | none => make before := by
  have start : Loading.of (splitId id) before = .ok parts before := by rw [valid]; rfl
  have got : (get : Loading Catalog) before = .ok before before := rfl
  unfold unlessKnown
  rw [Stateful.bind_of_ok start, Stateful.bind_of_ok got]
  cases before.get? id <;> rfl

theorem unlessKnown_known {type : MessageType} (closed : before.Closed)
    (there : before.get? id = some type) : unlessKnown id make before = .ok type before := by
  cases split : splitId id with
  | error e => cases there.symm.trans (closed.absent split)
  | ok parts => rw [unlessKnown_valid split, there]

theorem unlessKnown_registers (closed : before.Closed)
    (makes : before.get? id = none → Registers [] before id (make before)) :
    Registers [] before id (unlessKnown id make before) := by
  cases split : splitId id with
  | error e =>
    rw [unlessKnown_invalid split]
    exact ⟨.refl closed, rfl⟩
  | ok parts =>
    rw [unlessKnown_valid split]
    cases there : before.get? id with
    | some type => exact ⟨.refl closed, there⟩
    | none => exact makes there

end Loader

/-! ### Any loads one after the other -/

/-- A type is loaded by a loader: by its id alone, or under an id from a file or a text. -/
inductive LoadCall where
  | load (l : Loader) (id : String)
  | loadFile (l : Loader) (id path : String)
  | loadText (l : Loader) (id text : String)

namespace LoadCall

def id : LoadCall → String
  | .load _ id => id
  | .loadFile _ id _ => id
  | .loadText _ id _ => id

def perform : LoadCall → Loading MessageType
  | .load l id => l.load id
  | .loadFile l id path => l.loadFile id path
  | .loadText l id text => l.loadText id text

variable {before : Catalog} {type : MessageType}

theorem perform_registers (call : LoadCall) (closed : before.Closed) :
    Loader.Registers [] before call.id (call.perform before) := by
  have within (l : Loader) (id : String) := l.loadInside_registers l.depth [id]
  have outside (id : String) : id ∉ ([] : List String) := List.not_mem_nil
  cases call with
  | load l id => exact l.loadInside_registers l.depth [] id before closed
  | loadFile l id path =>
    refine Loader.unlessKnown_registers closed fun fresh => ?_
    cases read : l.readSchema path with
    | error e => exact ⟨.refl closed, rfl⟩
    | ok text => exact Loader.compileWith_registers (within l id) closed fresh (outside id)
  | loadText l id text =>
    refine Loader.unlessKnown_registers closed fun fresh => ?_
    exact Loader.compileWith_registers (within l id) closed fresh (outside id)

/-- A type that is there is returned as it is, whatever the file or the text says. -/
theorem perform_known (call : LoadCall) (closed : before.Closed)
    (there : before.get? call.id = some type) : call.perform before = .ok type before := by
  cases call with
  | load l id =>
    obtain ⟨fuel, enough⟩ := Nat.exists_eq_add_one_of_ne_zero (Loader.Ample.start l id).pos.ne'
    show l.loadInside l.depth [] id before = _
    rw [enough]
    exact Loader.loadInside_known there
  | loadFile l id path => exact Loader.unlessKnown_known closed there
  | loadText l id text => exact Loader.unlessKnown_known closed there

theorem perform_failed (call : LoadCall) (closed : before.Closed) {e : SchemaError} {after : Catalog}
    (failed : call.perform before = .error e after) : after.get? call.id = none := by
  have leaves := call.perform_registers closed
  rw [failed] at leaves
  rw [leaves.2]
  cases there : before.get? call.id with
  | none => rfl
  | some type => cases failed.symm.trans (call.perform_known closed there)

end LoadCall

namespace Catalog

/-- The catalog after these loads, of which any may have failed. -/
def filledBy (calls : List LoadCall) : Catalog :=
  calls.foldl (fun catalog call => Loading.left (call.perform catalog)) {}

theorem foldl_grows (calls : List LoadCall) {before : Catalog} (closed : before.Closed) :
    Loader.Grows [] before
      (calls.foldl (fun catalog call => Loading.left (call.perform catalog)) before) := by
  induction calls generalizing before with
  | nil => exact .refl closed
  | cons call calls ih =>
    have first := (call.perform_registers closed).grows
    exact first.trans (ih first.closed)

theorem closed_filledBy (calls : List LoadCall) : (filledBy calls).Closed :=
  (foldl_grows calls .empty).closed

/-- A catalog that loads have filled is closed under looking up what its types hold, never loses a
type, has none for an id whose load failed, and lists its ids once each in ascending order. -/
theorem filledBy_closed (calls : List LoadCall) :
    (∀ id type, (filledBy calls).get? id = some type → (filledBy calls).Registered id type) ∧
      (∀ more id type, (filledBy calls).get? id = some type →
        (filledBy (calls ++ more)).get? id = some type) ∧
      (∀ (call : LoadCall) e after, call.perform (filledBy calls) = .error e after →
        after.get? call.id = none) ∧
      (filledBy calls).ids.Pairwise (· < ·) ∧
      (∀ id, id ∈ (filledBy calls).ids ↔ ((filledBy calls).get? id).isSome) ∧
      (filledBy calls).ids.length = (filledBy calls).size := by
  have closed := closed_filledBy calls
  refine ⟨fun _ _ there => closed.registered there, fun more id type there => ?_,
    fun call _ _ failed => call.perform_failed closed failed, closed.ascending,
    fun _ => Keyed.mem_keys_iff, List.length_map _⟩
  have joined : filledBy (calls ++ more) =
      more.foldl (fun catalog call => Loading.left (call.perform catalog)) (filledBy calls) :=
    List.foldl_append
  rw [joined]
  exact (foldl_grows more closed).keeps id type there

end Catalog

end TopicWire
