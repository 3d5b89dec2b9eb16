import Mathlib.Logic.Relation
import TopicWire.Proofs.Loader.Runs
import TopicWire.Proofs.MessageType.Lookup

/-!
# Which types can be loaded

Schemas refer to each other by the names in them. `Loader.load_accepts` says that a type can be loaded
exactly if each schema that it reaches can be had and compiles, and none of them reaches itself again.
-/

namespace TopicWire

/-! ### No error before the loader's own is about recursion -/

namespace FieldLine

theorem readLines_not_recursive {number count : Nat} {texts : List (List Char)} {x : String} :
    readLines number count texts ≠ .error (.recursive x) := by
  induction texts generalizing number count with
  | nil => exact fun failed => by cases failed
  | cons text texts ih =>
    intro failed
    unfold readLines at failed
    split at failed
    · exact ih failed
    · cases failed
    · rcases Result.bind_error_iff.mp failed with rest | ⟨_, _, made⟩
      · exact ih rest
      · cases made

theorem compileAll_not_recursive {id x : String} {package : Option String}
    {lookup : String → Option MessageType} {taken : List String} {lines : List FieldLine} :
    compileAll id package lookup taken lines ≠ .error (.recursive x) := by
  induction lines generalizing taken with
  | nil => exact fun failed => by cases failed
  | cons line lines ih =>
    intro failed
    unfold compileAll at failed
    rcases Result.bind_error_iff.mp failed with first | ⟨_, _, failed⟩
    · unfold compile at first
      split at first
      · cases first
      · split at first
        · cases first
        · split at first
          · cases first
          · split at first <;> cases first
    · rcases Result.bind_error_iff.mp failed with rest | ⟨_, _, made⟩
      · exact ih rest
      · cases made

end FieldLine

theorem splitId_not_recursive {id x : String} : splitId id ≠ .error (.recursive x) := by
  intro failed
  unfold splitId at failed
  split at failed
  · split at failed <;> cases failed
  · split at failed <;> cases failed

theorem MessageType.ofText_not_recursive {id text x : String} {lookup : String → Option MessageType} :
    ofText id text lookup ≠ .error (.recursive x) := by
  intro failed
  rcases Result.bind_error_iff.mp failed with parse | ⟨lines, -, failed⟩
  · exact FieldLine.readLines_not_recursive parse
  rcases Result.bind_error_iff.mp failed with compile | ⟨type, -, made⟩
  · rcases Result.bind_error_iff.mp compile with split | ⟨parts, -, failed⟩
    · exact splitId_not_recursive split
    rcases Result.bind_error_iff.mp failed with fields | ⟨_, -, made⟩
    · exact FieldLine.compileAll_not_recursive fields
    · cases made
  · cases made

/-- Only a resolver of the caller's own can say that a package is recursive. -/
theorem PackageIndex.custom_of_recursive {packages : PackageIndex} {files : Files} {package x : String}
    (failed : packages.resolve files package = .error (.recursive x)) :
    ∃ find, packages = .custom find ∧ find package = .error (.recursive x) := by
  cases packages with
  | custom find => exact ⟨find, rfl, failed⟩
  | roots directories =>
    unfold resolve at failed
    dsimp only at failed
    split at failed <;> cases failed
  | listed directories =>
    unfold resolve at failed
    dsimp only at failed
    split at failed <;> cases failed

namespace Loader

variable {l : Loader} {id name root text x : String} {inside : List String} {fuel : Nat}

theorem wanted_not_recursive : wanted id text ≠ .error (.recursive x) := by
  intro failed
  rcases Result.bind_error_iff.mp failed with parse | ⟨lines, -, failed⟩
  · exact FieldLine.readLines_not_recursive parse
  rcases Result.bind_error_iff.mp failed with split | ⟨parts, -, made⟩
  · exact splitId_not_recursive split
  · cases made

theorem custom_of_schemaText (failed : l.schemaText id = .error (.recursive x)) :
    ∃ find package, l.packages = .custom find ∧ find package = .error (.recursive x) := by
  unfold schemaText schemaPath at failed
  split at failed
  · rename_i located
    cases failed
    split at located
    · rename_i split
      cases located
      exact (splitId_not_recursive split).elim
    · cases located
    · split at located
      · rename_i resolved
        cases located
        obtain ⟨find, own, found⟩ := PackageIndex.custom_of_recursive resolved
        exact ⟨find, _, own, found⟩
      · cases located
  · unfold readSchema at failed
    split at failed <;> cases failed

/-! ### References -/

def Refers (l : Loader) (id name : String) : Prop :=
  ∃ text names, l.schemaText id = .ok text ∧ wanted id text = .ok names ∧ name ∈ names

/-- An id is the other one, or it refers to it directly or through others. -/
def Reaches (l : Loader) : String → String → Prop :=
  Relation.ReflTransGen l.Refers

/-- An id refers to itself, directly or through others. -/
def Cyclic (l : Loader) (id : String) : Prop :=
  Relation.TransGen l.Refers id id

/-- The id names a schema that can be had, and the schema compiles with types for what it refers
to. -/
inductive Usable (l : Loader) (id : String) : Prop
  | intro {package name directory text : String} {lines : List FieldLine}
      {lookup : String → Option MessageType} {type : MessageType}
      (packaged : splitId id = .ok (some package, name))
      (resolved : l.packages.resolve l.files package = .ok directory)
      (readable : l.files.readText (joinPath (joinPath directory "msg") s!"{name}.msg") = .ok text)
      (parsed : FieldLine.parse text = .ok lines)
      (compiled : MessageType.ofLines id lines (schemaDigest text) lookup = .ok type)

theorem usable_of_made {lookup : String → Option MessageType} {type : MessageType}
    (read : l.schemaText id = .ok text) (made : MessageType.ofText id text lookup = .ok type) :
    l.Usable id := by
  obtain ⟨lines, plain, parsed, compiled, -⟩ := MessageType.ofText_ok made
  unfold schemaText schemaPath at read
  split at read
  · cases read
  · rename_i path located
    split at located
    · cases located
    · cases located
    · rename_i package name packaged
      split at located
      · cases located
      · rename_i directory resolved
        cases located
        unfold readSchema at read
        split at read
        · rename_i readable
          cases read
          exact .intro packaged resolved readable parsed compiled
        · cases read

/-- A usable schema compiles with any types for what it refers to. -/
theorem Usable.compiles (usable : l.Usable id) :
    ∃ text names, l.schemaText id = .ok text ∧ wanted id text = .ok names ∧
      ∀ lookup : String → Option MessageType, (∀ name ∈ names, (lookup name).isSome) →
        ∃ type, MessageType.ofText id text lookup = .ok type := by
  obtain ⟨packaged, resolved, readable, parsed, compiled⟩ := usable
  rename_i package name directory text lines _ _
  refine ⟨text, nestedIds lines (some package), ?_, ?_, fun lookup found => ?_⟩
  · simp only [schemaText, schemaPath, packaged, resolved, readSchema, readable]
  · unfold wanted
    rw [parsed, packaged]
    rfl
  · obtain ⟨type, made⟩ := MessageType.ofLines_of_found packaged found compiled
    refine ⟨{ type with definition := text }, ?_⟩
    refine Result.bind_ok_iff.mpr ⟨lines, parsed, ?_⟩
    exact Result.bind_ok_iff.mpr ⟨type, made, rfl⟩

/-! ### Making a type and its references -/

variable {make : String → Except SchemaError MessageType} {ids : List String}

theorem makeAll_ok {nested : List (String × MessageType)} (made : makeAll make ids = .ok nested) :
    ∀ id ∈ ids, ∃ type, make id = .ok type := by
  induction ids generalizing nested with
  | nil => exact fun _ none => by cases none
  | cons id ids ih =>
    obtain ⟨type, first, made⟩ := Result.bind_ok_iff.mp made
    obtain ⟨rest, others, -⟩ := Result.bind_ok_iff.mp made
    intro other member
    rcases List.mem_cons.mp member with rfl | later
    · exact ⟨type, first⟩
    · exact ih others other later

theorem makeAll_of_each (each : ∀ id ∈ ids, ∃ type, make id = .ok type) :
    ∃ nested, makeAll make ids = .ok nested ∧ ∀ id ∈ ids, (nested.lookup id).isSome := by
  induction ids with
  | nil => exact ⟨[], rfl, fun _ none => by cases none⟩
  | cons id ids ih =>
    obtain ⟨type, first⟩ := each id (.head ids)
    obtain ⟨rest, others, found⟩ := ih fun other member => each other (.tail id member)
    refine ⟨(id, type) :: rest, ?_, fun other member => ?_⟩
    · refine Result.bind_ok_iff.mpr ⟨type, first, ?_⟩
      exact Result.bind_ok_iff.mpr ⟨rest, others, rfl⟩
    · rw [Keyed.lookup_cons]
      split
      · rfl
      · rename_i different
        exact found other ((List.mem_cons.mp member).resolve_left different)

theorem makeAll_error {e : SchemaError} (failed : makeAll make ids = .error e) :
    ∃ id ∈ ids, make id = .error e := by
  induction ids with
  | nil => cases failed
  | cons id ids ih =>
    rcases Result.bind_error_iff.mp failed with first | ⟨_, _, failed⟩
    · exact ⟨id, .head ids, first⟩
    rcases Result.bind_error_iff.mp failed with rest | ⟨_, _, made⟩
    · obtain ⟨other, member, failed⟩ := ih rest
      exact ⟨other, .tail id member, failed⟩
    · cases made

/-- A type that was made reaches usable schemas only, and nothing that it is made inside. -/
theorem make_ok {type : MessageType} (made : l.make fuel inside id = .ok type) :
    ∀ x, l.Reaches id x → x ∉ inside ∧ l.Usable x ∧ ¬ l.Cyclic x := by
  induction fuel generalizing inside id type with
  | zero => cases made
  | succ fuel ih =>
    unfold Loader.make at made
    split at made
    · cases made
    · rename_i given
      have outside : id ∉ inside := by rwa [List.contains_iff_mem] at given
      obtain ⟨text, read, made⟩ := Result.bind_ok_iff.mp made
      obtain ⟨names, refers, made⟩ := Result.bind_ok_iff.mp made
      obtain ⟨nested, all, made⟩ := Result.bind_ok_iff.mp made
      have below {name x} (first : l.Refers id name) (reached : l.Reaches name x) :
          x ∉ id :: inside ∧ l.Usable x ∧ ¬ l.Cyclic x := by
        obtain ⟨text', names', read', refers', member⟩ := first
        cases read.symm.trans read'
        cases refers.symm.trans refers'
        obtain ⟨type, made⟩ := makeAll_ok all name member
        exact ih made x reached
      intro x reached
      rcases reached.cases_head with rfl | ⟨name, first, reached⟩
      · refine ⟨outside, usable_of_made read made, fun cycle => ?_⟩
        -- On the way back to the id it would have been made inside itself.
        obtain ⟨name, first, back⟩ := Relation.TransGen.head'_iff.mp cycle
        exact (below first back).1 (.head inside)
      · obtain ⟨apart, usable, acyclic⟩ := below first reached
        exact ⟨fun within => apart (.tail id within), usable, acyclic⟩

/-- Each of the types that are being loaded reaches the id that is loaded now. -/
def Leads (l : Loader) (inside : List String) (id : String) : Prop :=
  ∀ outer ∈ inside, Relation.TransGen l.Refers outer id

theorem Leads.refers (leads : l.Leads inside id) (refers : l.Refers id name) :
    l.Leads (id :: inside) name := by
  intro outer within
  rcases List.mem_cons.mp within with rfl | within
  · exact .single refers
  · exact (leads outer within).tail refers

theorem make_of_usable (ample : l.Ample root fuel inside) (member : id ∈ l.ids root)
    (leads : l.Leads inside id) (usable : ∀ x, l.Reaches id x → l.Usable x ∧ ¬ l.Cyclic x) :
    ∃ type, l.make fuel inside id = .ok type := by
  induction fuel generalizing inside id with
  | zero => exact (Nat.lt_irrefl 0 ample.pos).elim
  | succ fuel ih =>
    obtain ⟨here, acyclic⟩ := usable id .refl
    have outside : id ∉ inside := fun within => acyclic (leads id within)
    obtain ⟨text, names, read, refers, compiles⟩ := here.compiles
    have each : ∀ name ∈ names, ∃ type, l.make fuel (id :: inside) name = .ok type := by
      intro name named
      have first : l.Refers id name := ⟨text, names, read, refers, named⟩
      refine ih (ample.more member outside) (wanted_among member read refers named)
        (leads.refers first) fun x reached => ?_
      exact usable x (.head first reached)
    obtain ⟨nested, all, found⟩ := makeAll_of_each each
    obtain ⟨type, made⟩ := compiles (nested.lookup ·) found
    refine ⟨type, ?_⟩
    unfold Loader.make
    rw [if_neg (mt List.contains_iff_mem.mp outside)]
    refine Result.bind_ok_iff.mpr ⟨text, read, ?_⟩
    refine Result.bind_ok_iff.mpr ⟨names, refers, ?_⟩
    exact Result.bind_ok_iff.mpr ⟨nested, all, made⟩

theorem cyclic_of_recursive (ample : l.Ample root fuel inside) (member : id ∈ l.ids root)
    (leads : l.Leads inside id)
    (own : ∀ find package, l.packages = .custom find → find package ≠ .error (.recursive x))
    (failed : l.make fuel inside id = .error (.recursive x)) : l.Reaches id x ∧ l.Cyclic x := by
  induction fuel generalizing inside id with
  | zero => exact (Nat.lt_irrefl 0 ample.pos).elim
  | succ fuel ih =>
    unfold Loader.make at failed
    split at failed
    · rename_i within
      cases failed
      exact ⟨.refl, leads x (List.contains_iff_mem.mp within)⟩
    · rename_i given
      have outside : id ∉ inside := by rwa [List.contains_iff_mem] at given
      rcases Result.bind_error_iff.mp failed with unread | ⟨text, read, failed⟩
      · obtain ⟨find, package, custom, found⟩ := custom_of_schemaText unread
        exact (own find package custom found).elim
      rcases Result.bind_error_iff.mp failed with unparsed | ⟨names, refers, failed⟩
      · exact (wanted_not_recursive unparsed).elim
      rcases Result.bind_error_iff.mp failed with broken | ⟨nested, -, refused⟩
      · obtain ⟨name, named, failed⟩ := makeAll_error broken
        have first : l.Refers id name := ⟨text, names, read, refers, named⟩
        obtain ⟨reached, cyclic⟩ := ih (ample.more member outside)
          (wanted_among member read refers named) (leads.refers first) failed
        exact ⟨.head first reached, cyclic⟩
      · exact (MessageType.ofText_not_recursive refused).elim

theorem outcome_load (l : Loader) (id : String) :
    Loading.outcome (l.load id {}) = l.make l.depth [] id := by
  obtain ⟨after, ended, -⟩ := load_make (l := l) .empty id
  rw [ended, Loading.outcome_ended]

/-- A load comes to one result, whatever the schemas say. It succeeds exactly if all schemas that the
id reaches are usable and none reaches itself again. What it calls recursive is one of them that does,
unless a resolver of the caller's own says so. -/
theorem load_accepts (l : Loader) (id : String) :
    (∀ result, l.Runs [] id {} result ↔ l.load id {} = result) ∧
      ((∃ type after, l.load id {} = .ok type after) ↔
        ∀ x, l.Reaches id x → l.Usable x ∧ ¬ l.Cyclic x) ∧
      ∀ x after, (∀ find package, l.packages = .custom find → find package ≠ .error (.recursive x)) →
        l.load id {} = .error (.recursive x) after → l.Reaches id x ∧ l.Cyclic x := by
  have leads : l.Leads [] id := fun _ none => by cases none
  have ample : l.Ample id l.depth [] := .start l id
  have outcome := l.outcome_load id
  refine ⟨l.load_runs id {}, ⟨?_, fun usable => ?_⟩, fun x after own failed => ?_⟩
  · rintro ⟨type, after, loaded⟩ x reached
    rw [loaded] at outcome
    exact (make_ok outcome.symm x reached).2
  · obtain ⟨type, made⟩ := make_of_usable ample (l.root_mem id) leads usable
    obtain ⟨after, ended, -⟩ := load_make (l := l) .empty id
    rw [made] at ended
    exact ⟨type, after, ended⟩
  · rw [failed] at outcome
    exact cyclic_of_recursive ample (l.root_mem id) leads own outcome.symm

example :
    let files := [("A.msg", "B b"), ("B.msg", "A[] a")].foldl (fun (files : Files) (name, text) =>
      files.add ["loop", "msg", name] (.file (Bytes.ofText text))) {}
    let l : Loader := ⟨files, .listed [("loop", "/loop")]⟩
    l.load "loop/A" {} = .error (.recursive "loop/A") {} := by
  rfl

end Loader

end TopicWire
