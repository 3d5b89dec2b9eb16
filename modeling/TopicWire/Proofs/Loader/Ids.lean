import Mathlib.Algebra.Order.BigOperators.Group.List
import Mathlib.Data.List.Nodup
import Mathlib.Data.String.Basic
import TopicWire.Loader
import TopicWire.Proofs.MessageType.Lookup
import TopicWire.Proofs.Schema.Spelling

/-!
# The ids that a load meets

The ids that a load meets are put together from what the schema files and its own id say, and so they
are finitely many: `Loader.wanted_among` says that they stay among `Loader.ids`, and
`Loader.Ample.more` that the fuel of a load lasts as long as it meets new ones.
-/

namespace TopicWire

/-! ### Ids -/

theorem toList_packaged (package name : String) :
    (s!"{package}/{name}").toList = package.toList ++ '/' :: name.toList := by
  show (package ++ "/" ++ name).toList = _
  rw [String.toList_append, String.toList_append, List.append_assoc]
  rfl

theorem slashless_of_splitId {id package name : String}
    (split : splitId id = .ok (some package, name)) : '/' ∉ package.toList := by
  cases splitId_ok_iff.mp split with
  | packaged _ plain => exact plain.1

theorem splitId_packaged {package name : String} {found : Option String} {rest : String}
    (plain : '/' ∉ package.toList) (split : splitId s!"{package}/{name}" = .ok (found, rest)) :
    found = some package := by
  unfold splitId at split
  rw [Text.cut_char_eq_some_iff.mpr ⟨toList_packaged package name, plain⟩] at split
  dsimp only at split
  split at split
  · cases split
  · cases split
    rw [String.ofList_toList]

def FieldLine.base? (line : FieldLine) : Option String :=
  (splitBrackets line.typeName).map (·.1)

theorem mem_nestedIds {lines : List FieldLine} {package : Option String} {id : String}
    (member : id ∈ nestedIds lines package) :
    ∃ base ∈ lines.filterMap FieldLine.base?, id = qualifiedId base package := by
  obtain ⟨line, here, refers⟩ := FieldLine.mem_nestedIds_iff_refers.mp member
  obtain ⟨base, brackets, divided, -, same⟩ := FieldLine.refers?_eq_some_iff.mp refers
  have named : line.base? = some base := by
    rw [FieldLine.base?, divided]
    rfl
  exact ⟨base, List.mem_filterMap.mpr ⟨line, here, named⟩, same⟩

theorem Files.stored_of_readText {files : Files} {path text : String}
    (read : files.readText path = .ok text) :
    ∃ place content, (place, .file content) ∈ files.entries ∧ Bytes.text? content = some text := by
  unfold Files.readText at read
  split at read
  · cases read
  · rename_i content opened
    unfold Files.read at opened
    split at opened
    · cases opened
    · rename_i place located
      split at opened
      · rename_i found
        cases opened
        split at read
        · rename_i spelled
          cases read
          unfold Files.entry? at found
          split at found
          · cases found
          · obtain ⟨before, rest, all, -⟩ := List.lookup_eq_some_iff.mp found
            exact ⟨place, content, all ▸ List.mem_append_right before (.head rest), spelled⟩
        · cases read
      · cases opened
      · cases opened

theorem Loader.readText_of_schemaText {l : Loader} {id text : String}
    (read : l.schemaText id = .ok text) : ∃ path, l.files.readText path = .ok text := by
  unfold schemaText readSchema at read
  split at read
  · cases read
  · rename_i path located
    split at read
    · rename_i opened
      cases read
      exact ⟨path, opened⟩
    · cases read

/-! ### How many lines a text has -/

theorem length_flatten_splitOn (c : Char) (cs : List Char) :
    (cs.splitOn c).flatten.length ≤ cs.length := by
  unfold List.splitOn
  induction cs with
  | nil => exact Nat.le_refl 0
  | cons a cs ih =>
    rw [List.splitOnP_cons_eq_if_modifyHead, List.length_cons]
    split
    · rw [List.flatten_cons, List.nil_append]
      omega
    · obtain ⟨piece, rest, pieces⟩ := List.exists_cons_of_ne_nil (List.splitOnP_ne_nil (· == c) cs)
      rw [pieces, List.flatten_cons] at ih
      rw [pieces, List.modifyHead_cons, List.flatten_cons, List.cons_append, List.length_cons]
      omega

theorem length_le_utf8Len (cs : List Char) : cs.length ≤ String.utf8Len cs := by
  induction cs with
  | nil => exact Nat.le_refl 0
  | cons c cs ih =>
    have := c.utf8Size_pos
    rw [List.length_cons, String.utf8Len_cons]
    omega

namespace FieldLine

theorem length_readLines {number count : Nat} {texts : List (List Char)} {lines : List FieldLine}
    (read : readLines number count texts = .ok lines) :
    lines.length ≤ texts.flatten.length := by
  induction texts generalizing number count lines with
  | nil =>
    cases read
    exact Nat.le_refl 0
  | cons text texts ih =>
    rw [List.flatten_cons, List.length_append]
    unfold readLines at read
    split at read
    · have := ih read
      omega
    · cases read
    · rename_i field
      obtain ⟨rest, others, read⟩ := Result.bind_ok_iff.mp read
      obtain rfl := Result.pure_ok_iff.mp read
      have filled : 0 < text.length := by
        refine List.length_pos_of_ne_nil ?_
        rintro rfl
        cases field
      have := ih others
      rw [List.length_cons]
      omega

theorem length_parse {text : String} {lines : List FieldLine} (parsed : parse text = .ok lines) :
    lines.length ≤ (Bytes.ofText text).length :=
  calc lines.length
    _ ≤ (text.toList.splitOn '\n').flatten.length := length_readLines parsed
    _ ≤ text.toList.length := length_flatten_splitOn '\n' text.toList
    _ ≤ String.utf8Len text.toList := length_le_utf8Len text.toList
    _ = (Bytes.ofText text).length := by rw [String.utf8Len_toList, Bytes.length_ofText]

end FieldLine

namespace Loader

variable {l : Loader} {root id : String}

/-- The ids that a schema text under an id refers to. -/
def wanted (id text : String) : Except SchemaError (List String) := do
  let lines ← FieldLine.parse text
  let (package, _) ← splitId id
  return nestedIds lines package

def basesIn : FileEntry → List String
  | .directory => []
  | .file content =>
    match (Bytes.text? content).map FieldLine.parse with
    | some (.ok lines) => lines.filterMap FieldLine.base?
    | _ => []

def bases (l : Loader) : List String :=
  l.files.entries.flatMap fun (_, entry) => basesIn entry

def packageOf? (id : String) : Option String :=
  match splitId id with
  | .ok (package, _) => package
  | .error _ => none

/-- The packages that the ids of a load can have. -/
def packagesOf (l : Loader) (root : String) : List String :=
  "std_msgs" :: (root :: l.bases).filterMap packageOf?

/-- The ids that a load can meet. -/
def ids (l : Loader) (root : String) : List String :=
  "std_msgs/Header" :: root :: l.bases ++
    (l.packagesOf root).flatMap fun package => l.bases.map fun base => s!"{package}/{base}"

theorem root_mem (l : Loader) (root : String) : root ∈ l.ids root :=
  .tail _ (.head _)

theorem bases_subset (l : Loader) (root : String) : l.bases ⊆ l.ids root := by
  intro base member
  exact .tail _ (.tail _ (List.mem_append_left _ member))

theorem slashless_of_mem {package : String} (member : package ∈ l.packagesOf root) :
    '/' ∉ package.toList := by
  rcases List.mem_cons.mp member with rfl | named
  · decide
  · obtain ⟨id, -, found⟩ := List.mem_filterMap.mp named
    unfold packageOf? at found
    split at found
    · rename_i split
      exact slashless_of_splitId (found ▸ split)
    · cases found

theorem package_mem {package name : String} (member : id ∈ l.ids root)
    (split : splitId id = .ok (some package, name)) : package ∈ l.packagesOf root := by
  have own (named : id ∈ root :: l.bases) : package ∈ l.packagesOf root := by
    refine .tail _ (List.mem_filterMap.mpr ⟨id, named, ?_⟩)
    rw [packageOf?, split]
  rcases List.mem_cons.mp member with rfl | member
  · have header : package = "std_msgs" := by
      cases split
      rfl
    exact header ▸ .head _
  · rcases List.mem_cons.mp member with rfl | member
    · exact own (.head _)
    · rcases List.mem_append.mp member with base | made
      · exact own (.tail _ base)
      · obtain ⟨other, there, made⟩ := List.mem_flatMap.mp made
        obtain ⟨base, -, rfl⟩ := List.mem_map.mp made
        obtain rfl := Option.some.inj (splitId_packaged (slashless_of_mem there) split)
        exact there

theorem named_subset {path text : String} {lines : List FieldLine}
    (read : l.files.readText path = .ok text) (parsed : FieldLine.parse text = .ok lines) :
    lines.filterMap FieldLine.base? ⊆ l.bases := by
  obtain ⟨place, content, stored, spelled⟩ := Files.stored_of_readText read
  intro base member
  refine List.mem_flatMap.mpr ⟨_, stored, ?_⟩
  dsimp only [basesIn]
  rw [spelled, Option.map_some, parsed]
  exact member

theorem wanted_among (member : id ∈ l.ids root) {text : String} {names : List String}
    (read : l.schemaText id = .ok text) (refers : wanted id text = .ok names) :
    names ⊆ l.ids root := by
  obtain ⟨lines, parsed, refers⟩ := Result.bind_ok_iff.mp refers
  obtain ⟨⟨package, name⟩, split, refers⟩ := Result.bind_ok_iff.mp refers
  obtain rfl := Result.pure_ok_iff.mp refers
  obtain ⟨path, opened⟩ := readText_of_schemaText read
  intro id found
  obtain ⟨base, named, rfl⟩ := mem_nestedIds found
  have known := named_subset opened parsed named
  unfold qualifiedId
  split
  · exact l.bases_subset root known
  · split
    · exact .head _
    · cases package with
      | none => exact l.bases_subset root known
      | some package =>
        refine List.mem_append_right _ (List.mem_flatMap.mpr ⟨package, package_mem member split, ?_⟩)
        exact List.mem_map.mpr ⟨base, known, rfl⟩

theorem length_basesIn (entry : FileEntry) :
    (basesIn entry).length ≤ match entry with
      | .file content => content.length
      | .directory => 0 := by
  cases entry with
  | directory => exact Nat.le_refl 0
  | file content =>
    dsimp only [basesIn]
    cases spelled : Bytes.text? content with
    | none => exact Nat.zero_le _
    | some text =>
      rw [Option.map_some]
      cases parsed : FieldLine.parse text with
      | error e => exact Nat.zero_le _
      | ok lines =>
        calc (lines.filterMap FieldLine.base?).length
          _ ≤ lines.length := List.length_filterMap_le _ _
          _ ≤ (Bytes.ofText text).length := FieldLine.length_parse parsed
          _ = content.length := by rw [Bytes.ofText_of_text? spelled]

theorem length_bases (l : Loader) : l.bases.length ≤ l.files.size := by
  rw [bases, List.length_flatMap, Files.size, ← List.sum_eq_foldl]
  exact List.sum_le_sum fun entry _ => length_basesIn entry.2

theorem length_packagesOf (l : Loader) (root : String) :
    (l.packagesOf root).length ≤ l.bases.length + 2 := by
  have := List.length_filterMap_le packageOf? (root :: l.bases)
  rw [List.length_cons] at this
  rw [packagesOf, List.length_cons]
  omega

theorem length_ids (l : Loader) (root : String) : (l.ids root).length < l.depth := by
  have all : ((l.packagesOf root).flatMap fun package =>
      l.bases.map fun base => s!"{package}/{base}").length ≤ (l.bases.length + 2) * l.bases.length := by
    rw [List.length_flatMap]
    simp only [List.length_map, List.map_const', List.sum_replicate_nat]
    exact Nat.mul_le_mul_right _ (l.length_packagesOf root)
  have square : (l.bases.length + 3) * (l.bases.length + 3) ≤ l.depth :=
    Nat.mul_le_mul (Nat.add_le_add_right l.length_bases 3) (Nat.add_le_add_right l.length_bases 3)
  rw [ids, List.length_append, List.length_cons, List.length_cons]
  simp only [Nat.add_mul, Nat.mul_add] at all square
  omega

/-! ### Fuel -/

/-- There is fuel for all ids that a load can still meet inside those that are being loaded. -/
structure Ample (l : Loader) (root : String) (fuel : Nat) (inside : List String) : Prop where
  distinct : inside.Nodup
  among : inside ⊆ l.ids root
  enough : (l.ids root).length < fuel + inside.length

namespace Ample

variable {fuel : Nat} {inside : List String}

theorem start (l : Loader) (root : String) : l.Ample root l.depth [] :=
  ⟨List.nodup_nil, List.nil_subset _, l.length_ids root⟩

theorem pos (ample : l.Ample root fuel inside) : 0 < fuel := by
  have := (List.subperm_of_subset ample.distinct ample.among).length_le
  have := ample.enough
  omega

theorem more (ample : l.Ample root (fuel + 1) inside) (member : id ∈ l.ids root)
    (fresh : id ∉ inside) : l.Ample root fuel (id :: inside) where
  distinct := List.nodup_cons.mpr ⟨fresh, ample.distinct⟩
  among := List.cons_subset.mpr ⟨member, ample.among⟩
  enough := by
    have := ample.enough
    rw [List.length_cons]
    omega

end Ample

end Loader

end TopicWire
