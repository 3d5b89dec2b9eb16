import Mathlib.Data.List.Forall2
import Mathlib.Data.List.Perm.Basic
import Mathlib.Data.String.Basic
import TopicWire.Keyed

/-!
# The keys of entries

Storing an entry adds its key or leaves the keys as they are, and they stay in ascending order. So
`keys_ofList` says which keys a list of entries has. Entries in order of their keys are the same if
the same is found under every key (`ext`). What is found after the values were changed or entries left
out is `lookup_map` and `lookup_filter`, and entries whose values are related are found together
(`lookup_forall₂`).
-/

namespace TopicWire.Keyed

variable {α : Type} {entries : List (String × α)} {key : String} {value : α}

theorem mem_keys_iff : key ∈ keys entries ↔ (entries.lookup key).isSome := by
  rw [List.lookup_isSome_iff]
  constructor
  · intro member
    obtain ⟨entry, there, rfl⟩ := List.mem_map.mp member
    exact ⟨entry, there, beq_self_eq_true _⟩
  · rintro ⟨entry, there, same⟩
    exact List.mem_map.mpr ⟨entry, there, (beq_iff_eq.mp same).symm⟩

theorem mem_of_lookup (found : entries.lookup key = some value) : (key, value) ∈ entries := by
  obtain ⟨before, after, rfl, -⟩ := List.lookup_eq_some_iff.mp found
  exact List.mem_append_right _ (.head _)

theorem lookup_eq_none (absent : key ∉ keys entries) : entries.lookup key = none :=
  Option.not_isSome_iff_eq_none.mp (mt mem_keys_iff.mpr absent)

theorem mem_keys_insert {other : String} :
    other ∈ keys (insert key value entries) ↔ other = key ∨ other ∈ keys entries := by
  rw [mem_keys_iff, mem_keys_iff, lookup_insert]
  by_cases same : other = key <;> simp [same]

theorem ascending_insert (ascending : (keys entries).Pairwise (· < ·)) :
    (keys (insert key value entries)).Pairwise (· < ·) := by
  induction entries with
  | nil => exact List.pairwise_singleton _ _
  | cons entry rest ih =>
    obtain ⟨k, v⟩ := entry
    obtain ⟨above, others⟩ := List.pairwise_cons.mp ascending
    unfold insert
    split
    · rename_i below
      refine List.pairwise_cons.mpr ⟨fun other member => ?_, ascending⟩
      rcases List.mem_cons.mp member with rfl | later
      · exact below
      · exact below.trans (above other later)
    · split
      · rename_i same
        subst same
        exact ascending
      · rename_i notBelow different
        refine List.pairwise_cons.mpr ⟨fun other member => ?_, ih others⟩
        rcases mem_keys_insert.mp member with rfl | later
        · exact lt_of_le_of_ne (not_lt.mp notBelow) (Ne.symm different)
        · exact above other later

/-- A key that is there already keeps its place. -/
theorem keys_insert_of_mem (ascending : (keys entries).Pairwise (· < ·)) (member : key ∈ keys entries) :
    keys (insert key value entries) = keys entries := by
  induction entries with
  | nil => cases member
  | cons entry rest ih =>
    obtain ⟨k, v⟩ := entry
    obtain ⟨above, others⟩ := List.pairwise_cons.mp ascending
    rcases List.mem_cons.mp member with rfl | later
    · simp [insert, keys]
    · have below : k < key := above key later
      rw [insert, if_neg (lt_asymm below), if_neg (ne_of_gt below)]
      exact congrArg (k :: ·) (ih others later)

theorem keys_insert_of_not_mem (absent : key ∉ keys entries) :
    (keys (insert key value entries)).Perm (key :: keys entries) := by
  induction entries with
  | nil => exact .refl _
  | cons entry rest ih =>
    obtain ⟨k, v⟩ := entry
    have other : key ≠ k := fun same => absent (same ▸ .head _)
    have later : key ∉ keys rest := fun there => absent (.tail _ there)
    rw [insert, if_neg other]
    split
    · exact .refl _
    · exact ((ih later).cons k).trans (.swap key k _)

/-- Entries with distinct keys are stored under just these keys, in ascending order. -/
theorem keys_ofList (distinct : (entries.map (·.1)).Nodup) :
    (keys (ofList entries)).Perm (entries.map (·.1)) ∧ (keys (ofList entries)).Pairwise (· < ·) := by
  have folded : ∀ stored : List (String × α), (keys stored).Pairwise (· < ·) →
      (∀ key ∈ entries.map (·.1), key ∉ keys stored) →
      (keys (entries.foldl (fun stored (k, v) => insert k v stored) stored)).Perm
          (entries.map (·.1) ++ keys stored) ∧
        (keys (entries.foldl (fun stored (k, v) => insert k v stored) stored)).Pairwise (· < ·) := by
    induction entries with
    | nil =>
      intro stored ascending _
      exact ⟨.refl _, ascending⟩
    | cons entry rest ih =>
      intro stored ascending absent
      obtain ⟨k, v⟩ := entry
      obtain ⟨once, others⟩ := List.nodup_cons.mp distinct
      have fresh : k ∉ keys stored := absent k (.head _)
      have stillAbsent : ∀ key ∈ rest.map (·.1), key ∉ keys (insert k v stored) := by
        intro key member there
        rcases mem_keys_insert.mp there with rfl | before
        · exact once member
        · exact absent key (.tail _ member) before
      obtain ⟨same, sorted⟩ := ih others _ (ascending_insert ascending) stillAbsent
      refine ⟨same.trans ?_, sorted⟩
      exact ((keys_insert_of_not_mem fresh).append_left _).trans List.perm_middle
  have all := folded [] .nil fun _ _ => List.not_mem_nil
  have none : keys ([] : List (String × α)) = [] := rfl
  rwa [none, List.append_nil] at all

/-- A key below all others is not among the later entries. -/
theorem lookup_tail_eq_none {rest : List (String × α)}
    (ascending : (keys ((key, value) :: rest)).Pairwise (· < ·)) {other : String}
    (below : other ≤ key) : rest.lookup other = none := by
  refine lookup_eq_none fun later => ?_
  exact lt_irrefl other (below.trans_lt ((List.pairwise_cons.mp ascending).1 other later))

theorem ext {others : List (String × α)} (ascending : (keys entries).Pairwise (· < ·))
    (ascending' : (keys others).Pairwise (· < ·))
    (same : ∀ key, entries.lookup key = others.lookup key) : entries = others := by
  induction entries generalizing others with
  | nil =>
    cases others with
    | nil => rfl
    | cons entry rest =>
      obtain ⟨k, v⟩ := entry
      have found := same k
      rw [lookup_cons, if_pos rfl] at found
      cases found
  | cons entry rest ih =>
    obtain ⟨k, v⟩ := entry
    cases others with
    | nil =>
      have found := same k
      rw [lookup_cons, if_pos rfl] at found
      cases found
    | cons entry' rest' =>
      obtain ⟨k', v'⟩ := entry'
      have first := same k
      have first' := same k'
      simp only [lookup_cons, if_pos] at first first'
      -- The lesser of the two first keys would be missing on the other side.
      have key : k = k' := by
        rcases lt_trichotomy k k' with below | same | below
        · rw [if_neg (ne_of_lt below), lookup_tail_eq_none ascending' below.le] at first
          cases first
        · exact same
        · rw [if_neg (ne_of_lt below), lookup_tail_eq_none ascending below.le] at first'
          cases first'
      subst key
      obtain rfl : v = v' := by simpa using first
      congr 1
      refine ih (List.pairwise_cons.mp ascending).2 (List.pairwise_cons.mp ascending').2 fun key => ?_
      by_cases here : key = k
      · rw [here, lookup_tail_eq_none ascending le_rfl, lookup_tail_eq_none ascending' le_rfl]
      · have later := same key
        rwa [lookup_cons, lookup_cons, if_neg here, if_neg here] at later

theorem lookup_map {β : Type} (f : String → α → β) (entries : List (String × α)) (key : String) :
    (entries.map fun (k, v) => (k, f k v)).lookup key = (entries.lookup key).map (f key) := by
  induction entries with
  | nil => rfl
  | cons entry rest ih =>
    obtain ⟨k, v⟩ := entry
    rw [List.map_cons, lookup_cons, lookup_cons, ih]
    by_cases same : key = k
    · rw [if_pos same, if_pos same, same]
      rfl
    · rw [if_neg same, if_neg same]

theorem lookup_filter (p : String → Bool) (entries : List (String × α)) (key : String) :
    (entries.filter fun entry => p entry.1).lookup key = if p key then entries.lookup key else none := by
  induction entries with
  | nil => simp
  | cons entry rest ih =>
    obtain ⟨k, v⟩ := entry
    rw [List.filter_cons, lookup_cons]
    by_cases same : key = k
    · subst same
      cases kept : p key <;> simp [kept, ih]
    · cases p k <;> simp [ih, lookup_cons, same]

theorem lookup_forall₂ {β : Type} {R : String → α → β → Prop} {xs : List (String × α)}
    {ys : List (String × β)} (all : List.Forall₂ (fun x y => y.1 = x.1 ∧ R x.1 x.2 y.2) xs ys)
    (key : String) : Option.Rel (R key) (xs.lookup key) (ys.lookup key) := by
  induction all with
  | nil => exact .none
  | @cons x y xs ys related _ ih =>
    obtain ⟨k, a⟩ := x
    obtain ⟨_, b⟩ := y
    obtain ⟨rfl, related⟩ := related
    rw [lookup_cons, lookup_cons]
    split
    · rename_i same
      exact .some (same ▸ related)
    · exact ih

end TopicWire.Keyed
