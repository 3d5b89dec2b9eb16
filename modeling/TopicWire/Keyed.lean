/-!
# Entries in key order

A list of keys with values, ascending by key and without repetition, as long as it is built by
`insert` and `erase`. Looking a key up after one of them is `lookup_insert` and `lookup_erase`, and
`lookup_ofList` says what is found when every key was stored once.
-/

namespace TopicWire.Keyed

/-- Stores a value under a key, in place of one that the key had. -/
def insert (key : String) (value : α) : List (String × α) → List (String × α)
  | [] => [(key, value)]
  | (k, v) :: rest =>
    if key < k then (key, value) :: (k, v) :: rest
    else if key = k then (key, value) :: rest
    else (k, v) :: insert key value rest

def erase (key : String) (entries : List (String × α)) : List (String × α) :=
  entries.filter fun (k, _) => k != key

/-- Stores one entry after the other, so the last of two with the same key stays. -/
def ofList (entries : List (String × α)) : List (String × α) :=
  entries.foldl (fun stored (k, v) => insert k v stored) []

def keys (entries : List (String × α)) : List String :=
  entries.map (·.1)

theorem lookup_cons (key other : String) (value : α) (rest : List (String × α)) :
    ((key, value) :: rest).lookup other = if other = key then some value else rest.lookup other := by
  rw [List.lookup_cons]
  by_cases h : other = key
  · rw [h, beq_self_eq_true, if_pos rfl]
  · rw [beq_eq_false_iff_ne.mpr h, if_neg h]

theorem lookup_insert (key other : String) (value : α) (entries : List (String × α)) :
    (insert key value entries).lookup other =
      if other = key then some value else entries.lookup other := by
  induction entries with
  | nil => simp [insert, lookup_cons]
  | cons entry rest ih =>
    obtain ⟨k, v⟩ := entry
    simp only [insert]
    split
    · simp [lookup_cons]
    · split
      · rename_i same
        subst same
        by_cases h : other = key <;> simp [lookup_cons, h]
      · rename_i different
        by_cases h : other = k
        · subst h
          simp [Ne.symm different]
        · simp [lookup_cons, ih, h]

theorem lookup_erase (key other : String) (entries : List (String × α)) :
    (erase key entries).lookup other = if other = key then none else entries.lookup other := by
  induction entries with
  | nil => simp [erase]
  | cons entry rest ih =>
    obtain ⟨k, v⟩ := entry
    simp only [erase] at ih
    by_cases hk : k = key
    · subst hk
      simp only [erase, List.filter_cons, bne_self_eq_false, Bool.false_eq_true, if_false, ih,
        lookup_cons]
      by_cases h : other = k <;> simp [h]
    · have keep : (k != key) = true := by simpa using hk
      simp only [erase, List.filter_cons, keep, if_true, lookup_cons, ih]
      by_cases h : other = k
      · subst h
        simp [hk]
      · simp [h]

theorem lookup_stored {entries stored : List (String × α)} {key : String}
    (absent : key ∉ entries.map (·.1)) :
    (entries.foldl (fun stored (k, v) => insert k v stored) stored).lookup key = stored.lookup key := by
  induction entries generalizing stored with
  | nil => rfl
  | cons entry rest ih =>
    obtain ⟨k, v⟩ := entry
    simp only [List.map_cons, List.mem_cons, not_or] at absent
    rw [List.foldl_cons, ih absent.2, lookup_insert, if_neg absent.1]

theorem lookup_ofList {entries : List (String × α)} (distinct : (entries.map (·.1)).Nodup)
    (key : String) : (ofList entries).lookup key = entries.lookup key := by
  have folded : ∀ stored : List (String × α),
      (entries.foldl (fun stored (k, v) => insert k v stored) stored).lookup key =
        (entries.lookup key).or (stored.lookup key) := by
    induction entries with
    | nil => intro stored; rfl
    | cons entry rest ih =>
      intro stored
      obtain ⟨k, v⟩ := entry
      simp only [List.map_cons, List.nodup_cons] at distinct
      rw [List.foldl_cons, lookup_cons]
      by_cases same : key = k
      · subst same
        rw [lookup_stored distinct.1, lookup_insert, if_pos rfl, if_pos rfl]
        rfl
      · rw [ih distinct.2, lookup_insert, if_neg same, if_neg same]
  rw [ofList, folded]
  cases entries.lookup key <;> rfl

theorem lookup_eq_some {entries : List (String × α)} (distinct : (entries.map (·.1)).Nodup)
    {key : String} {value : α} (member : (key, value) ∈ entries) :
    entries.lookup key = some value := by
  induction entries with
  | nil => simp at member
  | cons entry rest ih =>
    obtain ⟨k, v⟩ := entry
    simp only [List.map_cons, List.nodup_cons] at distinct
    rw [lookup_cons]
    rcases List.mem_cons.mp member with here | later
    · obtain ⟨rfl, rfl⟩ := Prod.mk.inj here
      rw [if_pos rfl]
    · have different : key ≠ k := by
        rintro rfl
        exact distinct.1 (List.mem_map.mpr ⟨_, later, rfl⟩)
      rw [if_neg different, ih distinct.2 later]

end TopicWire.Keyed
