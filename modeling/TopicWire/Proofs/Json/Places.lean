import Mathlib.Data.List.Forall2
import TopicWire.Json
import TopicWire.Proofs.Keyed

/-!
# Places in JSON values

`Json.get?` finds what is at a place inside a JSON value. A value is covered by another one if its
keys and its items have places there (`CoveredBy`): an object by an object that covers each of its
members (`coveredBy_object_iff`), an array by an array that covers its items one by one
(`coveredBy_array_iff`).
-/

namespace TopicWire

namespace Json

/-- A step into an object or into an array. -/
inductive Step where
  | key (key : String)
  | index (index : Nat)

/-- What is at a place, if there is such a place. -/
def get? : Json → List Step → Option Json
  | j, [] => some j
  | .object members, .key key :: place => (members.lookup key).bind fun j => j.get? place
  | .array items, .index index :: place => items[index]?.bind fun j => j.get? place
  | _, _ :: _ => none

variable {j k : Json} {members others : List (String × Json)} {items : List Json} {key : String}

theorem get?_member (found : members.lookup key = some j) (place : List Step) :
    (object members).get? (.key key :: place) = j.get? place := by
  rw [get?, found]
  rfl

theorem get?_item {index : Nat} (found : items[index]? = some j) (place : List Step) :
    (array items).get? (.index index :: place) = j.get? place := by
  rw [get?, found]
  rfl

/-- Neither an object nor an array. -/
def isScalar : Json → Bool
  | .array _ | .object _ => false
  | _ => true

theorem isScalar_of_get? {place : List Step} (scalar : j.isScalar = true) (there : j.get? place = some k) :
    k.isScalar = true := by
  cases place with
  | nil =>
    cases there
    exact scalar
  | cons step place =>
    cases j with
    | array | object => cases scalar
    | _ => simp [get?] at there

/-- No object in the value has two members with the same key. -/
def Distinct (j : Json) : Prop :=
  ∀ place members, j.get? place = some (.object members) → (Keyed.keys members).Nodup

theorem distinct_of_isScalar (scalar : j.isScalar = true) : j.Distinct :=
  fun _ _ there => absurd (isScalar_of_get? scalar there) Bool.false_ne_true

theorem distinct_object_iff : (object members).Distinct ↔
    (Keyed.keys members).Nodup ∧ ∀ member ∈ members, member.2.Distinct := by
  constructor
  · intro distinct
    have keys : (Keyed.keys members).Nodup := distinct [] members rfl
    refine ⟨keys, fun ⟨key, j⟩ member place inner there => ?_⟩
    rw [← get?_member (Keyed.lookup_eq_some keys member)] at there
    exact distinct _ inner there
  · rintro ⟨keys, each⟩ place inner there
    cases place with
    | nil =>
      cases there
      exact keys
    | cons step place =>
      cases step with
      | index => cases there
      | key key =>
        rw [get?, Option.bind_eq_some_iff] at there
        obtain ⟨j, found, there⟩ := there
        exact each _ (Keyed.mem_of_lookup found) place inner there

theorem distinct_array_iff : (array items).Distinct ↔ ∀ item ∈ items, item.Distinct := by
  constructor
  · intro distinct item member
    obtain ⟨index, found⟩ := List.mem_iff_getElem?.mp member
    intro place inner there
    rw [← get?_item found] at there
    exact distinct _ inner there
  · intro each place inner there
    cases place with
    | nil => cases there
    | cons step place =>
      cases step with
      | key => cases there
      | index =>
        rw [get?, Option.bind_eq_some_iff] at there
        obtain ⟨j, found, there⟩ := there
        exact each j (List.mem_of_getElem? found) place inner there

/-! ### Values that cover others -/

/-- Where one value has an object, the other has an object with all its keys, and where it has an
array, the other has an array of the same length. -/
def CoveredBy (j whole : Json) : Prop :=
  ∀ place,
    (∀ members, j.get? place = some (.object members) → ∃ others, whole.get? place = some (.object others) ∧
      ∀ key ∈ Keyed.keys members, key ∈ Keyed.keys others) ∧
    ∀ items, j.get? place = some (.array items) → ∃ others, whole.get? place = some (.array others) ∧
      others.length = items.length

theorem coveredBy_of_isScalar (scalar : j.isScalar = true) (whole : Json) : j.CoveredBy whole :=
  fun _ => ⟨fun _ there => absurd (isScalar_of_get? scalar there) Bool.false_ne_true,
    fun _ there => absurd (isScalar_of_get? scalar there) Bool.false_ne_true⟩

theorem CoveredBy.step {step : Step} {whole part : Json} (covered : j.CoveredBy whole)
    (there : ∀ place, j.get? (step :: place) = k.get? place)
    (below : ∀ place, whole.get? (step :: place) = part.get? place) : k.CoveredBy part := by
  intro place
  rw [← there, ← below]
  exact covered (step :: place)

theorem coveredBy_object_iff : (object members).CoveredBy (object others) ↔
    ∀ key j, members.lookup key = some j → ∃ k, others.lookup key = some k ∧ j.CoveredBy k := by
  constructor
  · intro covered key j found
    obtain ⟨_, same, keys⟩ := (covered []).1 members rfl
    cases same
    have there := keys key (Keyed.mem_keys_iff.mpr (Option.isSome_of_eq_some found))
    obtain ⟨k, below⟩ := Option.isSome_iff_exists.mp (Keyed.mem_keys_iff.mp there)
    exact ⟨k, below, covered.step (get?_member found) (get?_member below)⟩
  · intro each place
    cases place with
    | nil =>
      refine ⟨fun _ same => ?_, nofun⟩
      cases same
      refine ⟨others, rfl, fun key there => ?_⟩
      obtain ⟨j, found⟩ := Option.isSome_iff_exists.mp (Keyed.mem_keys_iff.mp there)
      obtain ⟨k, below, -⟩ := each key j found
      exact Keyed.mem_keys_iff.mpr (Option.isSome_of_eq_some below)
    | cons step place =>
      cases step with
      | index => exact ⟨nofun, nofun⟩
      | key key =>
        cases found : members.lookup key with
        | none =>
          rw [get?, found]
          exact ⟨nofun, nofun⟩
        | some j =>
          obtain ⟨k, below, covered⟩ := each key j found
          rw [get?_member found, get?_member below]
          exact covered place

theorem coveredBy_array_iff {others : List Json} :
    (array items).CoveredBy (array others) ↔ List.Forall₂ CoveredBy items others := by
  rw [List.forall₂_iff_get]
  constructor
  · intro covered
    obtain ⟨_, same, length⟩ := (covered []).2 items rfl
    cases same
    refine ⟨length.symm, fun index here there => ?_⟩
    exact covered.step (get?_item (List.getElem?_eq_getElem here))
      (get?_item (List.getElem?_eq_getElem there))
  · rintro ⟨length, each⟩ place
    cases place with
    | nil =>
      refine ⟨nofun, fun _ same => ?_⟩
      cases same
      exact ⟨others, rfl, length.symm⟩
    | cons step place =>
      cases step with
      | key => exact ⟨nofun, nofun⟩
      | index index =>
        by_cases here : index < items.length
        · have there : index < others.length := length ▸ here
          rw [get?_item (List.getElem?_eq_getElem here), get?_item (List.getElem?_eq_getElem there)]
          exact each index here there place
        · rw [get?, List.getElem?_eq_none (Nat.le_of_not_lt here)]
          exact ⟨nofun, nofun⟩

end Json

end TopicWire
