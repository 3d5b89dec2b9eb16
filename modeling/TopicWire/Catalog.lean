import TopicWire.Keyed
import TopicWire.MessageType

/-!
# Catalogs of message types

The message types that are known, each under its id. A catalog only grows, and a type that is there
is never replaced: `get?_insert` says what is found after an insertion.
-/

namespace TopicWire

/-- The known message types in ascending order of their ids. -/
structure Catalog where
  types : List (String × MessageType) := []

namespace Catalog

def get? (c : Catalog) (id : String) : Option MessageType :=
  c.types.lookup id

def contains (c : Catalog) (id : String) : Bool :=
  (c.get? id).isSome

def ids (c : Catalog) : List String :=
  Keyed.keys c.types

def size (c : Catalog) : Nat :=
  c.types.length

/-- Puts a type under an id, unless there is one already. -/
def insert (c : Catalog) (id : String) (type : MessageType) : Catalog :=
  if c.contains id then c else ⟨Keyed.insert id type c.types⟩

theorem get?_insert (c : Catalog) (id other : String) (type : MessageType) :
    (c.insert id type).get? other =
      if other = id then some ((c.get? id).getD type) else c.get? other := by
  unfold insert contains get?
  split
  · rename_i known
    obtain ⟨old, h⟩ := Option.isSome_iff_exists.mp known
    split
    · rename_i same
      simp [same, h]
    · rfl
  · rename_i unknown
    rw [Keyed.lookup_insert]
    split
    · rw [Option.not_isSome_iff_eq_none] at unknown
      simp [unknown]
    · rfl

variable {c : Catalog} {id : String} {type : MessageType}

theorem get?_insert_fresh (fresh : c.get? id = none) (other : String) :
    (c.insert id type).get? other = if other = id then some type else c.get? other := by
  rw [get?_insert, fresh, Option.getD_none]

theorem get?_insert_keeps (fresh : c.get? id = none) {other : String} {old : MessageType}
    (there : c.get? other = some old) : (c.insert id type).get? other = some old := by
  have different : other ≠ id := by
    rintro rfl
    cases fresh.symm.trans there
  rw [get?_insert_fresh fresh, if_neg different, there]

end Catalog

end TopicWire
