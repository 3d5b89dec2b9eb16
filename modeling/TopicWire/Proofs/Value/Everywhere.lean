import TopicWire.Proofs.Keyed
import TopicWire.Value

/-!
# Values inside values

`Value.everywhere` and `Message.everywhere` apply a test to a value and to all that it holds, at any
depth. `Value.everywhere_item` and `Message.everywhere_of_get?` lead from there to what a value holds.
-/

namespace TopicWire

mutual

/-- The test holds of a value and of all values inside it. -/
def Value.everywhere (test : Value → Bool) : Value → Bool
  | .array items => test (.array items) && Value.allEverywhere test items
  | .message m => m.everywhere test
  | v => test v

/-- The test holds of a message as a value and of all values inside it. -/
def Message.everywhere (test : Value → Bool) : Message → Bool
  | ⟨typeId, fields⟩ => test (.message ⟨typeId, fields⟩) && Value.fieldsEverywhere test fields

def Value.allEverywhere (test : Value → Bool) : List Value → Bool
  | [] => true
  | v :: vs => v.everywhere test && Value.allEverywhere test vs

def Value.fieldsEverywhere (test : Value → Bool) : List (String × Value) → Bool
  | [] => true
  | (_, v) :: rest => v.everywhere test && Value.fieldsEverywhere test rest

end

namespace Value

variable {test : Value → Bool} {v : Value} {items : List Value}

theorem allEverywhere_iff :
    allEverywhere test items = true ↔ ∀ v ∈ items, v.everywhere test = true := by
  induction items with
  | nil => simp [allEverywhere]
  | cons v vs ih => simp [allEverywhere, ih]

theorem fieldsEverywhere_iff {fields : List (String × Value)} :
    fieldsEverywhere test fields = true ↔ ∀ entry ∈ fields, entry.2.everywhere test = true := by
  induction fields with
  | nil => simp [fieldsEverywhere]
  | cons entry rest ih =>
    obtain ⟨key, v⟩ := entry
    simp [fieldsEverywhere, ih]

theorem everywhere_here (all : v.everywhere test = true) : test v = true := by
  cases v with
  | array items =>
    rw [everywhere, Bool.and_eq_true] at all
    exact all.1
  | message m =>
    obtain ⟨typeId, fields⟩ := m
    rw [everywhere, Message.everywhere, Bool.and_eq_true] at all
    exact all.1
  | _ => exact all

theorem everywhere_item (all : (Value.array items).everywhere test = true) :
    ∀ v ∈ items, v.everywhere test = true := by
  rw [everywhere, Bool.and_eq_true, allEverywhere_iff] at all
  exact all.2

end Value

namespace Message

variable {test : Value → Bool} {m : Message} {key : String} {v : Value}

theorem everywhere_here (all : m.everywhere test = true) : test (.message m) = true :=
  Value.everywhere_here (v := .message m) (by rwa [Value.everywhere])

theorem everywhere_entry (all : m.everywhere test = true) :
    ∀ entry ∈ m.fields, entry.2.everywhere test = true := by
  obtain ⟨typeId, fields⟩ := m
  rw [everywhere, Bool.and_eq_true, Value.fieldsEverywhere_iff] at all
  exact all.2

theorem everywhere_of_get? (all : m.everywhere test = true) (held : m.get? key = some v) :
    v.everywhere test = true :=
  everywhere_entry all _ (Keyed.mem_of_lookup held)

end Message

end TopicWire
