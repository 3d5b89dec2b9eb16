/-!
# Things found by their number

Links and connections are kept in lists and found by the number that they have. `Numbering.find?_mapAt`
says what is found after one of them has changed, and `Numbering.find?_eq_none_iff` what is not there
while the numbers are given out in order.
-/

namespace TopicWire.Numbering

variable {α : Type} {number : α → Nat} {change : α → α} {as : List α} {a : α} {id : Nat}

theorem number_of_find? (found : as.find? (number · == id) = some a) : number a = id := by
  have same := List.find?_some found
  exact beq_iff_eq.mp same

theorem find?_map (keeps : ∀ a, number (change a) = number a) (as : List α) (id : Nat) :
    (as.map change).find? (number · == id) = (as.find? (number · == id)).map change := by
  have same : (number · == id) ∘ change = (number · == id) := funext fun a => by simp [keeps]
  rw [List.find?_map, same]

theorem number_mapAt (keeps : ∀ a, number (change a) = number a) (other : Nat) (a : α) :
    number (if number a = other then change a else a) = number a := by
  split
  · exact keeps a
  · rfl

theorem find?_mapAt (keeps : ∀ a, number (change a) = number a) (as : List α) (other id : Nat) :
    (as.map fun a => if number a = other then change a else a).find? (number · == id) =
      if other = id then (as.find? (number · == id)).map change else as.find? (number · == id) := by
  rw [find?_map (number_mapAt keeps other)]
  cases found : as.find? (number · == id) with
  | none => simp
  | some a =>
    rw [Option.map_some, number_of_find? found]
    by_cases same : id = other
    · rw [if_pos same, if_pos same.symm, Option.map_some]
    · rw [if_neg same, if_neg (Ne.symm same)]

theorem find?_eq_none_iff {n : Nat} (numbered : as.map number = List.range n) :
    as.find? (number · == id) = none ↔ n ≤ id := by
  have there : (∃ a ∈ as, number a = id) ↔ id < n := by
    rw [← List.mem_range, ← numbered, List.mem_map]
  rw [List.find?_eq_none, ← Nat.not_lt, ← there]
  simp

end TopicWire.Numbering
