import TopicWire.Proofs.MessageType.Nesting

/-!
# Messages as they are received

What is left of a message when it has gone over the wire: `MessageType.normalized` takes the id and
the constants from the type, at every depth, and drops what the type has no field for.
`MessageType.get?_normalized` says what is found under each key.
-/

namespace TopicWire

mutual

/-- A message with the id and the constants of its type and the values of the other fields. -/
def MessageType.normalized : MessageType → Message → Message
  | ⟨id, _, _, _, _, fields⟩, m => ⟨id, Keyed.ofList (Field.normalizedAll fields m)⟩

def Field.normalizedAll : List Field → Message → List (String × Value)
  | [], _ => []
  | f :: fs, m =>
    match f.normalizedIn m with
    | some v => (f.accessor, v) :: Field.normalizedAll fs m
    | none => Field.normalizedAll fs m

/-- The literal of a constant; else the value in the message, if it has one. -/
def Field.normalizedIn : Field → Message → Option Value
  | ⟨_, accessor, element, arity, constant⟩, m =>
    match constant with
    | some literal => some literal
    | none =>
      match m.get? accessor, arity with
      | none, _ => none
      | some v, .one => some (element.normalized v)
      | some (.array items), _ => some (.array (items.map element.normalized))
      | some v, _ => some v

def Element.normalized : Element → Value → Value
  | .primitive _, v => v
  | .message type, v =>
    match v with
    | .message m => .message (type.normalized m)
    | v => v

end

namespace Field

variable {f : Field} {m : Message}

theorem normalizedIn_constant {literal : Value} (h : f.constant = some literal) :
    f.normalizedIn m = some literal := by
  obtain ⟨_, _, _, _, constant⟩ := f
  obtain rfl : constant = some literal := h
  rw [normalizedIn]

theorem normalizedIn_one (h : f.constant = none) (one : f.arity = .one) {v : Value}
    (held : m.get? f.accessor = some v) : f.normalizedIn m = some (f.element.normalized v) := by
  obtain ⟨_, accessor, element, arity, constant⟩ := f
  obtain rfl : constant = none := h
  obtain rfl : arity = .one := one
  simp only at held
  simp [normalizedIn, held]

theorem normalizedIn_array (h : f.constant = none) (array : f.arity ≠ .one) {items : List Value}
    (held : m.get? f.accessor = some (.array items)) :
    f.normalizedIn m = some (.array (items.map f.element.normalized)) := by
  obtain ⟨_, accessor, element, arity, constant⟩ := f
  obtain rfl : constant = none := h
  simp only at held
  cases arity with
  | one => exact (array rfl).elim
  | many | exactly => simp [normalizedIn, held]

theorem normalizedAll_keys {fs : List Field} {key : String}
    (member : key ∈ (normalizedAll fs m).map (·.1)) : key ∈ fs.map (·.accessor) := by
  induction fs with
  | nil => simp [normalizedAll] at member
  | cons f fs ih =>
    rw [normalizedAll] at member
    split at member
    · rcases List.mem_cons.mp member with rfl | later
      · exact List.mem_cons_self
      · exact List.mem_cons_of_mem _ (ih later)
    · exact List.mem_cons_of_mem _ (ih member)

theorem normalizedAll_nodup {fs : List Field} (distinct : (fs.map (·.accessor)).Nodup) :
    ((normalizedAll fs m).map (·.1)).Nodup := by
  induction fs with
  | nil => simp [normalizedAll]
  | cons f fs ih =>
    rw [List.map_cons, List.nodup_cons] at distinct
    rw [normalizedAll]
    split
    · exact List.nodup_cons.mpr ⟨fun again => distinct.1 (normalizedAll_keys again), ih distinct.2⟩
    · exact ih distinct.2

theorem lookup_normalizedAll {fs : List Field} (distinct : (fs.map (·.accessor)).Nodup)
    (key : String) :
    (normalizedAll fs m).lookup key =
      (fs.find? (·.accessor == key)).bind (·.normalizedIn m) := by
  induction fs with
  | nil => rfl
  | cons f fs ih =>
    rw [List.map_cons, List.nodup_cons] at distinct
    rw [normalizedAll, List.find?_cons]
    by_cases here : f.accessor = key
    · subst here
      -- A field without a value leaves the key to the later ones, none of which has it.
      have absent : (normalizedAll fs m).lookup f.accessor = none := by
        rw [ih distinct.2, List.find?_eq_none.mpr]
        · rfl
        · intro g member
          have : g.accessor ≠ f.accessor := by
            intro same
            exact distinct.1 (same ▸ List.mem_map_of_mem member)
          simpa using this
      rw [beq_self_eq_true]
      cases found : f.normalizedIn m <;> simp [absent, found]
    · rw [beq_eq_false_iff_ne.mpr here]
      cases f.normalizedIn m <;> simp [Keyed.lookup_cons, Ne.symm here, ih distinct.2]

end Field

namespace MessageType

theorem normalized_eq (type : MessageType) (m : Message) :
    type.normalized m = ⟨type.id, Keyed.ofList (Field.normalizedAll type.fields m)⟩ := by
  cases type
  rw [normalized]

/-- Under the accessor of a constant stands its literal, under that of another field what the
message holds, and under any other key nothing. -/
theorem get?_normalized {type : MessageType} (distinct : type.accessors.Nodup) (m : Message)
    (key : String) :
    (type.normalized m).get? key = (type.field? key).bind (·.normalizedIn m) := by
  rw [normalized_eq]
  show (Keyed.ofList (Field.normalizedAll type.fields m)).lookup key = _
  rw [Keyed.lookup_ofList (Field.normalizedAll_nodup distinct), Field.lookup_normalizedAll distinct]
  rfl

end MessageType

end TopicWire
