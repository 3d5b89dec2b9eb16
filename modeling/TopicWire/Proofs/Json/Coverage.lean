import TopicWire.Proofs.Json.Places
import TopicWire.Proofs.Json.RoundTrip

/-!
# What a message takes from a JSON value

A key that names no field is refused in the place of every message (`Stray.refused`). In the place of
a time or a duration it is not: of such an object no other members are read than `secs` and `nsecs`.
`MessageType.heard` is the JSON value without these other members. They make no difference to what is
read, and the JSON form of the message covers all the rest (`MessageType.heard_covered`).
-/

namespace TopicWire

/-! ### Heard and unheard members -/

/-- The members from which times and durations are made. -/
def stampKeys : List String :=
  ["secs", "nsecs"]

def stampMembers (members : List (String × Json)) : List (String × Json) :=
  members.filter fun member => stampKeys.contains member.1

def Primitive.heard (p : Primitive) (j : Json) : Json :=
  match p, j with
  | .time, .object members => .object (stampMembers members)
  | .duration, .object members => .object (stampMembers members)
  | _, j => j

mutual

/-- The JSON value with nothing but `secs` and `nsecs` in the places of times and durations. -/
def MessageType.heard : MessageType → Json → Json
  | ⟨_, _, _, _, _, fields⟩, j =>
    match j with
    | .object members => .object (members.map fun (key, j) => (key, Field.heardMember fields key j))
    | j => j

/-- The member of a message under a key. One that is no field's stays as it is. -/
def Field.heardMember : List Field → String → Json → Json
  | [], _, j => j
  | f :: fs, key, j => if f.accessor == key then f.heard j else Field.heardMember fs key j

def Field.heard : Field → Json → Json
  | ⟨_, _, element, arity, _⟩, j =>
    match arity with
    | .one => element.heard j
    | _ =>
      match j with
      | .array items => .array (items.map element.heard)
      | j => j

def Element.heard : Element → Json → Json
  | .primitive p, j => p.heard j
  | .message type, j => type.heard j

end

/-- In the place of a message, of the element type itself or inside it, there is a key that is no
field's. -/
inductive Element.Stray : Element → Json → Prop
  | here {type : MessageType} {members : List (String × Json)} {key : String}
      (there : key ∈ Keyed.keys members) (unknown : key ∉ type.accessors) :
      Stray (.message type) (.object members)
  | one {type : MessageType} {members : List (String × Json)} {f : Field} {j : Json}
      (member : f ∈ type.fields) (one : f.arity = .one) (there : (f.accessor, j) ∈ members)
      (inside : Stray f.element j) : Stray (.message type) (.object members)
  | item {type : MessageType} {members : List (String × Json)} {f : Field} {items : List Json} {j : Json}
      (member : f ∈ type.fields) (array : f.arity ≠ .one) (there : (f.accessor, .array items) ∈ members)
      (item : j ∈ items) (inside : Stray f.element j) : Stray (.message type) (.object members)

namespace Field

variable {f : Field}

theorem heardMember_eq (fs : List Field) (key : String) (j : Json) : heardMember fs key j =
    ((fs.find? (·.accessor == key)).map fun f => f.heard j).getD j := by
  induction fs with
  | nil => rw [heardMember]; rfl
  | cons f fs ih =>
    rw [heardMember, List.find?_cons, ih]
    cases f.accessor == key <;> rfl

theorem heard_one (one : f.arity = .one) (j : Json) : f.heard j = f.element.heard j := by
  obtain ⟨_, _, _, _, _⟩ := f
  obtain rfl := one
  rw [heard]

theorem heard_array (array : f.arity ≠ .one) (items : List Json) :
    f.heard (.array items) = .array (items.map f.element.heard) := by
  obtain ⟨_, _, _, arity, _⟩ := f
  cases arity with
  | one => exact (array rfl).elim
  | many | exactly => rw [heard]; exact nofun

end Field

theorem MessageType.heard_object (type : MessageType) (members : List (String × Json)) :
    type.heard (.object members) =
      .object (members.map fun (key, j) => (key, Field.heardMember type.fields key j)) := by
  cases type
  rw [heard]

/-! ### The same is read -/

theorem stampPart_stampMembers (name : String) (known : stampKeys.contains name = true)
    (members : List (String × Json)) (path : String) :
    stampPart (stampMembers members) path name = stampPart members path name := by
  rw [stampPart, stampMembers, Keyed.lookup_filter stampKeys.contains, if_pos known, stampPart]

theorem Primitive.ofJson_heard (p : Primitive) (j : Json) (path : String) :
    p.ofJson (p.heard j) path = p.ofJson j path := by
  unfold heard
  split
  · rename_i members
    show timeOfJson _ path = timeOfJson members path
    simp only [timeOfJson, stampPart_stampMembers "secs" rfl,
      stampPart_stampMembers "nsecs" rfl]
  · rename_i members
    show durationOfJson _ path = durationOfJson members path
    simp only [durationOfJson, stampPart_stampMembers "secs" rfl,
      stampPart_stampMembers "nsecs" rfl]
  · rfl

theorem itemsOfJson_map {item : Json → String → Except Violation Value} {part : Json → Json}
    (same : ∀ j path, item (part j) path = item j path) (path : String) (index : Nat) (js : List Json) :
    itemsOfJson item path index (js.map part) = itemsOfJson item path index js := by
  induction js generalizing index with
  | nil => rfl
  | cons j js ih => rw [List.map_cons, itemsOfJson, itemsOfJson, same, ih]

theorem Field.ofJson_heard {f : Field}
    (same : ∀ j path, f.element.ofJson (f.element.heard j) path = f.element.ofJson j path) (j : Json)
    (path : String) : f.ofJson (f.heard j) path = f.ofJson j path := by
  obtain ⟨_, _, element, arity, _⟩ := f
  cases arity with
  | one => rw [heard, ofJson, ofJson, same]
  | many | exactly =>
    cases j with
    | array items =>
      rw [heard_array (by intro one; cases one)]
      simp only [ofJson, itemsOfJson_map same, List.length_map]
    | _ => simp only [heard]

theorem storeMembers_map {member : String → Json → Option (Except Violation Value)}
    {part : String → Json → Json} (same : ∀ key j, member key (part key j) = member key j)
    (typeId path : String) (m : Message) (members : List (String × Json)) :
    storeMembers member typeId path m (members.map fun (key, j) => (key, part key j)) =
      storeMembers member typeId path m members := by
  induction members generalizing m with
  | nil => rfl
  | cons entry rest ih =>
    obtain ⟨key, j⟩ := entry
    rw [List.map_cons, storeMembers, storeMembers, same]
    simp only [ih]

theorem MessageType.ofJsonAt_heard {type : MessageType}
    (same : ∀ f ∈ type.fields, ∀ j path, f.ofJson (f.heard j) path = f.ofJson j path) (j : Json)
    (path : String) : type.ofJsonAt (type.heard j) path = type.ofJsonAt j path := by
  cases j with
  | object members =>
    rw [heard_object, ofJsonAt_object, ofJsonAt_object, storeMembers_map]
    intro key j
    rw [Field.ofMember_eq, Field.ofMember_eq, Field.heardMember_eq]
    cases found : type.fields.find? (·.accessor == key) with
    | none => rfl
    | some f => exact congrArg some (same f (List.mem_of_find?_eq_some found) j _)
  | _ =>
    obtain ⟨_, _, _, _, _, _⟩ := type
    rw [heard]
    nofun

theorem Element.ofJson_heard (e : Element) (j : Json) (path : String) :
    e.ofJson (e.heard j) path = e.ofJson j path := by
  induction e using Element.induction generalizing j path with
  | primitive p =>
    rw [heard, ofJson, ofJson]
    exact p.ofJson_heard j path
  | message type ih =>
    rw [heard, ofJson, ofJson]
    rw [MessageType.ofJsonAt_heard fun f member => Field.ofJson_heard (ih f member)]

/-! ### What storing members says -/

/-- All members of an object are read. -/
theorem storeMembers_each {member : String → Json → Option (Except Violation Value)}
    {typeId path : String} {m last : Message} {members : List (String × Json)}
    (h : storeMembers member typeId path m members = .ok last) :
    ∀ entry ∈ members, ∃ v, member entry.1 entry.2 = some (.ok v) := by
  induction members generalizing m with
  | nil => nofun
  | cons entry rest ih =>
    obtain ⟨key, j⟩ := entry
    rw [storeMembers] at h
    split at h
    · cases h
    · cases h
    · rename_i v made
      exact List.forall_mem_cons.mpr ⟨⟨v, made⟩, ih h⟩

theorem get?_of_storeMembers {member : String → Json → Option (Except Violation Value)}
    {typeId path : String} {m last : Message} {members : List (String × Json)}
    (distinct : (Keyed.keys members).Nodup)
    (h : storeMembers member typeId path m members = .ok last) :
    (∀ key ∉ Keyed.keys members, last.get? key = m.get? key) ∧
      ∀ key j, members.lookup key = some j → ∃ v, member key j = some (.ok v) ∧ last.get? key = some v := by
  induction members generalizing m with
  | nil =>
    cases h
    exact ⟨fun _ _ => rfl, nofun⟩
  | cons entry rest ih =>
    obtain ⟨key, j⟩ := entry
    obtain ⟨once, others⟩ := List.nodup_cons.mp distinct
    rw [storeMembers] at h
    split at h
    · cases h
    · cases h
    · rename_i v made
      obtain ⟨kept, each⟩ := ih others h
      constructor
      · intro other absent
        rw [Keyed.keys, List.map_cons, List.mem_cons, not_or] at absent
        rw [kept other absent.2, Message.get?_set, if_neg absent.1]
      · intro other j' found
        rw [Keyed.lookup_cons] at found
        split at found
        · rename_i same
          cases found
          subst same
          exact ⟨v, made, by rw [kept _ once, Message.get?_set, if_pos rfl]⟩
        · exact each other j' found

/-! ### Keys that name nothing -/

theorem MessageType.exists_of_member {type : MessageType} (distinct : type.accessors.Nodup)
    {members : List (String × Json)} {path : String} {v : Value} {f : Field} {j : Json}
    (read : (Element.message type).ofJson (.object members) path = .ok v) (member : f ∈ type.fields)
    (there : (f.accessor, j) ∈ members) : ∃ path w, f.ofJson j path = .ok w := by
  rw [Element.ofJson] at read
  obtain ⟨m, stored, -⟩ := Result.map_ok_iff.mp read
  rw [ofJsonAt_object] at stored
  obtain ⟨w, made⟩ := storeMembers_each stored _ there
  rw [ofMember_of_mem distinct member] at made
  exact ⟨_, w, Option.some.inj made⟩

/-- A key that names no field is refused, however deep it is. -/
theorem Element.Stray.refused {e : Element} {j : Json} (stray : e.Stray j)
    (wellFormed : e.Everywhere MessageType.WellFormed) (path : String) (v : Value) :
    e.ofJson j path ≠ .ok v := by
  intro read
  induction stray generalizing path v with
  | here stored unknown =>
    rw [ofJson] at read
    obtain ⟨m, read, -⟩ := Result.map_ok_iff.mp read
    rw [MessageType.ofJsonAt_object] at read
    obtain ⟨entry, there, rfl⟩ := List.mem_map.mp stored
    obtain ⟨w, made⟩ := storeMembers_each read entry there
    obtain ⟨f, member, same, -⟩ := Field.ofMember_eq_some made
    exact unknown (List.mem_map.mpr ⟨f, member, same⟩)
  | one member one there inside ih =>
    have all := wellFormed _ rfl
    obtain ⟨path, w, made⟩ := MessageType.exists_of_member all.here.distinct read member there
    exact ih (all.field member) path w (Field.ofJson_one one made)
  | item member array there item inside ih =>
    have all := wellFormed _ rfl
    obtain ⟨path, w, made⟩ := MessageType.exists_of_member all.here.distinct read member there
    obtain ⟨js, values, same, -, converted, -⟩ := Field.ofJson_array array made
    cases same
    obtain ⟨w, path, made⟩ := Result.exists_of_forall₂ (itemsOfJson_forall₂ converted) _ item
    exact ih (all.field member) path w made

/-! ### All the rest is covered -/

namespace Json

/-- A part of a JSON value is covered, and it is all of the value if the value is covered itself. -/
structure HeardIn (j part whole : Json) : Prop where
  covered : part.CoveredBy whole
  all : j.CoveredBy whole → part = j

namespace HeardIn

theorem of_isScalar {j : Json} (scalar : j.isScalar = true) (whole : Json) : j.HeardIn j whole :=
  ⟨coveredBy_of_isScalar scalar whole, fun _ => rfl⟩

theorem object {members others : List (String × Json)} {part : String → Json → Json}
    (distinct : (Keyed.keys members).Nodup)
    (each : ∀ key j, members.lookup key = some j →
      ∃ k, others.lookup key = some k ∧ j.HeardIn (part key j) k) :
    (Json.object members).HeardIn (.object (members.map fun (key, j) => (key, part key j)))
      (.object others) := by
  constructor
  · rw [coveredBy_object_iff]
    intro key k found
    rw [Keyed.lookup_map, Option.map_eq_some_iff] at found
    obtain ⟨j, found, rfl⟩ := found
    obtain ⟨k, below, heard⟩ := each key j found
    exact ⟨k, below, heard.covered⟩
  · intro covered
    have same : ∀ entry ∈ members, (entry.1, part entry.1 entry.2) = entry := by
      rintro ⟨key, j⟩ there
      have found := Keyed.lookup_eq_some distinct there
      obtain ⟨k, below, heard⟩ := each key j found
      obtain ⟨k', below', covered⟩ := coveredBy_object_iff.mp covered key j found
      obtain rfl : k = k' := Option.some.inj (below.symm.trans below')
      exact congrArg (Prod.mk key) (heard.all covered)
    exact congrArg Json.object ((List.map_congr_left same).trans (List.map_id members))

theorem array {items others : List Json} {part : Json → Json}
    (each : List.Forall₂ (fun j k => j.HeardIn (part j) k) items others) :
    (Json.array items).HeardIn (.array (items.map part)) (.array others) := by
  constructor
  · rw [coveredBy_array_iff, List.forall₂_map_left_iff]
    exact each.imp fun _ _ heard => heard.covered
  · intro covered
    rw [coveredBy_array_iff] at covered
    refine congrArg Json.array ?_
    induction each with
    | nil => rfl
    | cons heard _ ih =>
      obtain ⟨first, others⟩ := List.forall₂_cons.mp covered
      rw [List.map_cons, heard.all first, ih others]

end HeardIn

end Json

theorem isScalar_of_stampPart {members : List (String × Json)} {path name : String} {n : Int} {j : Json}
    (read : stampPart members path name = .ok n) (found : members.lookup name = some j) :
    j.isScalar = true := by
  rw [stampPart, found] at read
  cases j with
  | integer => rfl
  | _ => cases read

/-- A time or a duration has both keys. -/
theorem heardIn_stamp {members : List (String × Json)} {path : String} {m n : Int}
    (secs : stampPart members path "secs" = .ok m) (nsecs : stampPart members path "nsecs" = .ok n)
    (a b : Json) :
    (Json.object members).HeardIn (.object (stampMembers members))
      (.object [("nsecs", a), ("secs", b)]) := by
  constructor
  · rw [Json.coveredBy_object_iff]
    intro key j found
    rw [stampMembers, Keyed.lookup_filter stampKeys.contains] at found
    split at found
    · rename_i known
      simp only [stampKeys, List.contains_iff_mem, List.mem_cons, List.not_mem_nil, or_false] at known
      rcases known with rfl | rfl
      · exact ⟨b, rfl, Json.coveredBy_of_isScalar (isScalar_of_stampPart secs found) b⟩
      · exact ⟨a, rfl, Json.coveredBy_of_isScalar (isScalar_of_stampPart nsecs found) a⟩
    · cases found
  · intro covered
    obtain ⟨_, same, keys⟩ := (covered []).1 members rfl
    cases same
    refine congrArg Json.object (List.filter_eq_self.mpr fun member there => ?_)
    have known := keys member.1 (List.mem_map_of_mem there)
    simp only [Keyed.keys, List.map_cons, List.map_nil, List.mem_cons, List.not_mem_nil,
      or_false] at known
    rcases known with same | same <;> rw [same] <;> rfl

theorem Primitive.heardIn {p : Primitive} {j : Json} {path : String} {v : Value}
    (read : p.ofJson j path = .ok v) : j.HeardIn (p.heard j) v.toJson := by
  cases j with
  | object members =>
    cases p with
    | time =>
      obtain ⟨_, _, _, _, secs, nsecs, rfl⟩ := timeOfJson_ok read
      rw [Value.toJson]
      exact heardIn_stamp secs nsecs _ _
    | duration =>
      obtain ⟨_, _, _, _, secs, nsecs, rfl⟩ := durationOfJson_ok read
      rw [Value.toJson]
      exact heardIn_stamp secs nsecs _ _
    | _ => cases read
  | array items => cases p <;> cases read
  | _ =>
    have whole : ∀ j : Json, j.isScalar = true → p.heard j = j := by
      intro j scalar
      cases p <;> cases j <;> first | rfl | cases scalar
    rw [whole _ rfl]
    exact .of_isScalar rfl _

/-- What an element type reads is covered by the JSON form of the value that is made of it. -/
def Element.Hears (e : Element) : Prop :=
  ∀ ⦃j path v⦄, j.Distinct → e.ofJson j path = .ok v → j.HeardIn (e.heard j) v.toJson

theorem Field.heardIn {f : Field} (hears : f.element.Hears) {j : Json} {path : String} {v : Value}
    (distinct : j.Distinct) (read : f.ofJson j path = .ok v) : j.HeardIn (f.heard j) v.toJson := by
  by_cases one : f.arity = .one
  · rw [heard_one one]
    exact hears distinct (ofJson_one one read)
  · obtain ⟨js, values, rfl, -, converted, rfl⟩ := ofJson_array one read
    rw [heard_array one, Value.toJson, Value.itemsToJson_eq]
    refine .array (List.forall₂_map_right_iff.mpr ?_)
    have each := (List.forall₂_and_left _ _).mpr
      ⟨Json.distinct_array_iff.mp distinct, itemsOfJson_forall₂ converted⟩
    refine each.imp fun j v both => ?_
    obtain ⟨distinct, _, read⟩ := both
    exact hears distinct read

theorem Element.hears (e : Element) : e.Hears := by
  induction e using Element.induction with
  | primitive p =>
    intro j path v distinct read
    rw [ofJson] at read
    rw [heard]
    exact Primitive.heardIn read
  | message type ih =>
    intro j path v distinct read
    rw [ofJson] at read
    obtain ⟨m, made, rfl⟩ := Result.map_ok_iff.mp read
    obtain ⟨members, rfl, stored⟩ := MessageType.ofJsonAt_ok made
    obtain ⟨keys, inside⟩ := Json.distinct_object_iff.mp distinct
    rw [heard, MessageType.heard_object, Value.toJson, Message.toJson_eq, Value.fieldsToJson_eq]
    refine .object keys fun key j found => ?_
    obtain ⟨v, made, held⟩ := (get?_of_storeMembers keys stored).2 key j found
    rw [Field.ofMember_eq, Option.map_eq_some_iff] at made
    obtain ⟨f, named, made⟩ := made
    refine ⟨v.toJson, ?_, ?_⟩
    · rw [Keyed.lookup_map fun _ => Value.toJson]
      exact congrArg (Option.map _) held
    · rw [Field.heardMember_eq, named]
      exact Field.heardIn (ih f (List.mem_of_find?_eq_some named))
        (inside _ (Keyed.mem_of_lookup found)) made

namespace MessageType

/-- A JSON value is read as its part without the members of times and durations other than `secs` and
`nsecs` is. A key that names no field of a message is refused, at any depth. If a message is read, its
JSON form covers that part, and it covers the whole value only if there were no other members. -/
theorem heard_covered {type : MessageType} (made : type.Compiled) (j : Json) :
    type.ofJson (type.heard j) = type.ofJson j ∧
    ((Element.message type).Stray j → ∃ violation, type.ofJson j = .error violation) ∧
    (j.Distinct → ∀ m, type.ofJson j = .ok m →
      (type.heard j).CoveredBy m.toJson ∧ (j.CoveredBy m.toJson ↔ type.heard j = j)) := by
  have asElement {m : Message} (read : type.ofJson j = .ok m) :
      (Element.message type).ofJson j "" = .ok (.message m) := by
    rw [Element.ofJson]
    exact congrArg (Except.map Value.message) read
  refine ⟨?_, fun stray => ?_, fun distinct m read => ?_⟩
  · exact ofJsonAt_heard (fun f _ => Field.ofJson_heard f.element.ofJson_heard) j ""
  · cases read : type.ofJson j with
    | error violation => exact ⟨violation, rfl⟩
    | ok m => exact (stray.refused made.wellFormed.element "" _ (asElement read)).elim
  · have heard := Element.hears (.message type) distinct (asElement read)
    rw [Element.heard, Value.toJson] at heard
    exact ⟨heard.covered, heard.all, fun whole => whole ▸ heard.covered⟩

/-- A log with a mistyped key in its time. -/
def mistypedTime : Json :=
  .object [("readings", .array [.object [("count", .integer 2)]]),
    ("stamp", .object [("nsec", .integer 5), ("secs", .integer 1)])]

/-- A log with a mistyped key in one of its readings. -/
def mistypedReading : Json :=
  .object [("readings", .array [.object [("count", .integer 2)], .object [("cuont", .integer 3)]])]

theorem mistyped_read :
    logType.Compiled ∧ mistypedTime.Distinct ∧
      (∃ m, logType.ofJson mistypedTime = .ok m ∧ m.get? "stamp" = some (.time 1 0) ∧
        (logType.heard mistypedTime).CoveredBy m.toJson ∧ ¬ mistypedTime.CoveredBy m.toJson) ∧
      (Element.message logType).Stray mistypedReading ∧
      ∃ violation, logType.ofJson mistypedReading = .error violation := by
  have distinct : mistypedTime.Distinct := by
    have scalars : ∀ members : List (String × Json), (∀ member ∈ members, member.2.isScalar = true) →
        ∀ member ∈ members, member.2.Distinct :=
      fun _ each member there => Json.distinct_of_isScalar (each member there)
    refine Json.distinct_object_iff.mpr ⟨by decide, ?_⟩
    rw [List.forall_mem_cons, List.forall_mem_singleton, Json.distinct_array_iff,
      List.forall_mem_singleton, Json.distinct_object_iff, Json.distinct_object_iff]
    exact ⟨⟨by decide, scalars _ (by decide)⟩, by decide, scalars _ (by decide)⟩
  have read : logType.ofJson mistypedTime = .ok ⟨"nav/Log",
      [("last", .message readingType.default),
        ("readings", .array [.message (readingType.default.set "count" (.uint64 2))]),
        ("stamp", .time 1 0)]⟩ := by rfl
  have part : logType.heard mistypedTime = .object [("readings", .array [.object [("count", .integer 2)]]),
      ("stamp", .object [("secs", .integer 1)])] := by rfl
  have less : logType.heard mistypedTime ≠ mistypedTime := by
    rw [part, mistypedTime]
    simp
  obtain ⟨-, -, heard⟩ := heard_covered logType_compiled mistypedTime
  obtain ⟨covered, whole⟩ := heard distinct _ read
  have stray : (Element.message logType).Stray mistypedReading := by
    have there : "cuont" ∈ Keyed.keys [("cuont", Json.integer 3)] := .head _
    exact .item (.head _) nofun (.head _) (.tail _ (.head _)) (.here there (by decide))
  exact ⟨logType_compiled, distinct, ⟨_, read, rfl, covered, mt whole.mp less⟩, stray,
    (heard_covered logType_compiled mistypedReading).2.1 stray⟩

end MessageType

end TopicWire
