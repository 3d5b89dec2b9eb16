import TopicWire.MessageType.Name

/-!
# How ids and type names are spelled

The spellings that schemas may use, each beside the function that reads it: `splitId_ok_iff` for the
ids of message types, `splitBrackets_eq_some_iff` for type names, `Number.unsigned?_eq_some_iff` for
the lengths in their brackets and `Number.integer?_eq_some_iff` for integers with a sign.
-/

namespace TopicWire

/-! ### Integers -/

namespace Number

variable {cs : List Char} {n : Nat}

/-- Decimal digits, possibly after a plus sign, that stand for a number. -/
def Denotes (literal : List Char) (n : Nat) : Prop :=
  ∃ digits, (literal = digits ∨ literal = '+' :: digits) ∧ digits ≠ [] ∧
    (∀ c ∈ digits, isDigit c = true) ∧ digitsValue digits = n

theorem natural?_eq_some_iff :
    natural? cs = some n ↔ cs ≠ [] ∧ (∀ c ∈ cs, isDigit c = true) ∧ digitsValue cs = n := by
  unfold natural?
  split
  · rename_i digits
    simpa [digits.1] using fun _ => digits.2
  · rename_i other
    simp only [reduceCtorEq, false_iff]
    rintro ⟨filled, digits, -⟩
    exact other ⟨filled, List.all_eq_true.mpr digits⟩

theorem unsigned?_eq_some_iff : unsigned? cs = some n ↔ Denotes cs n := by
  constructor
  · intro read
    unfold unsigned? at read
    split at read
    · exact ⟨_, .inr rfl, natural?_eq_some_iff.mp read⟩
    · exact ⟨cs, .inl rfl, natural?_eq_some_iff.mp read⟩
  · rintro ⟨digits, rfl | rfl, number⟩
    · unfold unsigned?
      split
      · have sign : isDigit '+' = true := number.2.1 '+' (.head _)
        cases sign
      · exact natural?_eq_some_iff.mpr number
    · exact natural?_eq_some_iff.mpr number

/-- Decimal digits, possibly after a sign, that stand for an integer. -/
inductive DenotesInteger : (literal : List Char) → (i : Int) → Prop
  | unsigned {literal : List Char} {n : Nat} (number : Denotes literal n) : DenotesInteger literal n
  | negative {digits : List Char} (filled : digits ≠ []) (all : ∀ c ∈ digits, isDigit c = true) :
      DenotesInteger ('-' :: digits) (-(digitsValue digits : Int))

theorem Denotes.head_ne_minus (number : Denotes cs n) : cs.head? ≠ some '-' := by
  obtain ⟨digits, rfl | rfl, filled, all, -⟩ := number
  · intro minus
    cases all '-' (List.mem_of_mem_head? minus)
  · nofun

theorem integer?_eq_some_iff {i : Int} : integer? cs = some i ↔ DenotesInteger cs i := by
  constructor
  · intro read
    unfold integer? at read
    split at read
    · simp only [Option.map_eq_some_iff, Option.bind_eq_bind, Option.bind_eq_some_iff] at read
      obtain ⟨_, ⟨n, natural, same⟩, rfl⟩ := read
      obtain ⟨filled, all, rfl⟩ := natural?_eq_some_iff.mp natural
      cases same
      exact .negative filled all
    · obtain ⟨n, unsigned, rfl⟩ := Option.map_eq_some_iff.mp read
      exact .unsigned (unsigned?_eq_some_iff.mp unsigned)
  · rintro (number | ⟨filled, all⟩)
    · unfold integer?
      split
      · exact (number.head_ne_minus rfl).elim
      · rw [unsigned?_eq_some_iff.mpr number]
        rfl
    · rw [integer?, natural?_eq_some_iff.mpr ⟨filled, all, rfl⟩]
      rfl

end Number

/-! ### Type names -/

/-- A type name is a base without opening brackets and, for an array, brackets after it, which may hold
a length below `2 ^ 64`. -/
inductive Spelled : (typeName base : String) → Brackets → Prop
  | none {base : String} (plain : '[' ∉ base.toList) : Spelled base base .none
  | empty {base : String} (plain : '[' ∉ base.toList) : Spelled (base ++ "[]") base .empty
  | length {base literal : String} {n : Nat} (plain : '[' ∉ base.toList)
      (number : Number.Denotes literal.toList n) (small : n < 0x10000000000000000) :
      Spelled (base ++ "[" ++ literal ++ "]") base (.length n)

namespace Spelled

variable {typeName base : String} {brackets : Brackets}

theorem of_splitBrackets (split : splitBrackets typeName = some (base, brackets)) :
    Spelled typeName base brackets := by
  unfold TopicWire.splitBrackets at split
  split at split
  · rename_i whole
    cases split
    exact .none (Text.cut_char_eq_none_iff.mp whole)
  · rename_i front rest divided
    obtain ⟨together, plain⟩ := Text.cut_char_eq_some_iff.mp divided
    rw [← String.toList_ofList (l := front)] at plain
    split at split
    · rename_i inner reversed
      obtain rfl : rest = inner.reverse ++ [']'] := by
        rw [← List.reverse_cons, ← reversed, List.reverse_reverse]
      split at split
      · rename_i nothing
        obtain rfl := List.isEmpty_iff.mp nothing
        cases split
        have spelled : typeName = String.ofList front ++ "[]" := by
          rw [← String.toList_inj, together]
          simp
        rw [spelled]
        exact .empty plain
      · split at split
        · rename_i n read
          split at split
          · rename_i small
            cases split
            have spelled : typeName =
                String.ofList front ++ "[" ++ String.ofList inner.reverse ++ "]" := by
              rw [← String.toList_inj, together]
              simp
            rw [spelled]
            apply Spelled.length plain _ small
            rw [String.toList_ofList]
            exact Number.unsigned?_eq_some_iff.mp read
          · cases split
        · cases split
    · cases split

theorem splitBrackets (spelled : Spelled typeName base brackets) :
    splitBrackets typeName = some (base, brackets) := by
  unfold TopicWire.splitBrackets
  cases spelled with
  | none plain => rw [Text.cut_char_eq_none_iff.mpr plain]
  | empty plain =>
    have together : (base ++ "[]").toList = base.toList ++ '[' :: [']'] := by simp
    rw [Text.cut_char_eq_some_iff.mpr ⟨together, plain⟩]
    simp
  | @length _ literal n plain number small =>
    have together : (base ++ "[" ++ literal ++ "]").toList =
        base.toList ++ '[' :: (literal.toList ++ [']']) := by simp
    rw [Text.cut_char_eq_some_iff.mpr ⟨together, plain⟩]
    have filled : literal.toList ≠ [] := by
      obtain ⟨digits, rfl | signed, filled, -⟩ := number
      · exact filled
      · rw [signed]
        exact List.cons_ne_nil _ _
    have read := Number.unsigned?_eq_some_iff.mpr number
    simp [filled, read, small]

end Spelled

theorem splitBrackets_eq_some_iff {typeName base : String} {brackets : Brackets} :
    splitBrackets typeName = some (base, brackets) ↔ Spelled typeName base brackets :=
  ⟨Spelled.of_splitBrackets, Spelled.splitBrackets⟩

/-! ### Ids -/

/-- An id is a name, or a package and a name with a slash between them, none of which is empty or has
slashes of its own. -/
inductive IdParts : (id : String) → (package : Option String) → (name : String) → Prop
  | bare {name : String} (filled : name ≠ "") (plain : '/' ∉ name.toList) : IdParts name none name
  | packaged {package name : String} (filled : package ≠ "" ∧ name ≠ "")
      (plain : '/' ∉ package.toList ∧ '/' ∉ name.toList) :
      IdParts (package ++ "/" ++ name) (some package) name

variable {id name : String} {package : Option String}

theorem IdParts.of_splitId (split : splitId id = .ok (package, name)) : IdParts id package name := by
  unfold TopicWire.splitId at split
  split at split
  · rename_i whole
    split at split
    · cases split
    · rename_i filled
      cases split
      exact .bare (mt String.isEmpty_iff.mpr filled) (Text.cut_char_eq_none_iff.mp whole)
  · rename_i front rest divided
    obtain ⟨together, plain⟩ := Text.cut_char_eq_some_iff.mp divided
    split at split
    · cases split
    · rename_i valid
      cases split
      simp only [Bool.or_eq_true, List.isEmpty_iff, List.contains_iff_mem, not_or] at valid
      obtain ⟨⟨packaged, named⟩, single⟩ := valid
      have spelled : id = String.ofList front ++ "/" ++ String.ofList rest := by
        rw [← String.toList_inj, together]
        simp
      rw [spelled]
      exact .packaged (by simp [packaged, named]) (by simp [plain, single])

theorem IdParts.splitId (parts : IdParts id package name) : splitId id = .ok (package, name) := by
  unfold TopicWire.splitId
  cases parts with
  | bare filled plain =>
    rw [Text.cut_char_eq_none_iff.mpr plain]
    simp [filled]
  | @packaged package name filled plain =>
    have together : (package ++ "/" ++ name).toList = package.toList ++ '/' :: name.toList := by simp
    rw [Text.cut_char_eq_some_iff.mpr ⟨together, plain.1⟩]
    simp [filled, plain.2]

theorem splitId_ok_iff : splitId id = .ok (package, name) ↔ IdParts id package name :=
  ⟨IdParts.of_splitId, IdParts.splitId⟩

end TopicWire
