import TopicWire.Number.Decimal

/-!
# Number literals

The forms in which schemas and settings write numbers: decimal integers with an optional sign, and
decimal fractions with an optional exponent. `natural?_toDigits` reads a written natural number.
-/

namespace TopicWire.Number

def isDigit (c : Char) : Bool :=
  '0' ≤ c && c ≤ '9'

def digitsValue (cs : List Char) : Nat :=
  cs.foldl (fun n c => 10 * n + (c.toNat - 48)) 0

def natural? (cs : List Char) : Option Nat :=
  if cs ≠ [] ∧ cs.all isDigit then some (digitsValue cs) else none

def unsigned? (cs : List Char) : Option Nat :=
  match cs with
  | '+' :: rest => natural? rest
  | _ => natural? cs

def integer? (cs : List Char) : Option Int :=
  match cs with
  | '-' :: rest => (natural? rest).map fun n => -(n : Int)
  | _ => (unsigned? cs).map Int.ofNat

/-- An exponent of ten: nothing, or a letter `e` and an integer. -/
def exponent? (cs : List Char) : Option Int :=
  match cs with
  | [] => some 0
  | c :: rest => if c = 'e' ∨ c = 'E' then integer? rest else none

/-- Digits with an optional point, at least one digit, and an optional exponent. -/
def decimal? (cs : List Char) : Option Decimal :=
  let whole := cs.takeWhile isDigit
  let rest := cs.dropWhile isDigit
  let (fraction, rest) := match rest with
    | '.' :: rest => (rest.takeWhile isDigit, rest.dropWhile isDigit)
    | _ => ([], rest)
  if whole.isEmpty && fraction.isEmpty then none
  else (exponent? rest).map fun e => ⟨digitsValue (whole ++ fraction), e - fraction.length⟩

/-- The bits of a decimal, `inf`, `infinity` or `nan` in letters of either case, or nothing. -/
def positiveBits? (f : Format) (cs : List Char) : Option Nat :=
  let word := String.ofList (cs.map Char.toLower)
  if word = "inf" ∨ word = "infinity" then some f.infinity
  else if word = "nan" then some (f.infinity + f.quietBit)
  else (decimal? cs).map (·.toBits f)

/-- The bits of a floating-point literal with an optional sign. -/
def floatBits? (f : Format) (cs : List Char) : Option Nat :=
  match cs with
  | '-' :: rest => (positiveBits? f rest).map (f.signed true)
  | '+' :: rest => positiveBits? f rest
  | _ => positiveBits? f cs

/-! ### Written integers -/

theorem natural?_toDigits (n : Nat) : natural? (Nat.toDigits 10 n) = some n := by
  have digits : (Nat.toDigits 10 n).all isDigit = true := by
    rw [List.all_eq_true]
    exact fun c there => Nat.isDigit_of_mem_toDigits (by decide) (by decide) there
  have value : digitsValue (Nat.toDigits 10 n) = n :=
    Nat.ofDigitChars_eq_foldl.symm.trans Nat.ofDigitChars_ten_toDigits
  rw [natural?, if_pos ⟨Nat.toDigits_ne_nil, digits⟩, value]

/-- The first digit is no sign. -/
theorem integer?_toDigits (n : Nat) : integer? (Nat.toDigits 10 n) = some (n : Int) := by
  have read := natural?_toDigits n
  have first : ∀ c ∈ (Nat.toDigits 10 n).head?, c.isDigit = true := fun c there =>
    Nat.isDigit_of_mem_toDigits (by decide) (by decide) (List.mem_of_mem_head? there)
  unfold integer? unsigned?
  split
  · rename_i rest digits
    rw [digits] at first
    exact absurd (first _ rfl) (by decide)
  · split
    · rename_i rest digits
      rw [digits] at first
      exact absurd (first _ rfl) (by decide)
    · rw [read]
      rfl

theorem integer?_toString (i : Int) : integer? (toString i).toList = some i := by
  rw [Int.toString_eq_repr, Int.repr_eq_if]
  split
  · rw [Nat.repr_eq_ofList_toDigits, String.toList_ofList, integer?_toDigits]
    exact congrArg some (Int.toNat_of_nonneg (by assumption))
  · have same : (("-" : String) ++ (-i).toNat.repr).toList = '-' :: Nat.toDigits 10 (-i).toNat := by
      rw [String.toList_append, Nat.repr_eq_ofList_toDigits, String.toList_ofList, String.toList_ofList]
      rfl
    have value : -((-i).toNat : Int) = i := by omega
    rw [same, integer?, natural?_toDigits]
    exact congrArg some value

theorem sign_or_digit_of_mem_toString {i : Int} {c : Char} (there : c ∈ (toString i).toList) :
    c = '-' ∨ isDigit c = true := by
  have digits {n : Nat} (there : c ∈ n.repr.toList) : isDigit c = true := by
    rw [Nat.repr_eq_ofList_toDigits, String.toList_ofList] at there
    exact Nat.isDigit_of_mem_toDigits (by decide) (by decide) there
  rw [Int.toString_eq_repr, Int.repr_eq_if] at there
  split at there
  · exact .inr (digits there)
  · rw [String.toList_append, String.toList_ofList] at there
    rcases List.mem_append.mp there with sign | there
    · exact .inl (List.mem_singleton.mp sign)
    · exact .inr (digits there)

end TopicWire.Number
