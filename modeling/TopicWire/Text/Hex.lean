import TopicWire.Bytes

/-!
# Hexadecimal text

Two lower-case digits for each byte. `toBytes?_ofBytes` reads the text back.
-/

namespace TopicWire.Text.Hex

def digit (n : Nat) : Char :=
  Char.ofNat (if n < 10 then 48 + n else 87 + n)

def digit? (c : Char) : Option Nat :=
  if '0' ≤ c ∧ c ≤ '9' then some (c.toNat - 48)
  else if 'a' ≤ c ∧ c ≤ 'f' then some (c.toNat - 87)
  else if 'A' ≤ c ∧ c ≤ 'F' then some (c.toNat - 55)
  else none

def chars (bs : Bytes) : List Char :=
  bs.flatMap fun b => [digit (b.toNat / 16), digit (b.toNat % 16)]

def ofBytes (bs : Bytes) : String :=
  String.ofList (chars bs)

/-- The bytes that pairs of digits stand for. -/
def bytes? : List Char → Option Bytes
  | [] => some []
  | [_] => none
  | high :: low :: rest => do
    let high ← digit? high
    let low ← digit? low
    let rest ← bytes? rest
    return UInt8.ofNat (16 * high + low) :: rest

def toBytes? (s : String) : Option Bytes :=
  bytes? s.toList

theorem digit?_digit (n : Nat) (h : n < 16) : digit? (digit n) = some n := by
  have all : ∀ m : Fin 16, digit? (digit m) = some m.val := by decide
  exact all ⟨n, h⟩

theorem bytes?_chars (bs : Bytes) : bytes? (chars bs) = some bs := by
  induction bs with
  | nil => rfl
  | cons b bs ih =>
    have := b.toNat_lt
    have split : 16 * (b.toNat / 16) + b.toNat % 16 = b.toNat := by omega
    simp only [chars, List.flatMap_cons, List.cons_append, List.nil_append, bytes?]
    rw [digit?_digit _ (by omega), digit?_digit _ (by omega)]
    simp only [chars] at ih
    simp only [ih, bind, Option.bind, pure, split, UInt8.ofNat_toNat]

theorem toBytes?_ofBytes (bs : Bytes) : toBytes? (ofBytes bs) = some bs := by
  simp [toBytes?, ofBytes, bytes?_chars]

end TopicWire.Text.Hex
