/-!
# Bytes

Little-endian words as lists of bytes, and the bytes of a text. `ofLittleEndian_littleEndian` reads
a written word back, and `text?_ofText` a written text.
-/

namespace TopicWire

abbrev Bytes := List UInt8

namespace Bytes

/-- The lowest `width` bytes of a number, the least significant one first. -/
def littleEndian : (width : Nat) → Nat → Bytes
  | 0, _ => []
  | width + 1, n => UInt8.ofNat (n % 256) :: littleEndian width (n / 256)

/-- The number whose bytes these are, the least significant one first. -/
def ofLittleEndian : Bytes → Nat
  | [] => 0
  | b :: bs => b.toNat + 256 * ofLittleEndian bs

@[simp] theorem length_littleEndian (width n : Nat) : (littleEndian width n).length = width := by
  induction width generalizing n with
  | zero => rfl
  | succ width ih => simp [littleEndian, ih]

theorem ofLittleEndian_littleEndian (width n : Nat) :
    ofLittleEndian (littleEndian width n) = n % Nat.pow 256 width := by
  induction width generalizing n with
  | zero => simp [littleEndian, ofLittleEndian, Nat.mod_one]
  | succ width ih =>
    have byte : (UInt8.ofNat (n % 256)).toNat = n % 256 := by simp
    have power : Nat.pow 256 (width + 1) = 256 * Nat.pow 256 width := Nat.mul_comm ..
    rw [littleEndian, ofLittleEndian, ih, byte, power, Nat.mod_mul]

theorem ofLittleEndian_lt (bs : Bytes) : ofLittleEndian bs < Nat.pow 256 bs.length := by
  induction bs with
  | nil => simp [ofLittleEndian]
  | cons b bs ih =>
    have := b.toNat_lt
    have power : Nat.pow 256 (bs.length + 1) = 256 * Nat.pow 256 bs.length := Nat.mul_comm ..
    rw [ofLittleEndian, List.length_cons, power]
    omega

theorem littleEndian_ofLittleEndian (bs : Bytes) :
    littleEndian bs.length (ofLittleEndian bs) = bs := by
  induction bs with
  | nil => rfl
  | cons b bs ih =>
    have := b.toNat_lt
    have quotient : (b.toNat + 256 * ofLittleEndian bs) / 256 = ofLittleEndian bs := by omega
    have remainder : (b.toNat + 256 * ofLittleEndian bs) % 256 = b.toNat := by omega
    simp [littleEndian, ofLittleEndian, quotient, remainder, ih]

def ofText (s : String) : Bytes :=
  s.toUTF8.data.toList

/-- The text that these bytes spell in UTF-8, if they spell one. -/
def text? (bs : Bytes) : Option String :=
  String.fromUTF8? ⟨bs.toArray⟩

theorem text?_ofText (s : String) : text? (ofText s) = some s := by
  have bytes : (⟨(ofText s).toArray⟩ : ByteArray) = s.toUTF8 := by simp [ofText]
  have valid : s.toUTF8.IsValidUTF8 := s.isValidUTF8
  simp only [text?, bytes, String.fromUTF8?, valid, dif_pos]
  rfl

theorem ofText_of_text? {bs : Bytes} {s : String} (h : text? bs = some s) : ofText s = bs := by
  simp only [text?, String.fromUTF8?] at h
  split at h
  · injection h with h
    subst h
    rfl
  · simp at h

theorem length_ofText (s : String) : (ofText s).length = s.utf8ByteSize := by
  simp [ofText, ← String.size_toByteArray]

end Bytes

end TopicWire
