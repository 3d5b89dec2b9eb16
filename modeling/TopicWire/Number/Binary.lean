/-!
# Binary floating point

A floating-point number is kept as its bits, so that every NaN stays the one it was. The magnitude
of a finite number is a natural number of units, the unit being the least positive number of the
format; `ofRatio` rounds a quotient of units to the nearest number of the format, a tie going to
the even one, and `convert` takes a number from one format to another.
-/

namespace TopicWire.Number

/-- The widths of the two fields below the sign bit. -/
structure Format where
  fractionBits : Nat
  exponentBits : Nat

namespace Format

/-- Four bytes: 8 exponent bits and 23 fraction bits. -/
def single : Format := ⟨23, 8⟩

/-- Eight bytes: 11 exponent bits and 52 fraction bits. -/
def double : Format := ⟨52, 11⟩

def signWeight (f : Format) : Nat :=
  Nat.pow 2 (f.fractionBits + f.exponentBits)

/-- The bits of positive infinity, all exponent bits and nothing else. -/
def infinity (f : Format) : Nat :=
  f.signWeight - Nat.pow 2 f.fractionBits

def quietBit (f : Format) : Nat :=
  Nat.pow 2 (f.fractionBits - 1)

def unitExponent (f : Format) : Nat :=
  Nat.pow 2 (f.exponentBits - 1) + f.fractionBits - 2

def isNegative (f : Format) (bits : Nat) : Bool :=
  f.signWeight ≤ bits

def magnitude (f : Format) (bits : Nat) : Nat :=
  bits % f.signWeight

def isFinite (f : Format) (bits : Nat) : Bool :=
  f.magnitude bits < f.infinity

def isNaN (f : Format) (bits : Nat) : Bool :=
  f.infinity < f.magnitude bits

/-- Two numbers compare equal: both zeros do, and no NaN does. -/
def same (f : Format) (a b : Nat) : Bool :=
  !f.isNaN a && !f.isNaN b && (a == b || (f.magnitude a == 0 && f.magnitude b == 0))

def units (f : Format) (bits : Nat) : Nat :=
  let exponent := f.magnitude bits / Nat.pow 2 f.fractionBits
  let fraction := f.magnitude bits % Nat.pow 2 f.fractionBits
  if exponent = 0 then fraction else (Nat.pow 2 f.fractionBits + fraction) * Nat.pow 2 (exponent - 1)

/-- A finite number without a fractional part. -/
def isWhole (f : Format) (bits : Nat) : Bool :=
  f.units bits % Nat.pow 2 f.unitExponent == 0

/-- The quotient rounded to a whole number, a half going to the even neighbour. -/
def roundDiv (num den : Nat) : Nat :=
  let quotient := num / den
  let twice := 2 * (num % den)
  if twice < den || (twice == den && quotient % 2 == 0) then quotient else quotient + 1

/-- The positive number nearest to `num / den` units; infinity from where the format ends. -/
def ofRatio (f : Format) (num den : Nat) : Nat :=
  let shift := (num / den).log2 - f.fractionBits
  min f.infinity (shift * Nat.pow 2 f.fractionBits + roundDiv num (den * Nat.pow 2 shift))

def times (f : Format) (a b : Nat) : Nat :=
  f.ofRatio (f.units a * f.units b) (Nat.pow 2 f.unitExponent)

def quotient (f : Format) (a b : Nat) : Nat :=
  f.ofRatio (f.units a * Nat.pow 2 f.unitExponent) (f.units b)

def signed (f : Format) (negative : Bool) (bits : Nat) : Nat :=
  if negative then f.signWeight + bits else bits

def ofInt (f : Format) (n : Int) : Nat :=
  f.signed (n < 0) (f.ofRatio (n.natAbs * Nat.pow 2 f.unitExponent) 1)

/-- The nearest number of another format. A NaN becomes quiet and keeps the leading bits of its
fraction. -/
def convert (source target : Format) (bits : Nat) : Nat :=
  let fraction := source.magnitude bits % Nat.pow 2 source.fractionBits
  let moved :=
    if source.isNaN bits then
      let quiet := fraction ||| source.quietBit
      target.infinity + quiet * Nat.pow 2 target.fractionBits / Nat.pow 2 source.fractionBits
    else if source.isFinite bits then
      target.ofRatio (source.units bits * Nat.pow 2 target.unitExponent) (Nat.pow 2 source.unitExponent)
    else target.infinity
  target.signed (source.isNegative bits) moved

end Format

def widen (bits : UInt32) : UInt64 :=
  UInt64.ofNat (Format.single.convert Format.double bits.toNat)

def narrow (bits : UInt64) : UInt32 :=
  UInt32.ofNat (Format.double.convert Format.single bits.toNat)

def doubleOfInt (n : Int) : UInt64 :=
  UInt64.ofNat (Format.double.ofInt n)

/-- A finite number whose magnitude is above every finite four-byte number. -/
def exceedsSingle (bits : UInt64) : Bool :=
  Format.double.isFinite bits.toNat && 0x47EFFFFFE0000000 < Format.double.magnitude bits.toNat

end TopicWire.Number
