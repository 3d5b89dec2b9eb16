import TopicWire.Number.Binary

/-!
# Decimal text of floating-point numbers

`shortest` gives the fewest decimal digits that read back as the same number, and of those the
nearest to it. A `Layout` says how such digits are set out; `messageLayout` is the one of error
messages and `jsonLayout` the one of JSON text.
-/

namespace TopicWire.Number

/-- The number `coefficient · 10 ^ exponent`. -/
structure Decimal where
  coefficient : Nat
  exponent : Int

namespace Decimal

/-- The number of the format nearest to a decimal. The bounds on the exponent keep the powers small:
beyond them the result is infinity or zero whatever the digits are. -/
def toBits (d : Decimal) (f : Format) : Nat :=
  let size := d.exponent + (Nat.toDigits 10 d.coefficient).length
  if d.coefficient = 0 || size < -400 then 0
  else if 400 < size then f.infinity
  else
    let num := d.coefficient * Nat.pow 10 d.exponent.toNat * Nat.pow 2 f.unitExponent
    f.ofRatio num (Nat.pow 10 (-d.exponent).toNat)

def stripZeros : (fuel : Nat) → Decimal → Decimal
  | 0, d => d
  | fuel + 1, d =>
    if d.coefficient ≠ 0 ∧ d.coefficient % 10 = 0 then
      stripZeros fuel ⟨d.coefficient / 10, d.exponent + 1⟩
    else d

end Decimal

/-- The reals that round to a number, in quarters of a unit, the number itself among them. -/
structure Interval where
  low : Nat
  value : Nat
  high : Nat
  closed : Bool

/-- The reals that round to a finite number. Below a power of two the numbers are twice as dense. -/
def Format.interval (f : Format) (bits : Nat) : Interval :=
  let exponent := f.magnitude bits / Nat.pow 2 f.fractionBits
  let fraction := f.magnitude bits % Nat.pow 2 f.fractionBits
  let gap := Nat.pow 2 (exponent - 1)
  let value := 4 * f.units bits
  let below := if fraction = 0 ∧ 1 < exponent then gap else 2 * gap
  ⟨value - below, value, value + 2 * gap, fraction % 2 == 0⟩

/-- Searches the grid of multiples of `10 ^ exponent` for a number in the interval, then ever finer
grids. The number's two neighbours on the grid are tried; of two hits the nearer one is taken. -/
def searchGrid (i : Interval) (unit : Nat) (tiesUp : Bool) : (fuel : Nat) → Int → Decimal
  | 0, exponent => ⟨0, exponent⟩
  | fuel + 1, exponent =>
    let grid := Nat.pow 10 exponent.toNat * unit
    let scale := Nat.pow 10 (-exponent).toNat
    let lower := i.value * scale / grid
    let upper := lower + 1
    let lowerIn := i.low * scale < lower * grid || (i.closed && i.low * scale == lower * grid)
    let upperIn := upper * grid < i.high * scale || (i.closed && upper * grid == i.high * scale)
    let middle := (lower + upper) * grid
    let twice := 2 * i.value * scale
    let upperNearer := middle < twice || (middle == twice && (tiesUp || lower % 2 == 1))
    if lowerIn && upperIn then ⟨if upperNearer then upper else lower, exponent⟩
    else if lowerIn then ⟨lower, exponent⟩
    else if upperIn then ⟨upper, exponent⟩
    else searchGrid i unit tiesUp fuel (exponent - 1)

/-- The shortest decimal that reads back as a finite number, without its sign. Seventeen digits
always suffice; the search starts at a power of ten above the number. -/
def shortest (f : Format) (tiesUp : Bool) (bits : Nat) : Decimal :=
  if f.magnitude bits = 0 then ⟨0, 0⟩
  else
    let size : Int := (f.units bits).log2 + 1 - f.unitExponent
    let start := size * 30103 / 100000 + 1
    (searchGrid (f.interval bits) (Nat.pow 2 (f.unitExponent + 2)) tiesUp 22 start).stripZeros 20

structure Layout where
  /-- Whether a number with this many digits before the point is written without an exponent. -/
  plain : Int → Bool
  /-- Whether a whole number ends in `.0`. -/
  pointed : Bool
  /-- Whether, of two decimals that are equally short and near, the larger is taken. -/
  tiesUp : Bool

/-- Messages never use an exponent. -/
def messageLayout : Layout := ⟨fun _ => true, false, true⟩

/-- JSON text uses an exponent below `1e-5` and from `1e16` on. -/
def jsonLayout : Layout := ⟨fun places => -5 < places && places ≤ 16, true, false⟩

def Layout.digits (layout : Layout) (d : Decimal) : List Char :=
  let digits := Nat.toDigits 10 d.coefficient
  let places := digits.length + d.exponent
  if layout.plain places then
    if 0 ≤ d.exponent then
      digits ++ List.replicate d.exponent.toNat '0' ++ (if layout.pointed then ['.', '0'] else [])
    else if 0 < places then digits.take places.toNat ++ '.' :: digits.drop places.toNat
    else ['0', '.'] ++ List.replicate (-places).toNat '0' ++ digits
  else
    let fraction := if digits.length = 1 then [] else '.' :: digits.drop 1
    let sign := if 0 < places then '+' else '-'
    digits.take 1 ++ fraction ++ ['e', sign] ++ Nat.toDigits 10 (places - 1).natAbs

def Layout.text (layout : Layout) (f : Format) (bits : Nat) : String :=
  let digits := layout.digits (shortest f layout.tiesUp bits)
  String.ofList (if f.isNegative bits then '-' :: digits else digits)

def messageText (bits : UInt64) : String :=
  let n := bits.toNat
  if Format.double.isNaN n then "NaN"
  else if Format.double.isFinite n then messageLayout.text Format.double n
  else if Format.double.isNegative n then "-inf"
  else "inf"

def jsonText (bits : UInt64) : String :=
  jsonLayout.text Format.double bits.toNat

end TopicWire.Number
