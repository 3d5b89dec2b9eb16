import TopicWire.Json
import TopicWire.Number.Literal
import TopicWire.Text.Hex

/-!
# Reading JSON text

`Json.parse?` reads a whole text as one JSON value. Arrays and objects may be nested 127 levels
deep. A number without point and exponent is an integer if 64 bits can hold it, negative ones as
signed and others as unsigned. Any other number is a floating-point number, which must not be too
large: its first digits, as many as 64 bits can hold, are scaled by a power of ten in floating-point
arithmetic, so that it is rounded twice. Of two members with the same key the later one counts.
-/

namespace TopicWire.Json

def isSpace (c : Char) : Bool :=
  c == ' ' || c == '\t' || c == '\n' || c == '\r'

def skipSpace (cs : List Char) : List Char :=
  cs.dropWhile isSpace

def codeUnit? (a b c d : Char) : Option Nat := do
  let a ← Text.Hex.digit? a
  let b ← Text.Hex.digit? b
  let c ← Text.Hex.digit? c
  let d ← Text.Hex.digit? d
  return 4096 * a + 256 * b + 16 * c + d

def escape? (c : Char) : Option Char :=
  match c with
  | '"' => some '"'
  | '\\' => some '\\'
  | '/' => some '/'
  | 'b' => some '\x08'
  | 'f' => some '\x0c'
  | 'n' => some '\n'
  | 'r' => some '\r'
  | 't' => some '\t'
  | _ => none

/-- The characters of a string up to its closing quote, and the text after that. A code unit of a
pair has to be followed by the other one. -/
def stringBody : List Char → Option (List Char × List Char)
  | '"' :: rest => some ([], rest)
  | '\\' :: 'u' :: a :: b :: c :: d :: rest => do
    let unit ← codeUnit? a b c d
    if unit < 0xD800 ∨ 0xE000 ≤ unit then
      let (body, rest) ← stringBody rest
      return (Char.ofNat unit :: body, rest)
    else if unit < 0xDC00 then
      match rest with
      | '\\' :: 'u' :: e :: f :: g :: h :: rest =>
        let second ← codeUnit? e f g h
        if second < 0xDC00 ∨ 0xE000 ≤ second then failure
        let (body, rest) ← stringBody rest
        return (Char.ofNat (0x10000 + (unit - 0xD800) * 0x400 + (second - 0xDC00)) :: body, rest)
      | _ => failure
    else failure
  | '\\' :: c :: rest => do
    let c ← escape? c
    let (body, rest) ← stringBody rest
    return (c :: body, rest)
  | c :: rest => do
    if c.toNat < 0x20 then failure
    let (body, rest) ← stringBody rest
    return (c :: body, rest)
  | [] => none

def digits (cs : List Char) : List Char × List Char :=
  cs.span Number.isDigit

/-- The fraction of a number, if there is one: a point and at least one digit. -/
def fraction? (cs : List Char) : Option (List Char × List Char) :=
  match cs with
  | '.' :: rest =>
    let (ds, rest) := digits rest
    if ds.isEmpty then none else some (ds, rest)
  | _ => some ([], cs)

/-- The exponent of a number, if there is one: a letter, an optional sign and at least one digit. -/
def exponent? (cs : List Char) : Option (Option Int × List Char) :=
  match cs with
  | c :: rest =>
    if c = 'e' ∨ c = 'E' then
      let (negative, rest) := match rest with
        | '-' :: rest => (true, rest)
        | '+' :: rest => (false, rest)
        | _ => (false, rest)
      let (ds, rest) := digits rest
      let n : Int := Number.digitsValue ds
      if ds.isEmpty then none else some (some (if negative then -n else n), rest)
    else some (none, cs)
  | [] => some (none, cs)

/-- Appends digits to a number as long as 64 bits can hold it, and gives the digits left over. -/
def absorb (n : Nat) : List Char → Nat × List Char
  | [] => (n, [])
  | c :: cs =>
    let next := 10 * n + (c.toNat - 48)
    if next < 0x10000000000000000 then absorb next cs else (n, c :: cs)

def powerOfTen (exponent : Nat) : Nat :=
  (Number.Decimal.mk 1 exponent).toBits Number.Format.double

/-- Scales a positive number by a power of ten. Powers beyond the format are divided out in steps of
308; three steps take every number to zero. Nothing if the result is too large. -/
def scaled? (bits : Nat) : (fuel : Nat) → (exponent : Int) → Option Nat
  | 0, _ => some 0
  | fuel + 1, exponent =>
    if bits = 0 then some 0
    else if 308 < exponent then none
    else if 0 ≤ exponent then
      let product := Number.Format.double.times bits (powerOfTen exponent.toNat)
      if product = Number.Format.double.infinity then none else some product
    else if -308 ≤ exponent then
      some (Number.Format.double.quotient bits (powerOfTen (-exponent).toNat))
    else scaled? (Number.Format.double.quotient bits (powerOfTen 308)) fuel (exponent + 308)

def magnitude? (negative : Bool) (cs : List Char) : Option (Json × List Char) := do
  let (whole, rest) := digits cs
  if whole.isEmpty || (whole.head? == some '0' && whole.length != 1) then failure
  let (fraction, rest) ← fraction? rest
  let (exponent, rest) ← exponent? rest
  let (n, dropped) := absorb 0 whole
  if dropped.isEmpty && fraction.isEmpty && exponent.isNone then
    if negative && 0 < n && n ≤ 0x8000000000000000 then return (.integer (-n), rest)
    if !negative then return (.integer n, rest)
  let (n, unused) := absorb n fraction
  let places : Int := dropped.length - (fraction.length - unused.length : Nat)
  let bits ← scaled? (Number.Format.double.ofInt n) 4 (places + exponent.getD 0)
  return (.float (UInt64.ofNat (Number.Format.double.signed negative bits)), rest)

def number? (cs : List Char) : Option (Json × List Char) :=
  match cs with
  | '-' :: rest => magnitude? true rest
  | _ => magnitude? false cs

/-- Items with commas between them up to the closing bracket. Each item takes at least one
character, so the length of the text bounds their number. -/
def items? (item : List Char → Option (α × List Char)) (close : Char) :
    (fuel : Nat) → List Char → Option (List α × List Char)
  | 0, _ => none
  | fuel + 1, cs => do
    let (first, rest) ← item (skipSpace cs)
    match skipSpace rest with
    | ',' :: rest =>
      let (others, rest) ← items? item close fuel rest
      return (first :: others, rest)
    | c :: rest => if c = close then return ([first], rest) else failure
    | [] => failure

def enclosed? (item : List Char → Option (α × List Char)) (close : Char) (cs : List Char) :
    Option (List α × List Char) :=
  match skipSpace cs with
  | c :: rest => if c = close then some ([], rest) else items? item close cs.length cs
  | [] => none

def member? (value : List Char → Option (Json × List Char)) (cs : List Char) :
    Option ((String × Json) × List Char) :=
  match cs with
  | '"' :: rest => do
    let (key, rest) ← stringBody rest
    match skipSpace rest with
    | ':' :: rest =>
      let (v, rest) ← value (skipSpace rest)
      return ((String.ofList key, v), rest)
    | _ => failure
  | _ => none

/-- A value that starts here, with at most `depth` levels of nesting, and the text after it. -/
def value? : (depth : Nat) → List Char → Option (Json × List Char)
  | _, 'n' :: 'u' :: 'l' :: 'l' :: rest => some (.null, rest)
  | _, 't' :: 'r' :: 'u' :: 'e' :: rest => some (.bool true, rest)
  | _, 'f' :: 'a' :: 'l' :: 's' :: 'e' :: rest => some (.bool false, rest)
  | _, '"' :: rest => do
    let (s, rest) ← stringBody rest
    return (.string (String.ofList s), rest)
  | depth + 1, '[' :: rest => do
    let (items, rest) ← enclosed? (value? depth) ']' rest
    return (.array items, rest)
  | depth + 1, '\x7b' :: rest => do
    let (members, rest) ← enclosed? (member? (value? depth)) '\x7d' rest
    return (.object (Keyed.ofList members), rest)
  | _, cs => number? cs

/-- The JSON value that a text holds, with nothing but blanks around it. -/
def parse? (s : String) : Option Json := do
  let (value, rest) ← value? 127 (skipSpace s.toList)
  if (skipSpace rest).isEmpty then return value else failure

end TopicWire.Json
