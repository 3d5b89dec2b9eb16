import TopicWire.Number.Literal
import TopicWire.Text.Cut
import TopicWire.Text.Hex
import TopicWire.Toml

/-!
# Reading TOML

A reader takes what it reads off the front of a text and gives the rest, or `none` if the text is
not well-formed. Tables and arrays nest less than eighty levels deep.
-/

namespace TopicWire.Toml

/-- Takes something off the front of a text. -/
abbrev Reader (α : Type) := List Char → Option (α × List Char)

/-- May stand in comments and strings: a tab, or anything but a control character. -/
def isVisible (c : Char) : Bool :=
  c == '\t' || (' ' ≤ c && c != '\x7f')

def isSpace (c : Char) : Bool :=
  c == ' ' || c == '\t'

def skipSpace (cs : List Char) : List Char :=
  cs.dropWhile isSpace

def afterNewline? : List Char → Option (List Char)
  | '\n' :: rest => some rest
  | '\r' :: '\n' :: rest => some rest
  | _ => none

def skipComment : List Char → List Char
  | '#' :: rest => rest.dropWhile isVisible
  | cs => cs

/-- Skips the rest of a line, which may hold a comment only. -/
def endOfLine? (cs : List Char) : Option (List Char) :=
  match skipComment (skipSpace cs) with
  | [] => some []
  | rest => afterNewline? rest

def skipLines : (fuel : Nat) → List Char → List Char
  | 0, cs => cs
  | fuel + 1, cs =>
    match afterNewline? (skipComment (skipSpace cs)) with
    | some rest => skipLines fuel rest
    | none => skipSpace cs

/-! ### Strings -/

def escapedCode (count : Nat) : Reader Char := fun cs => do
  let digits ← (cs.take count).mapM Text.Hex.digit?
  let code := digits.foldl (fun n d => 16 * n + d) 0
  if digits.length = count ∧ (Char.ofNat code).toNat = code then
    some (Char.ofNat code, cs.drop count)
  else none

def escaped : Reader Char
  | 'b' :: rest => some ('\x08', rest)
  | 't' :: rest => some ('\t', rest)
  | 'n' :: rest => some ('\n', rest)
  | 'f' :: rest => some ('\x0c', rest)
  | 'r' :: rest => some ('\r', rest)
  | '"' :: rest => some ('"', rest)
  | '\\' :: rest => some ('\\', rest)
  | 'u' :: rest => escapedCode 4 rest
  | 'U' :: rest => escapedCode 8 rest
  | _ => none

def skipBlankLines : (fuel : Nat) → List Char → List Char
  | 0, cs => cs
  | fuel + 1, cs =>
    match afterNewline? (skipSpace cs) with
    | some rest => skipBlankLines fuel rest
    | none => skipSpace cs

/-- Skips the end of a line and the blanks after it, which a backslash before them takes out of a
string. -/
def skipFold? (cs : List Char) : Option (List Char) :=
  (afterNewline? (skipSpace cs)).map fun rest => skipBlankLines rest.length rest

def lineContent (quote : Char) (escapes : Bool) : (fuel : Nat) → Reader (List Char)
  | 0, _ => none
  | _, [] => none
  | fuel + 1, c :: rest =>
    if c = quote then some ([], rest)
    else if c = '\\' ∧ escapes then do
      let (c, rest) ← escaped rest
      let (cs, rest) ← lineContent quote escapes fuel rest
      return (c :: cs, rest)
    else if isVisible c then do
      let (cs, rest) ← lineContent quote escapes fuel rest
      return (c :: cs, rest)
    else none

/-- The content of a string of several lines up to the three quotes that end it. Up to two more
quotes belong to the content. -/
def blockContent (quote : Char) (escapes : Bool) : (fuel : Nat) → Reader (List Char)
  | 0, _ => none
  | _, [] => none
  | fuel + 1, c :: rest =>
    let quotes := (c :: rest).takeWhile (· == quote)
    if 3 ≤ quotes.length then
      if quotes.length ≤ 5 then some (quotes.drop 3, (c :: rest).drop quotes.length) else none
    else if c = '\\' ∧ escapes then
      match skipFold? rest with
      | some rest => blockContent quote escapes fuel rest
      | none => do
        let (c, rest) ← escaped rest
        let (cs, rest) ← blockContent quote escapes fuel rest
        return (c :: cs, rest)
    else match afterNewline? (c :: rest) with
      | some rest => do
        let (cs, rest) ← blockContent quote escapes fuel rest
        return ('\n' :: cs, rest)
      | none =>
        if isVisible c then do
          let (cs, rest) ← blockContent quote escapes fuel rest
          return (c :: cs, rest)
        else none

def lineString (quote : Char) : Reader String := fun cs => do
  let (content, rest) ← lineContent quote (quote == '"') (cs.length + 1) cs
  return (String.ofList content, rest)

def stringValue (quote : Char) : Reader String
  | a :: b :: rest =>
    if a = quote ∧ b = quote then do
      let start := (afterNewline? rest).getD rest
      let (content, rest) ← blockContent quote (quote == '"') (rest.length + 1) start
      return (String.ofList content, rest)
    else lineString quote (a :: b :: rest)
  | cs => lineString quote cs

/-! ### Keys -/

/-- May stand in a key without quotes. -/
def isBare (c : Char) : Bool :=
  Number.isDigit c || ('a' ≤ c && c ≤ 'z') || ('A' ≤ c && c ≤ 'Z') || c == '_' || c == '-'

def keyPart : Reader String
  | '"' :: rest => lineString '"' rest
  | '\'' :: rest => lineString '\'' rest
  | cs =>
    let part := cs.takeWhile isBare
    if part.isEmpty then none else some (String.ofList part, cs.dropWhile isBare)

/-- The parts of a key between dots, with the space around them. -/
def keyParts : (fuel : Nat) → Reader (List String)
  | 0, _ => none
  | fuel + 1, cs => do
    let (part, rest) ← keyPart (skipSpace cs)
    match skipSpace rest with
    | '.' :: rest =>
      let (parts, rest) ← keyParts fuel rest
      return (part :: parts, rest)
    | rest => return ([part], rest)

def key : Reader (List String × String) := fun cs => do
  let (parts, rest) ← keyParts (cs.length + 1) cs
  let last ← parts.getLast?
  if parts.length < 80 then some ((parts.dropLast, last), rest) else none

/-! ### Numbers, dates and times -/

/-- Digits with single underscores between them, without the underscores. -/
def digits? (isDigit : Char → Bool) : List Char → Option (List Char)
  | [] => none
  | [c] => if isDigit c then some [c] else none
  | c :: '_' :: rest => if isDigit c then (digits? isDigit rest).map (c :: ·) else none
  | c :: rest => if isDigit c then (digits? isDigit rest).map (c :: ·) else none

/-- A number below `2 ^ 63` in a base that its prefix names. -/
def basedInteger? (base : Nat) (cs : List Char) : Option Toml := do
  let isDigit (c : Char) : Bool := ((Text.Hex.digit? c).map fun d => decide (d < base)).getD false
  let digits ← digits? isDigit cs
  let n := digits.foldl (fun n c => base * n + (Text.Hex.digit? c).getD 0) 0
  if n < 0x8000000000000000 then some (.integer n) else none

/-- The digits of a decimal number, which does not start with a zero unless it is zero. -/
def decimalDigits? (cs : List Char) : Option (List Char) := do
  let digits ← digits? Number.isDigit cs
  if 1 < digits.length ∧ digits.head? = some '0' then none else some digits

def decimalInteger? (negative : Bool) (cs : List Char) : Option Toml := do
  let n := Number.digitsValue (← decimalDigits? cs)
  if negative then (if n ≤ 0x8000000000000000 then some (.integer (-(n : Int))) else none)
  else if n < 0x8000000000000000 then some (.integer n) else none

def exponentDigits? : List Char → Option Int
  | '-' :: cs => (digits? Number.isDigit cs).map fun digits => -(Number.digitsValue digits : Int)
  | '+' :: cs => (digits? Number.isDigit cs).map fun digits => Number.digitsValue digits
  | cs => (digits? Number.isDigit cs).map fun digits => Number.digitsValue digits

/-- A fractional number without its sign. -/
def fraction? (cs : List Char) : Option Number.Decimal := do
  let isMark (c : Char) : Bool := c == 'e' || c == 'E'
  let (mantissa, exponent) ← match Text.cut isMark cs with
    | some (mantissa, exponent) => do pure (mantissa, ← exponentDigits? exponent)
    | none => pure (cs, 0)
  match Text.cut (· == '.') mantissa with
  | some (whole, fraction) =>
    let whole ← decimalDigits? whole
    let fraction ← digits? Number.isDigit fraction
    return ⟨Number.digitsValue (whole ++ fraction), exponent - fraction.length⟩
  | none =>
    if mantissa.length = cs.length then none
    else return ⟨Number.digitsValue (← decimalDigits? mantissa), exponent⟩

/-- A number after its sign. A positive fractional number beyond the greatest one is refused. -/
def unsignedNumber? (negative : Bool) (cs : List Char) : Option Toml :=
  if cs = "inf".toList ∨ cs = "nan".toList then some .other
  else match fraction? cs with
    | some d =>
      if d.toBits .double = Number.Format.double.infinity ∧ !negative then none else some .other
    | none => decimalInteger? negative cs

def number? : List Char → Option Toml
  | '+' :: cs => unsignedNumber? false cs
  | '-' :: cs => unsignedNumber? true cs
  | '0' :: 'x' :: cs => basedInteger? 16 cs
  | '0' :: 'o' :: cs => basedInteger? 8 cs
  | '0' :: 'b' :: cs => basedInteger? 2 cs
  | cs => unsignedNumber? false cs

/-- Takes a number of a fixed count of digits within bounds. -/
def fixedDigits (count low high : Nat) : Reader Nat := fun cs =>
  let digits := cs.take count
  let n := Number.digitsValue digits
  if digits.length = count ∧ digits.all Number.isDigit ∧ low ≤ n ∧ n ≤ high then
    some (n, cs.drop count)
  else none

def skip (c : Char) : List Char → Option (List Char)
  | d :: rest => if d = c then some rest else none
  | [] => none

def daysIn (year month : Nat) : Nat :=
  if month = 2 then
    if year % 4 = 0 ∧ (year % 100 ≠ 0 ∨ year % 400 = 0) then 29 else 28
  else if month = 4 ∨ month = 6 ∨ month = 9 ∨ month = 11 then 30
  else 31

def afterDate? (cs : List Char) : Option (List Char) := do
  let (year, cs) ← fixedDigits 4 0 9999 cs
  let (month, cs) ← fixedDigits 2 1 12 (← skip '-' cs)
  let (_, cs) ← fixedDigits 2 1 (daysIn year month) (← skip '-' cs)
  return cs

def afterTime? (cs : List Char) : Option (List Char) := do
  let (_, cs) ← fixedDigits 2 0 23 cs
  let (_, cs) ← fixedDigits 2 0 59 (← skip ':' cs)
  let (_, cs) ← fixedDigits 2 0 60 (← skip ':' cs)
  match cs with
  | '.' :: rest =>
    if rest.takeWhile Number.isDigit = [] then none else some (rest.dropWhile Number.isDigit)
  | _ => some cs

/-- A distance from universal time, or nothing. -/
def isOffset : List Char → Bool
  | [] => true
  | ['Z'] => true
  | ['z'] => true
  | sign :: cs =>
    (sign == '+' || sign == '-') &&
      (do
        let (_, cs) ← fixedDigits 2 0 23 cs
        let (_, cs) ← fixedDigits 2 0 59 (← skip ':' cs)
        return cs.isEmpty).getD false

def isMoment (cs : List Char) : Bool :=
  match afterDate? cs with
  | some [] => true
  | some (c :: rest) =>
    (c == 'T' || c == 't' || c == ' ') && ((afterTime? rest).map isOffset).getD false
  | none => afterTime? cs == some []

/-- May stand in a number, a date, a time or a truth value. -/
def isWordChar (c : Char) : Bool :=
  isBare c || c == '+' || c == '.' || c == ':'

/-- A value that is one word, or a date and a time with a space between them. -/
def word : Reader Toml := fun cs =>
  let text := cs.takeWhile isWordChar
  let rest := cs.dropWhile isWordChar
  if text = "true".toList then some (.boolean true, rest)
  else if text = "false".toList then some (.boolean false, rest)
  else if afterDate? text = some [] then
    match rest with
    | ' ' :: more =>
      let time := more.takeWhile isWordChar
      if isMoment (text ++ ' ' :: time) then some (.other, more.dropWhile isWordChar)
      else some (.other, rest)
    | _ => some (.other, rest)
  else if isMoment text then some (.other, rest)
  else (number? text).map fun value => (value, rest)

/-! ### Values -/

/-- The items of an array after its opening bracket. A comma may follow the last one. -/
def items (value : Reader Toml) : (fuel : Nat) → Reader (List Toml)
  | 0, _ => none
  | fuel + 1, cs =>
    match skipLines cs.length cs with
    | ']' :: rest => some ([], rest)
    | cs => do
      let (item, rest) ← value cs
      match skipLines rest.length rest with
      | ',' :: rest =>
        let (more, rest) ← items value fuel rest
        return (item :: more, rest)
      | ']' :: rest => return ([item], rest)
      | _ => none

/-- A key, an equals sign and a value, with the space around them. -/
def pair (value : Reader Toml) : Reader Pair := fun cs => do
  let ((path, key), rest) ← key cs
  let (value, rest) ← value (skipSpace (← skip '=' rest))
  return (⟨path, key, value⟩, skipSpace rest)

def pairs (value : Reader Toml) : (fuel : Nat) → Reader (List Pair)
  | 0, _ => none
  | fuel + 1, cs => do
    let (first, rest) ← pair value cs
    match rest with
    | ',' :: rest =>
      let (more, rest) ← pairs value fuel rest
      return (first :: more, rest)
    | '\x7d' :: rest => return ([first], rest)
    | _ => none

/-- A value in which tables and arrays nest at most as deep as the fuel says. -/
def value : (fuel : Nat) → Reader Toml
  | fuel, cs =>
    match cs with
    | '"' :: rest => (stringValue '"' rest).map fun (s, rest) => (.string s, rest)
    | '\'' :: rest => (stringValue '\'' rest).map fun (s, rest) => (.string s, rest)
    | '[' :: rest =>
      match fuel with
      | 0 => none
      | fuel + 1 =>
        (items (value fuel) (rest.length + 1) rest).map fun (items, rest) => (.array items, rest)
    | '\x7b' :: rest =>
      match fuel with
      | 0 => none
      | fuel + 1 =>
        match skipSpace rest with
        | '\x7d' :: rest => some (.table .inline [], rest)
        | rest => do
          let (pairs, rest) ← pairs (value fuel) (rest.length + 1) rest
          return (.table .inline (← Entries.placeAll [] pairs), rest)
    | cs => word cs

/-! ### Documents -/

def header (cs : List Char) : Option (Section × List Char) :=
  match cs with
  | '[' :: cs => do
    let ((path, key), rest) ← key cs
    let rest ← skip ']' (← skip ']' rest)
    return (⟨true, path, key, []⟩, rest)
  | cs => do
    let ((path, key), rest) ← key cs
    return (⟨false, path, key, []⟩, ← skip ']' rest)

/-- The pairs before the first header and the sections of the headers. -/
def document : (fuel : Nat) → List Char → Option (List Pair × List Section)
  | 0, _ => none
  | fuel + 1, cs =>
    match skipSpace cs with
    | [] => some ([], [])
    | '[' :: rest => do
      let (head, rest) ← header rest
      let (pairs, sections) ← document fuel (← endOfLine? rest)
      return ([], { head with pairs := pairs } :: sections)
    | '#' :: rest => do document fuel (← endOfLine? ('#' :: rest))
    | '\n' :: rest => document fuel rest
    | '\r' :: rest => do document fuel (← afterNewline? ('\r' :: rest))
    | cs => do
      let (pair, rest) ← pair (value 79) cs
      let (pairs, sections) ← document fuel (← endOfLine? rest)
      return (pair :: pairs, sections)

/-- The table that a text spells. A byte order mark in front does not count. -/
def parse? (text : String) : Option Entries := do
  let cs := match text.toList with
    | '\ufeff' :: rest => rest
    | cs => cs
  let (pairs, sections) ← document (cs.length + 1) cs
  let root ← Entries.placeAll [] pairs
  sections.foldlM (fun root s => s.addTo root) root

end TopicWire.Toml
