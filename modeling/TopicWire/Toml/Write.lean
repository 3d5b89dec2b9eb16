import TopicWire.Text.Hex
import TopicWire.Toml

/-!
# Writing TOML

A document with the plain values of a table first and its tables after them, each under a header. A
string is written in the first of these forms that can hold it: between double quotes without an
escape, between single quotes, between three double quotes without an escape, between three single
quotes; else with escapes.
-/

namespace TopicWire.Toml

def longestRun (c : Char) (cs : List Char) : Nat :=
  (cs.foldl (fun (longest, current) d =>
    if d = c then (max longest (current + 1), current + 1) else (longest, 0)) (0, 0)).1

/-- Cannot stand in a string without an escape. -/
def needsCode (c : Char) : Bool :=
  (c < ' ' && c != '\t' && c != '\n') || c == '\x7f'

def escapeChar (c : Char) : List Char :=
  if c = '\x08' then ['\\', 'b']
  else if c = '\t' then ['\\', 't']
  else if c = '\n' then ['\\', 'n']
  else if c = '\x0c' then ['\\', 'f']
  else if c = '\r' then ['\\', 'r']
  else if c = '"' then ['\\', '"']
  else if c = '\\' then ['\\', '\\']
  else if needsCode c then
    let digits := [c.toNat / 16, c.toNat % 16].map fun n => (Text.Hex.digit n).toUpper
    ['\\', 'u', '0', '0'] ++ digits
  else [c]

/-- The characters of a block between three double quotes: ends of lines stay, and of a run of
quotes every third one is escaped. -/
def escapeBlock : (quotes : Nat) → List Char → List Char
  | _, [] => []
  | quotes, c :: cs =>
    if c = '"' then
      if quotes < 2 then c :: escapeBlock (quotes + 1) cs else '\\' :: c :: escapeBlock 0 cs
    else if c = '\n' then c :: escapeBlock 0 cs
    else escapeChar c ++ escapeBlock 0 cs

/-- A string in the first form that can hold it. -/
def quoted (s : String) : String :=
  let cs := s.toList
  let coded := cs.any needsCode
  let escapes := coded || cs.contains '\\'
  let lines := cs.contains '\n'
  let start := if lines then ['\n'] else []
  let block (content : List Char) (quote : List Char) : List Char :=
    quote ++ start ++ content ++ quote
  let doubles := ['"', '"', '"']
  let singles := ['\'', '\'', '\'']
  String.ofList <|
    if !escapes && !lines && longestRun '"' cs = 0 then
      '"' :: cs.flatMap escapeChar ++ ['"']
    else if !coded && !lines && longestRun '\'' cs = 0 then '\'' :: cs ++ ['\'']
    else if !escapes && longestRun '"' cs ≤ 2 then block (escapeBlock 0 cs) doubles
    else if !coded && longestRun '\'' cs ≤ 2 then block cs singles
    else if lines then block (escapeBlock 0 cs) doubles
    else '"' :: cs.flatMap escapeChar ++ ['"']

/-- A plain value. An array of more than one item has a line for each. -/
def plainText : Toml → String
  | .string s => quoted s
  | .integer n => toString n
  | .boolean b => if b then "true" else "false"
  | .array [] => "[]"
  | .array [.string s] => s!"[{quoted s}]"
  | .array items =>
    let lines := items.map fun item => match item with
      | .string s => s!"    {quoted s},\n"
      | _ => ""
    s!"[\n{String.join lines}]"
  | _ => ""

def pairLines (entries : Entries) : String :=
  String.join (entries.map fun (key, value) => s!"{key} = {plainText value}\n")

/-- A document of plain values and tables of plain values. The keys are written as they are. -/
def documentText (plain : Entries) (tables : List (String × Entries)) : String :=
  pairLines plain ++
    String.join (tables.map fun (key, entries) => s!"\n[{key}]\n{pairLines entries}")

end TopicWire.Toml
