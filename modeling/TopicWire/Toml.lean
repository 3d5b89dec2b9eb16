/-!
# TOML

Tables of settings. A table remembers how it came to be, because that decides what may still be
added to it: a table with a header and an inline table are complete, a table that was only named on
the way to another can get its header later, and one that was made by a dotted key grows by further
dotted keys. `Toml.Entries.place` adds a value under a dotted key and `Toml.Entries.within` reaches
the table of a header.
-/

namespace TopicWire

/-- How a table came to be. -/
inductive TableOrigin where
  | header
  | implied
  /-- It was named in a dotted key. -/
  | dotted
  | inline
deriving DecidableEq, Repr

inductive Toml where
  | string (s : String)
  | integer (n : Int)
  | boolean (b : Bool)
  /-- A fractional number, a date or a time. No setting has such a value. -/
  | other
  | array (items : List Toml)
  | table (origin : TableOrigin) (entries : List (String × Toml))
  /-- The tables of repeated headers. -/
  | tables (items : List Toml)

namespace Toml

abbrev Entries := List (String × Toml)

namespace Entries

def put (entries : Entries) (key : String) (value : Toml) : Option Entries :=
  if (entries.lookup key).isSome then none else some (entries ++ [(key, value)])

def change (entries : Entries) (key : String) (value : Toml) : Entries :=
  entries.map fun (k, v) => if k = key then (k, value) else (k, v)

/-- Makes the tables of a dotted key. -/
def chain (key : String) (value : Toml) : List String → Entries
  | [] => [(key, value)]
  | k :: path => [(k, .table .dotted (chain key value path))]

/-- Adds a value under a dotted key, which is divided into its last part and the path before. -/
def place (key : String) (value : Toml) : List String → Entries → Option Entries
  | [], entries => entries.put key value
  | k :: path, entries =>
    match entries.lookup k with
    | none => some (entries ++ [(k, .table .dotted (chain key value path))])
    | some (.table origin inner) =>
      if origin = .header ∨ origin = .inline ∨ (path = [] ∧ origin ≠ .dotted) then none
      else (place key value path inner).map fun inner => entries.change k (.table origin inner)
    | some (.tables items) =>
      match path, items.getLast? with
      | _ :: _, some (.table origin inner) =>
        (place key value path inner).map fun inner =>
          entries.change k (.tables (items.dropLast ++ [.table origin inner]))
      | _, _ => none
    | some _ => none

/-- Changes the table under a path of a header, and makes the tables on the way that are missing. Of
repeated tables the last one is meant. -/
def within (f : Entries → Option Entries) : List String → Entries → Option Entries
  | [], entries => f entries
  | k :: path, entries =>
    match entries.lookup k with
    | none => (within f path []).map fun inner => entries ++ [(k, .table .implied inner)]
    | some (.table origin inner) =>
      if origin = .inline then none
      else (within f path inner).map fun inner => entries.change k (.table origin inner)
    | some (.tables items) =>
      match items.getLast? with
      | some (.table origin inner) =>
        (within f path inner).map fun inner =>
          entries.change k (.tables (items.dropLast ++ [.table origin inner]))
      | _ => none
    | some _ => none

end Entries

/-- A key with a value: the path before the last part of the key, that part, and the value. -/
structure Pair where
  path : List String
  key : String
  value : Toml

def Entries.placeAll (entries : Entries) (pairs : List Pair) : Option Entries :=
  pairs.foldlM (fun entries pair => entries.place pair.key pair.value pair.path) entries

/-- A header and what follows it up to the next header. -/
structure Section where
  /-- The header is in double brackets. -/
  repeated : Bool
  path : List String
  key : String
  pairs : List Pair

def Section.addTo (s : Section) (root : Entries) : Option Entries :=
  let add (parent : Entries) : Option Entries :=
    match parent.lookup s.key, s.repeated with
    | none, true => do
      return parent ++ [(s.key, .tables [.table .header (← Entries.placeAll [] s.pairs)])]
    | some (.tables items), true => do
      let item := .table .header (← Entries.placeAll [] s.pairs)
      return parent.change s.key (.tables (items ++ [item]))
    | none, false => do
      return parent ++ [(s.key, .table .header (← Entries.placeAll [] s.pairs))]
    | some (.table .implied inner), false => do
      return parent.change s.key (.table .header (← Entries.placeAll inner s.pairs))
    | _, _ => none
  Entries.within add s.path root

end Toml

end TopicWire
