import TopicWire.Bytes
import TopicWire.Header
import TopicWire.Header.Error
import TopicWire.Number.Literal
import TopicWire.Text.Blank
import TopicWire.Text.Cut

/-!
# Connection headers as bytes

A header is a list of entries `key=value` with the total length in front, and each entry has its
length in front. Reading goes through the entries from left to right: the last one of a key counts,
and entries with an unknown key or without an equals sign are passed over.
-/

namespace TopicWire.Header

/-- The parts that are there under their keys, in the order in which they are written. -/
def entries (h : Header) : List (String × String) :=
  [("callerid", h.callerId), ("topic", h.topic), ("type", h.typeId), ("md5sum", h.digest),
    ("message_definition", h.definition), ("latching", h.latching.map fun n => toString n.toInt)].filterMap
    fun (key, value) => value.map fun value => (key, value)

def entryBytes (entry : String × String) : Bytes :=
  let bytes := Bytes.ofText entry.1 ++ 61 :: Bytes.ofText entry.2
  Bytes.littleEndian 4 bytes.length ++ bytes

def encodeFields (h : Header) : Bytes :=
  h.entries.flatMap entryBytes

def encode (h : Header) : Bytes :=
  Bytes.littleEndian 4 h.encodeFields.length ++ h.encodeFields

/-- Divides bytes at `offset` into entries, up to the end or up to one that is cut off. -/
def splitEntries (offset : Nat) : Bytes → List Bytes × Option WireError
  | [] => ([], none)
  | a :: b :: c :: d :: rest =>
    let length := Bytes.ofLittleEndian [a, b, c, d]
    if length ≤ rest.length then
      let (others, fault) := splitEntries (offset + 4 + length) (rest.drop length)
      (rest.take length :: others, fault)
    else ([], some (.truncated length rest.length (offset + 4)))
  | short => ([], some (.truncated 4 short.length offset))
termination_by bs => bs.length
decreasing_by simp only [List.length_drop, List.length_cons]; omega

/-- The integer of a latching entry, which may have blanks around it. -/
def latching? (value : List Char) : Option Int64 :=
  match Number.integer? (Text.trim value) with
  | some n =>
    if -0x8000000000000000 ≤ n ∧ n ≤ 0x7FFFFFFFFFFFFFFF then some (Int64.ofInt n) else none
  | none => none

def store (h : Header) (key value : List Char) : Except LinkError Header :=
  let text := String.ofList value
  match String.ofList key with
  | "callerid" => .ok { h with callerId := some text }
  | "topic" => .ok { h with topic := some text }
  | "type" => .ok { h with typeId := some text }
  | "md5sum" => .ok { h with digest := some text }
  | "message_definition" => .ok { h with definition := some text }
  | "latching" =>
    match latching? value with
    | some n => .ok { h with latching := some n }
    | none => .error (.invalidValue "latching" text)
  | _ => .ok h

def readEntry (h : Header) (entry : Bytes) : Except LinkError Header :=
  match Bytes.text? entry with
  | none => .error (.malformedHeader .notUtf8)
  | some text =>
    match Text.cut (· == '=') text.toList with
    | none => .ok h
    | some (key, value) => h.store key value

def decodeFields (body : Bytes) : Except LinkError Header := do
  let (entries, fault) := splitEntries 0 body
  let header ← entries.foldlM readEntry {}
  match fault with
  | some cause => throw (.malformedHeader (.cutOff cause))
  | none => return header

/-- The header whose bytes these are, with the total length in front. -/
def decode (frame : Bytes) : Except LinkError Header :=
  match frame with
  | a :: b :: c :: d :: body =>
    let declared := Bytes.ofLittleEndian [a, b, c, d]
    if declared = body.length then decodeFields body
    else .error (.malformedHeader (.lengthMismatch declared body.length))
  | short => .error (.malformedHeader (.cutOff (.truncated 4 short.length 0)))

end TopicWire.Header
