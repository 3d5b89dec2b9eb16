import TopicWire.Bytes
import TopicWire.Wire.Error

/-!
# Reading bytes

A `Cursor` stands between the bytes that are read and those that remain. A `Decoder` moves it, also
when it fails: what was consumed before the failure stays consumed.
-/

namespace TopicWire

/-- A place in a sequence of bytes. -/
structure Cursor where
  position : Nat
  rest : Bytes
deriving DecidableEq

namespace Cursor

def start (bytes : Bytes) : Cursor :=
  ⟨0, bytes⟩

def remaining (c : Cursor) : Nat :=
  c.rest.length

end Cursor

/-- A step that reads from a cursor. -/
abbrev Decoder := EStateM WireError Cursor

namespace Decoder

/-- Consumes `n` bytes, or nothing if there are fewer. -/
def take (n : Nat) : Decoder Bytes := fun c =>
  if n ≤ c.remaining then .ok (c.rest.take n) ⟨c.position + n, c.rest.drop n⟩
  else .error (.truncated n c.remaining c.position) c

/-- Reads a little-endian number of `width` bytes. -/
def word (width : Nat) : Decoder Nat := do
  let bytes ← take width
  return Bytes.ofLittleEndian bytes

def remaining : Decoder Nat := do
  return (← get).remaining

/-- Runs a decoder over all of some bytes, from the first one on. -/
def run (decoder : Decoder α) (bytes : Bytes) : Except WireError α :=
  match decoder (.start bytes) with
  | .ok a _ => .ok a
  | .error e _ => .error e

end Decoder

end TopicWire
