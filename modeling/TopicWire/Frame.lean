import TopicWire.Header.Wire
import TopicWire.Wire.Decode
import TopicWire.Wire.Encode

/-!
# Frames on a stream

A stream hands out its bytes in pieces of any size. A frame is read from it by filling four bytes
with the length and then as many bytes as that says. The pieces do not matter to the result.
-/

namespace TopicWire

inductive Piece where
  | bytes (bs : Bytes)
  | failure (cause : String)
deriving DecidableEq

/-- What a stream will hand out, in order, before it ends. -/
abbrev Stream := List Piece

namespace Stream

def unread (s : Stream) : Nat :=
  (s.map fun
    | .bytes bs => bs.length
    | .failure _ => 0).foldl (· + ·) 0

/-- What came of reading a number of bytes. -/
inductive Filled where
  | full (bs : Bytes)
  | short (bs : Bytes)
  | failed (cause : String)
deriving DecidableEq

/-- Puts bytes that were read earlier in front. -/
def Filled.prepend (earlier : Bytes) : Filled → Filled
  | .full bs => .full (earlier ++ bs)
  | .short bs => .short (earlier ++ bs)
  | .failed cause => .failed cause

/-- Reads `count` bytes piece by piece. Nothing is read for no bytes, and a piece without bytes is
taken for the end. -/
def fill : (count : Nat) → Stream → Filled × Stream
  | 0, s => (.full [], s)
  | _, [] => (.short [], [])
  | _, .failure cause :: rest => (.failed cause, rest)
  | count, .bytes bs :: rest =>
    if bs.isEmpty then (.short [], rest)
    else if count < bs.length then (.full (bs.take count), .bytes (bs.drop count) :: rest)
    else
      let (filled, rest) := fill (count - bs.length) rest
      (filled.prepend bs, rest)

end Stream

namespace Frame

/-- The longest frame that a connection takes, 64 MiB. -/
def maxSize : Nat := 64 * 1024 * 1024

/-- Reads one frame and gives its payload; nothing if the stream ends before it. -/
def read (max : Nat) (s : Stream) : Except LinkError (Option Bytes) × Stream :=
  match s.fill 4 with
  | (.failed cause, s) => (.error (.failed cause), s)
  | (.short [], s) => (.ok none, s)
  | (.short bs, s) => (.error (.incompleteFrame 4 bs.length), s)
  | (.full bs, s) =>
    let size := Bytes.ofLittleEndian bs
    if max < size then (.error (.frameTooLarge size max), s)
    else match s.fill size with
      | (.failed cause, s) => (.error (.failed cause), s)
      | (.short bs, s) => (.error (.incompleteFrame size bs.length), s)
      | (.full bs, s) => (.ok (some bs), s)

def headerOf : Option Bytes → Except LinkError Header
  | some body => Header.decodeFields body
  | none => .error (.malformedHeader .closed)

def messageOf (type : MessageType) : Option Bytes → Except LinkError (Option Message)
  | some body =>
    match type.decodeBody body with
    | .ok m => .ok (some m)
    | .error e => .error (.wire e)
  | none => .ok none

def readHeader (max : Nat) (s : Stream) : Except LinkError Header × Stream :=
  let (frame, s) := read max s
  (frame >>= headerOf, s)

/-- Reads a frame as a message; nothing if the stream ends before it. -/
def readMessage (max : Nat) (type : MessageType) (s : Stream) :
    Except LinkError (Option Message) × Stream :=
  let (frame, s) := read max s
  (frame >>= messageOf type, s)

def writeHeader (written : Bytes) (h : Header) : Bytes :=
  written ++ h.encode

/-- Writes a message behind the bytes that were written before; one that does not encode writes
nothing. -/
def writeMessage (written : Bytes) (type : MessageType) (m : Message) :
    Bytes × Except LinkError Unit :=
  match type.encode m with
  | .ok frame => (written ++ frame, .ok ())
  | .error e => (written, .error (.wire e))

end Frame

end TopicWire
