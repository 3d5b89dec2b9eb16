import TopicWire.Wire.Decode

/-!
# Chunks

A chunk is what was captured from a connection: a header, a message frame, or both. A chunk whose
first length leaves bytes over starts with a header; else the text `type=` inside tells a lone
header from a message frame.
-/

namespace TopicWire

def headerMark : Bytes :=
  [0x74, 0x79, 0x70, 0x65, 0x3d]

/-- Whether some bytes occur in others one after the other. -/
def occursIn (pattern : Bytes) : Bytes → Bool
  | [] => pattern.isEmpty
  | b :: bs => pattern.isPrefixOf (b :: bs) || occursIn pattern bs

namespace MessageType

/-- The first message of a chunk; nothing for a lone header. Bytes after the message do not
matter if a header is in front of it. -/
def decodeChunk (type : MessageType) (chunk : Bytes) : Except WireError (Option Message) := do
  let (first, rest) ← Decoder.run (do return (← Decoder.word 4, (← get).rest)) chunk
  if first < rest.length then
    let body ← Decoder.run (do
      let _ ← Decoder.word 4
      let _ ← Decoder.take first
      let length ← Decoder.word 4
      Decoder.take length) chunk
    return some (← type.decodeBody body)
  else if occursIn headerMark rest then return none
  else return some (← type.decode chunk)

end MessageType

end TopicWire
