import TopicWire.Command.Error
import TopicWire.Frame.Chunk
import TopicWire.Header.Wire
import TopicWire.Json.Message
import TopicWire.Json.Write

/-!
# Decoding a captured chunk

The text of the message in a chunk, or of the header if the chunk holds nothing else.
-/

namespace TopicWire

def Header.toJson (h : Header) : Json :=
  let texts := [("callerid", h.callerId), ("topic", h.topic), ("type", h.typeId),
    ("md5sum", h.digest), ("message_definition", h.definition)]
  let members := texts.filterMap fun (key, text) => text.map fun text => (key, Json.string text)
  let latching := match h.latching with
    | some n => [("latching", Json.integer n.toInt)]
    | none => []
  .object (Keyed.ofList (members ++ latching))

/-- The content of a chunk as JSON on several lines. -/
def MessageType.renderChunk (type : MessageType) (chunk : Bytes) : Except CommandError String :=
  match type.decodeChunk chunk with
  | .error e => .error (.link (.wire e))
  | .ok (some m) => .ok m.toJson.pretty
  | .ok none =>
    match Header.decode chunk with
    | .error e => .error (.link e)
    | .ok h => .ok (Json.object [("header", h.toJson)]).pretty

end TopicWire
