import TopicWire.MessageType.Compile

/-!
# Showing a message type

The text that describes a type: its id, its digest and its fields with their kinds. A field whose
accessor is not its name has an arrow before the accessor.
-/

namespace TopicWire

def Field.summary (f : Field) : String :=
  let literal := match f.line.literal with
    | some literal => s!" = {literal}"
    | none => ""
  let accessor := if f.accessor = f.line.name then "" else s!" -> {f.accessor}"
  s!"  {f.kindText} {f.line.name}{literal}{accessor}\n"

def MessageType.summary (type : MessageType) : String :=
  s!"type:      {type.id}\nmd5sum:    {type.digest}\nvalidator: {type.validatorName}\nfields:\n" ++
    String.join (type.fields.map Field.summary)

end TopicWire
