import TopicWire.Text.Blank

/-!
# Names of nodes and topics

A name starts with a slash; blanks around it do not belong to it.
-/

namespace TopicWire

/-- The name without blanks around it and with a slash in front. -/
def normalizedName (name : String) : String :=
  match Text.trim name.toList with
  | '/' :: rest => String.ofList ('/' :: rest)
  | other => String.ofList ('/' :: other)

end TopicWire
