import TopicWire.Catalog.Slot
import TopicWire.Loader.Tasks
import TopicWire.Main
import TopicWire.Session.Exchange
import TopicWire.Session.Mailbox
import TopicWire.MessageType.Override
import TopicWire.Proofs.Catalog.Slot
import TopicWire.Proofs.Frame.Writing
import TopicWire.Proofs.Header.Agreement
import TopicWire.Proofs.Loader.Closure
import TopicWire.Proofs.Loader.References
import TopicWire.Proofs.Loader.Waiting
import TopicWire.Proofs.Session.Closing
import TopicWire.Proofs.Session.EndToEnd
import TopicWire.Proofs.Session.Fifo
import TopicWire.Proofs.Session.Reconnecting
import TopicWire.Proofs.Wire.CountGuard
import TopicWire.Proofs.Session.Bookkeeping
import TopicWire.Proofs.Session.Hooks
import TopicWire.Proofs.Session.Lines
import TopicWire.Proofs.Session.Rounds
import TopicWire.Proofs.Session.Sessions
import TopicWire.Proofs.Frame.Chunk
import TopicWire.Proofs.Wire.Delimited
import TopicWire.Proofs.Json.Message
import TopicWire.Proofs.Session.Default
import TopicWire.Proofs.Header.Grammar
import TopicWire.Proofs.Header.Received
import TopicWire.Proofs.Json.Coverage
import TopicWire.Proofs.Wire.Validation
import TopicWire.Proofs.Session.EachFrame
import TopicWire.Proofs.Session.FanOut
import TopicWire.Proofs.Session.Mailbox
import TopicWire.Proofs.Session.Registrations
import TopicWire.Proofs.MessageType.Acceptance
import TopicWire.Proofs.MessageType.Compiling
import TopicWire.Proofs.MessageType.Overrides
import TopicWire.Proofs.Loader.Preloading
import TopicWire.Proofs.Schema.Canonical
import TopicWire.Proofs.Value.Narrowing
import TopicWire.Proofs.Session.PortSearch
import TopicWire.Proofs.Command.Echoing
import TopicWire.Proofs.Command.Publishing
import TopicWire.Proofs.Wire.Acts
import TopicWire.Proofs.Wire.Calls
