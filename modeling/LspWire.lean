import LspWire.Main
import LspWire.Registry.Methods
import LspWire.Server.Convert
import LspWire.Proofs.MethodDispatch
import LspWire.Proofs.LosslessMessage
import LspWire.Proofs.RoundTrip
import LspWire.Proofs.RelaxedReading
import LspWire.Proofs.DeclaredKey
import LspWire.Proofs.UnknownKey
import LspWire.Proofs.PayloadError
import LspWire.Proofs.ValidEnvelope
import LspWire.Proofs.ExactRun
import LspWire.Conformance.Schedule
import LspWire.Proofs.DeclaredPart
import LspWire.Proofs.ScheduledRun
import LspWire.Proofs.UnionOrder
import LspWire.Proofs.FilePath
import LspWire.Proofs.ListedFile
import LspWire.Proofs.ReaderCalls
import LspWire.Proofs.EnvelopeVerdict
import LspWire.Proofs.MarkedUnion
import LspWire.Proofs.VerdictAccount
import LspWire.Proofs.ExactInteger
import LspWire.Proofs.FixtureSpelling
import LspWire.Proofs.UnsetKey
import LspWire.Proofs.SettingPrecedence
import LspWire.Proofs.FirstRefusal
import LspWire.Proofs.PathText
import LspWire.Proofs.ServerValue
