import LspWire.Protocol.Edit
import LspWire.Schema.Encode
import LspWire.Server.Types

/-! Values of the protocol and those a server holds.
Positions and ranges are taken over as they are. A document's name becomes an address, which it may
fail to be, and an address becomes its text. -/

namespace LspWire

namespace Server

structure InvalidUri where
  uri : String
  fault : Uri.Fault
deriving DecidableEq

def InvalidUri.message (e : InvalidUri) : String :=
  "Invalid document URI " ++ e.uri ++ ": " ++ e.fault.message

def Position.ofProtocol (p : Protocol.position.Val) : Position := ⟨p.1, p.2.1⟩

def Position.toProtocol (p : Position) : Protocol.position.Val := (p.line, p.character, ())

def Range.ofProtocol (r : Protocol.range.Val) : Range :=
  ⟨Position.ofProtocol r.1, Position.ofProtocol r.2.1⟩

def Range.toProtocol (r : Range) : Protocol.range.Val :=
  (r.start.toProtocol, r.stop.toProtocol, ())

def Location.ofProtocol (l : Protocol.location.Val) : Except InvalidUri Location :=
  match Uri.parse l.1 with
  | .ok uri => .ok ⟨uri, Range.ofProtocol l.2.1⟩
  | .error fault => .error ⟨l.1, fault⟩

def Location.toProtocol (l : Location) : Protocol.location.Val :=
  (l.uri.text, l.range.toProtocol, ())

def TextEdit.ofProtocol (e : Protocol.textEdit.Val) : TextEdit := ⟨Range.ofProtocol e.1, e.2.1⟩

def DiagnosticSeverity.ofProtocol
    (s : Fin Protocol.diagnosticSeverity.members.length) : DiagnosticSeverity :=
  match s with
  | ⟨0, _⟩ => .error
  | ⟨1, _⟩ => .warning
  | ⟨2, _⟩ => .information
  | ⟨_ + 3, _⟩ => .hint

end Server

end LspWire
