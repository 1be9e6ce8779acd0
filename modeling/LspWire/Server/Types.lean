import LspWire.Json.Basic
import LspWire.Uri.Parser

/-! Places and edits as a language server holds them.
Lines and characters are any words of 32 bits, and a document is named by an address in its parts.
Each type has its own document. -/

namespace LspWire.Server

structure Position where
  line : UInt32
  character : UInt32
deriving DecidableEq

structure Range where
  start : Position
  stop : Position
deriving DecidableEq

structure Location where
  uri : Uri
  range : Range
deriving DecidableEq

structure TextEdit where
  range : Range
  newText : String
deriving DecidableEq

inductive DiagnosticSeverity where
  | error
  | warning
  | information
  | hint
deriving DecidableEq

def DiagnosticSeverity.value : DiagnosticSeverity → Nat
  | error => 1
  | warning => 2
  | information => 3
  | hint => 4

def word (n : UInt32) : Json := .number (.integer n.toNat)

def Position.toJson (p : Position) : Json :=
  .object [("character", word p.character), ("line", word p.line)]

def Range.toJson (r : Range) : Json := .object [("end", r.stop.toJson), ("start", r.start.toJson)]

def Location.toJson (l : Location) : Json :=
  .object [("range", l.range.toJson), ("uri", .string l.uri.text)]

def TextEdit.toJson (e : TextEdit) : Json :=
  .object [("newText", .string e.newText), ("range", e.range.toJson)]

def DiagnosticSeverity.toJson (s : DiagnosticSeverity) : Json := .number (.integer s.value)

end LspWire.Server
