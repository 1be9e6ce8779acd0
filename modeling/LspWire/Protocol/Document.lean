import LspWire.Protocol.Enumeration
import LspWire.Schema.Field

/-! Text documents: places in them, how they are named, and the messages that keep their content in
step. -/

namespace LspWire.Protocol

open Schema (recordOf camelRecordOf unionOf required optional orNull shape)

def position : Schema :=
  recordOf "Position" [required "line" "line" .uinteger, required "character" "character" .uinteger]

def range : Schema :=
  recordOf "Range" [required "start" "start" position, required "end" "end" position]

def offsetRange : Schema :=
  recordOf "OffsetRange" [required "start" "start" .integer, required "end" "end" .integer]

def location : Schema :=
  recordOf "Location" [required "uri" "uri" .string, required "range" "range" range]

def locationLink : Schema := camelRecordOf "LocationLink"
  [optional "origin_selection_range" "originSelectionRange" range,
   required "target_uri" "targetUri" .string,
   required "target_range" "targetRange" range,
   required "target_selection_range" "targetSelectionRange" range]

def textDocumentIdentifier : Schema :=
  recordOf "TextDocumentIdentifier" [required "uri" "uri" .string]

def versionedTextDocumentIdentifier : Schema := recordOf "VersionedTextDocumentIdentifier"
  [required "uri" "uri" .string,
   required "version" "version" .integer]

def optionalVersionedTextDocumentIdentifier : Schema :=
  recordOf "OptionalVersionedTextDocumentIdentifier"
    [required "uri" "uri" .string, orNull "version" "version" .integer]

def textDocumentItem : Schema := camelRecordOf "TextDocumentItem"
  [required "uri" "uri" .string,
   required "language_id" "languageId" (.openEnum languageKind),
   required "version" "version" .integer,
   required "text" "text" .string]

def didOpenTextDocumentParams : Schema := camelRecordOf "DidOpenTextDocumentParams"
  [required "text_document" "textDocument" textDocumentItem]

def textDocumentContentChangePartial : Schema := camelRecordOf "TextDocumentContentChangePartial"
  [required "range" "range" range,
   optional "range_length" "rangeLength" .uinteger,
   required "text" "text" .string]

def textDocumentContentChangeWholeDocument : Schema :=
  recordOf "TextDocumentContentChangeWholeDocument" [required "text" "text" .string]

def textDocumentContentChangeEvent : Schema := unionOf "TextDocumentContentChangeEvent"
  [shape "TextDocumentContentChangePartial" "Partial" textDocumentContentChangePartial,
   shape "TextDocumentContentChangeWholeDocument" "WholeDocument"
     textDocumentContentChangeWholeDocument]

def didChangeTextDocumentParams : Schema := camelRecordOf "DidChangeTextDocumentParams"
  [required "text_document" "textDocument" versionedTextDocumentIdentifier,
   required "content_changes" "contentChanges" (.list textDocumentContentChangeEvent)]

def didCloseTextDocumentParams : Schema := camelRecordOf "DidCloseTextDocumentParams"
  [required "text_document" "textDocument" textDocumentIdentifier]

def didSaveTextDocumentParams : Schema := camelRecordOf "DidSaveTextDocumentParams"
  [required "text_document" "textDocument" textDocumentIdentifier,
   optional "text" "text" .string]

end LspWire.Protocol
