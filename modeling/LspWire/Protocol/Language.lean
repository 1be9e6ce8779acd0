import LspWire.Protocol.Document

/-! Hovers, definitions and diagnostics. -/

namespace LspWire.Protocol

open Schema (recordOf camelRecordOf unionOf required optional shape)

def hoverParams : Schema := camelRecordOf "HoverParams"
  [required "text_document" "textDocument" textDocumentIdentifier,
   required "position" "position" position,
   optional "work_done_token" "workDoneToken" .numberOrString]

def definitionParams : Schema := camelRecordOf "DefinitionParams"
  [required "text_document" "textDocument" textDocumentIdentifier,
   required "position" "position" position,
   optional "work_done_token" "workDoneToken" .numberOrString,
   optional "partial_result_token" "partialResultToken" .numberOrString]

def markupContent : Schema := recordOf "MarkupContent"
  [required "kind" "kind" (.wordEnum markupKind),
   required "value" "value" .string]

def markedStringWithLanguage : Schema := recordOf "MarkedStringWithLanguage"
  [required "language" "language" .string,
   required "value" "value" .string]

def markedString : Schema := unionOf "MarkedString"
  [shape "string" "String" .string,
   shape "MarkedStringWithLanguage" "LanguageString" markedStringWithLanguage]

def hoverContents : Schema := unionOf "HoverContents"
  [shape "MarkupContent" "Markup" markupContent, shape "MarkedString" "Scalar" markedString,
   shape "MarkedString[]" "Array" (.list markedString)]

def hover : Schema :=
  recordOf "Hover" [required "contents" "contents" hoverContents, optional "range" "range" range]

def definition : Schema := unionOf "Definition"
  [shape "Location" "Scalar" location, shape "Location[]" "Array" (.list location)]

def definitionResult : Schema := unionOf "DefinitionResult"
  [shape "Definition" "Definition" definition,
   shape "DefinitionLink[]" "Links" (.list locationLink)]

def codeDescription : Schema := recordOf "CodeDescription" [required "href" "href" .string]

def diagnosticRelatedInformation : Schema := recordOf "DiagnosticRelatedInformation"
  [required "location" "location" location,
   required "message" "message" .string]

def diagnostic : Schema := camelRecordOf "Diagnostic"
  [required "range" "range" range,
   optional "severity" "severity" (.integerEnum diagnosticSeverity),
   optional "code" "code" .numberOrString,
   optional "code_description" "codeDescription" codeDescription,
   optional "source" "source" .string,
   required "message" "message" .string,
   optional "tags" "tags" (.list (.integerEnum diagnosticTag)),
   optional "related_information" "relatedInformation" (.list diagnosticRelatedInformation),
   optional "data" "data" .any]

def publishDiagnosticsParams : Schema := recordOf "PublishDiagnosticsParams"
  [required "uri" "uri" .string,
   optional "version" "version" .integer,
   required "diagnostics" "diagnostics" (.list diagnostic)]

end LspWire.Protocol
