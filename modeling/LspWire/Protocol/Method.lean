import LspWire.Envelope.Exchange
import LspWire.Protocol.Edit
import LspWire.Protocol.Language
import LspWire.Protocol.Window

/-! The requests and notifications of the protocol.
The names of their message types come from a stem. -/

namespace LspWire

structure Request where
  stem : String
  method : String
  params : Schema
  result : Schema

namespace Request

def requestType (r : Request) : String := r.stem ++ "Request"

def responseType (r : Request) : String := r.stem ++ "Response"

def codec (r : Request) : Codec (RequestMessage r.params.Val) :=
  RequestMessage.codec r.requestType r.method r.params.codec

def responseCodec (r : Request) : Codec (ResponseMessage r.result.Val) :=
  ResponseMessage.codec r.responseType r.result.codec

end Request

structure Notification where
  stem : String
  method : String
  params : Schema

namespace Notification

def typeName (n : Notification) : String := n.stem ++ "Notification"

def codec (n : Notification) : Codec (NotificationMessage n.params.Val) :=
  NotificationMessage.codec n.typeName n.method n.params.codec

end Notification

namespace Protocol

def applyWorkspaceEdit : Request :=
  ⟨"ApplyWorkspaceEdit", "workspace/applyEdit", applyWorkspaceEditParams, applyWorkspaceEditResult⟩

def hoverRequest : Request := ⟨"Hover", "textDocument/hover", hoverParams, .nullable hover⟩

def gotoDefinition : Request :=
  ⟨"Definition", "textDocument/definition", definitionParams, .nullable definitionResult⟩

def showMessageRequest : Request :=
  ⟨"ShowMessage", "window/showMessageRequest", showMessageRequestParams,
    .nullable messageActionItem⟩

def workDoneProgressCreate : Request :=
  ⟨"WorkDoneProgressCreate", "window/workDoneProgress/create", workDoneProgressCreateParams, .null⟩

def workspaceConfiguration : Request :=
  ⟨"Configuration", "workspace/configuration", configurationParams, .list .any⟩

def codeLensRefresh : Request :=
  ⟨"CodeLensRefresh", "workspace/codeLens/refresh", .noParams, .null⟩

def shutdown : Request := ⟨"Shutdown", "shutdown", .noParams, .null⟩

def initialized : Notification := ⟨"Initialized", "initialized", initializedParams⟩

def exit : Notification := ⟨"Exit", "exit", .noParams⟩

def didOpenTextDocument : Notification :=
  ⟨"DidOpenTextDocument", "textDocument/didOpen", didOpenTextDocumentParams⟩

def didChangeTextDocument : Notification :=
  ⟨"DidChangeTextDocument", "textDocument/didChange", didChangeTextDocumentParams⟩

def didCloseTextDocument : Notification :=
  ⟨"DidCloseTextDocument", "textDocument/didClose", didCloseTextDocumentParams⟩

def didSaveTextDocument : Notification :=
  ⟨"DidSaveTextDocument", "textDocument/didSave", didSaveTextDocumentParams⟩

def publishDiagnostics : Notification :=
  ⟨"PublishDiagnostics", "textDocument/publishDiagnostics", publishDiagnosticsParams⟩

def showMessage : Notification := ⟨"ShowMessage", "window/showMessage", showMessageParams⟩

def logMessage : Notification := ⟨"LogMessage", "window/logMessage", logMessageParams⟩

def cancel : Notification := ⟨"Cancel", "$/cancelRequest", cancelParams⟩

def progress : Notification := ⟨"Progress", "$/progress", progressParams⟩

def setTrace : Notification := ⟨"SetTrace", "$/setTrace", setTraceParams⟩

def requests : List Request :=
  [applyWorkspaceEdit, hoverRequest, gotoDefinition, showMessageRequest, workDoneProgressCreate,
   workspaceConfiguration, codeLensRefresh, shutdown]

def notifications : List Notification :=
  [initialized, exit, didOpenTextDocument, didChangeTextDocument, didCloseTextDocument,
   didSaveTextDocument, publishDiagnostics, showMessage, logMessage, cancel, progress, setTrace]

def types : List (String × Schema) :=
  [("Position", position),
   ("Range", range),
   ("OffsetRange", offsetRange),
   ("Location", location),
   ("LocationLink", locationLink),
   ("TextDocumentIdentifier", textDocumentIdentifier),
   ("VersionedTextDocumentIdentifier", versionedTextDocumentIdentifier),
   ("OptionalVersionedTextDocumentIdentifier", optionalVersionedTextDocumentIdentifier),
   ("TextDocumentItem", textDocumentItem),
   ("TextEdit", textEdit),
   ("AnnotatedTextEdit", annotatedTextEdit),
   ("ChangeAnnotation", changeAnnotation),
   ("CreateFileOptions", createFileOptions),
   ("CreateFile", createFile),
   ("RenameFileOptions", renameFileOptions),
   ("RenameFile", renameFile),
   ("DeleteFileOptions", deleteFileOptions),
   ("DeleteFile", deleteFile),
   ("TextDocumentEdit", textDocumentEdit),
   ("DocumentChange", documentChange),
   ("WorkspaceEdit", workspaceEdit),
   ("WorkspaceEditMetadata", workspaceEditMetadata),
   ("ApplyWorkspaceEditParams", applyWorkspaceEditParams),
   ("ApplyWorkspaceEditResult", applyWorkspaceEditResult),
   ("DidOpenTextDocumentParams", didOpenTextDocumentParams),
   ("TextDocumentContentChangePartial", textDocumentContentChangePartial),
   ("TextDocumentContentChangeWholeDocument", textDocumentContentChangeWholeDocument),
   ("TextDocumentContentChangeEvent", textDocumentContentChangeEvent),
   ("DidChangeTextDocumentParams", didChangeTextDocumentParams),
   ("DidCloseTextDocumentParams", didCloseTextDocumentParams),
   ("DidSaveTextDocumentParams", didSaveTextDocumentParams),
   ("HoverParams", hoverParams),
   ("DefinitionParams", definitionParams),
   ("MarkupContent", markupContent),
   ("MarkedStringWithLanguage", markedStringWithLanguage),
   ("MarkedString", markedString),
   ("HoverContents", hoverContents),
   ("Hover", hover),
   ("Definition", definition),
   ("DefinitionResult", definitionResult),
   ("CodeDescription", codeDescription),
   ("DiagnosticRelatedInformation", diagnosticRelatedInformation),
   ("Diagnostic", diagnostic),
   ("PublishDiagnosticsParams", publishDiagnosticsParams),
   ("ShowMessageParams", showMessageParams),
   ("LogMessageParams", logMessageParams),
   ("MessageActionItem", messageActionItem),
   ("ShowMessageRequestParams", showMessageRequestParams),
   ("WorkDoneProgressCreateParams", workDoneProgressCreateParams),
   ("ProgressParams", progressParams),
   ("CancelParams", cancelParams),
   ("SetTraceParams", setTraceParams),
   ("ConfigurationItem", configurationItem),
   ("ConfigurationParams", configurationParams),
   ("InitializedParams", initializedParams),
   ("WorkspaceFolder", workspaceFolder),
   ("WorkspaceFoldersInitializeParams", workspaceFoldersInitializeParams),
   ("DiagnosticSeverity", .integerEnum diagnosticSeverity),
   ("DiagnosticTag", .integerEnum diagnosticTag),
   ("MessageType", .integerEnum messageType),
   ("MarkupKind", .wordEnum markupKind),
   ("TraceValue", .wordEnum traceValue),
   ("LanguageKind", .openEnum languageKind),
   ("ResponseError", responseError)]

end Protocol

end LspWire
