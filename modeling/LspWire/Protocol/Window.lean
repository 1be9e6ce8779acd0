import LspWire.Protocol.Enumeration
import LspWire.Schema.Field

/-! Messages to the user, progress, settings and the folders of a workspace. -/

namespace LspWire.Protocol

open Schema (recordOf camelRecordOf required optional optionalOrNull)

def messageTypeField : Schema.Field :=
  ⟨"typ", "type", some "type", false, .required, .integerEnum messageType⟩

def showMessageParams : Schema :=
  recordOf "ShowMessageParams" [messageTypeField, required "message" "message" .string]

def logMessageParams : Schema :=
  recordOf "LogMessageParams" [messageTypeField, required "message" "message" .string]

def messageActionItem : Schema := recordOf "MessageActionItem" [required "title" "title" .string]

def showMessageRequestParams : Schema := recordOf "ShowMessageRequestParams"
  [messageTypeField,
   required "message" "message" .string,
   optional "actions" "actions" (.list messageActionItem)]

def workDoneProgressCreateParams : Schema :=
  recordOf "WorkDoneProgressCreateParams" [required "token" "token" .numberOrString]

def progressParams : Schema := recordOf "ProgressParams"
  [required "token" "token" .numberOrString,
   required "value" "value" .any]

def cancelParams : Schema := recordOf "CancelParams" [required "id" "id" .numberOrString]

def setTraceParams : Schema :=
  recordOf "SetTraceParams" [required "value" "value" (.wordEnum traceValue)]

def configurationItem : Schema := camelRecordOf "ConfigurationItem"
  [optional "scope_uri" "scopeUri" .string,
   optional "section" "section" .string]

def configurationParams : Schema :=
  recordOf "ConfigurationParams" [required "items" "items" (.list configurationItem)]

def initializedParams : Schema := recordOf "InitializedParams" []

def workspaceFolder : Schema :=
  recordOf "WorkspaceFolder" [required "uri" "uri" .string, required "name" "name" .string]

def workspaceFoldersInitializeParams : Schema := camelRecordOf "WorkspaceFoldersInitializeParams"
  [optionalOrNull "workspace_folders" "workspaceFolders" (.list workspaceFolder)]

end LspWire.Protocol
