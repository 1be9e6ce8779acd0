import LspWire.Protocol.Document

/-! Edits of documents and of the workspace.
An edit of text with an annotation is told from a plain one by shape. An entry of the changes to
documents is told by its `kind`; without one it edits text. -/

namespace LspWire.Protocol

open Schema (recordOf camelRecordOf unionOf required optional shape)

def textEdit : Schema :=
  camelRecordOf "TextEdit" [required "range" "range" range, required "new_text" "newText" .string]

def annotatedTextEdit : Schema := camelRecordOf "AnnotatedTextEdit"
  [required "range" "range" range,
   required "new_text" "newText" .string,
   required "annotation_id" "annotationId" .string]

def changeAnnotation : Schema := camelRecordOf "ChangeAnnotation"
  [required "label" "label" .string,
   optional "needs_confirmation" "needsConfirmation" .boolean,
   optional "description" "description" .string]

def createKind : Schema := .literal "CreateKind" "create"

def renameKind : Schema := .literal "RenameKind" "rename"

def deleteKind : Schema := .literal "DeleteKind" "delete"

def createFileOptions : Schema := camelRecordOf "CreateFileOptions"
  [optional "overwrite" "overwrite" .boolean,
   optional "ignore_if_exists" "ignoreIfExists" .boolean]

def createFile : Schema := camelRecordOf "CreateFile"
  [required "kind" "kind" createKind,
   required "uri" "uri" .string,
   optional "options" "options" createFileOptions,
   optional "annotation_id" "annotationId" .string]

def renameFileOptions : Schema := camelRecordOf "RenameFileOptions"
  [optional "overwrite" "overwrite" .boolean,
   optional "ignore_if_exists" "ignoreIfExists" .boolean]

def renameFile : Schema := camelRecordOf "RenameFile"
  [required "kind" "kind" renameKind,
   required "old_uri" "oldUri" .string,
   required "new_uri" "newUri" .string,
   optional "options" "options" renameFileOptions,
   optional "annotation_id" "annotationId" .string]

def deleteFileOptions : Schema := camelRecordOf "DeleteFileOptions"
  [optional "recursive" "recursive" .boolean,
   optional "ignore_if_not_exists" "ignoreIfNotExists" .boolean]

def deleteFile : Schema := camelRecordOf "DeleteFile"
  [required "kind" "kind" deleteKind,
   required "uri" "uri" .string,
   optional "options" "options" deleteFileOptions,
   optional "annotation_id" "annotationId" .string]

def textDocumentEditItem : Schema := unionOf "TextEdit | AnnotatedTextEdit"
  [shape "TextEdit" "TextEdit" textEdit, shape "AnnotatedTextEdit" "Annotated" annotatedTextEdit]

def textDocumentEdit : Schema := camelRecordOf "TextDocumentEdit"
  [required "text_document" "textDocument" optionalVersionedTextDocumentIdentifier,
   required "edits" "edits" (.list textDocumentEditItem)]

def documentChange : Schema := .marked "DocumentChange" "kind" <| Schema.variants
  [⟨"TextDocumentEdit", "TextDocumentEdit", none, textDocumentEdit⟩,
   ⟨"CreateFile", "CreateFile", some "create", createFile⟩,
   ⟨"RenameFile", "RenameFile", some "rename", renameFile⟩,
   ⟨"DeleteFile", "DeleteFile", some "delete", deleteFile⟩]

def workspaceEdit : Schema := camelRecordOf "WorkspaceEdit"
  [optional "changes" "changes" (.map (.list textEdit)),
   optional "document_changes" "documentChanges" (.list documentChange),
   optional "change_annotations" "changeAnnotations" (.map changeAnnotation)]

def workspaceEditMetadata : Schema :=
  camelRecordOf "WorkspaceEditMetadata" [optional "is_refactoring" "isRefactoring" .boolean]

def applyWorkspaceEditParams : Schema := recordOf "ApplyWorkspaceEditParams"
  [optional "label" "label" .string,
   required "edit" "edit" workspaceEdit,
   optional "metadata" "metadata" workspaceEditMetadata]

def applyWorkspaceEditResult : Schema := camelRecordOf "ApplyWorkspaceEditResult"
  [required "applied" "applied" .boolean,
   optional "failure_reason" "failureReason" .string,
   optional "failed_change" "failedChange" .uinteger]

end LspWire.Protocol
