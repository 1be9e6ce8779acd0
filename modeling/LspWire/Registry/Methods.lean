import LspWire.Json.Reader
import LspWire.Protocol.Method
import LspWire.Registry.NameTable

/-! Messages by method.
Requests and notifications have a table each, so a method known for one kind is unknown for the
other. An incoming message is first read without its method's types and then, if it is no response,
once more as a message of its method. -/

namespace LspWire

structure MethodRegistry where
  requests : NameTable Request
  notifications : NameTable Notification

inductive Incoming where
  | request (r : Request) (message : RequestMessage r.params.Val)
  | notification (n : Notification) (message : NotificationMessage n.params.Val)
  | response (r : RawResponse)

def Incoming.kind : Incoming → EnvelopeKind
  | request .. => .request
  | notification .. => .notification
  | response _ => .response

namespace MethodRegistry

def empty : MethodRegistry := ⟨.empty, .empty⟩

def registerRequest (registry : MethodRegistry) (r : Request) : MethodRegistry :=
  { registry with requests := registry.requests.insert r.method r }

def registerNotification (registry : MethodRegistry) (n : Notification) : MethodRegistry :=
  { registry with notifications := registry.notifications.insert n.method n }

open Protocol in
def protocolRequests : List Request :=
  [applyWorkspaceEdit, hoverRequest, gotoDefinition, showMessageRequest, workDoneProgressCreate,
   workspaceConfiguration, codeLensRefresh, shutdown]

open Protocol in
def protocolNotifications : List Notification :=
  [initialized, exit, didOpenTextDocument, didChangeTextDocument, didCloseTextDocument,
   didSaveTextDocument, publishDiagnostics, showMessage, logMessage, cancel, progress, setTrace]

def registerProtocol (registry : MethodRegistry) : MethodRegistry :=
  protocolNotifications.foldl registerNotification
    (protocolRequests.foldl registerRequest registry)

def protocol : MethodRegistry := registerProtocol .empty

def size (registry : MethodRegistry) : Nat :=
  registry.requests.size + registry.notifications.size

def isEmpty (registry : MethodRegistry) : Bool :=
  registry.requests.isEmpty && registry.notifications.isEmpty

def lookup {β : Type} (table : NameTable β) (method : String) : Except DecodeError β :=
  match table.get? method with
  | some entry => .ok entry
  | none => .error (.unknownMethod method)

def decode (registry : MethodRegistry) (value : Json) (options : DecodeOptions) :
    Except DecodeError Incoming := do
  let cx := Context.root options
  match ← Message.decode value cx with
  | .request raw =>
    let r ← lookup registry.requests raw.method
    return .request r (← r.codec.decode value cx)
  | .notification raw =>
    let n ← lookup registry.notifications raw.method
    return .notification n (← n.codec.decode value cx)
  | .response raw => return .response raw

def decodeText (registry : MethodRegistry) (text : Text.Octets) (options : DecodeOptions) :
    Except DecodeError Incoming :=
  match Json.parse text with
  | .ok value => registry.decode value options
  | .error fault => .error (.syntaxFault (fault.message text))

end MethodRegistry

end LspWire
