import LspWire.Json.Reader
import LspWire.Protocol.Method
import LspWire.Registry.NameTable

/-! Types by name.
A binding is a type together with its codec. Reading a value may also end in a crash, which is not
an answer of the codec but of the binding: it says on which values and with what error. -/

namespace LspWire

/-- What came of something that may crash: its result, or the error that tells of the crash. -/
inductive Attempt (α : Type) where
  | finished (a : α)
  | crashed (error : String)

namespace Attempt

instance : Monad Attempt where
  pure := finished
  bind
    | finished a, f => f a
    | crashed error, _ => crashed error

@[simp] theorem finished_bind {α β : Type} (a : α) (f : α → Attempt β) :
    (finished a >>= f) = f a :=
  rfl

end Attempt

structure Binding where
  Value : Type
  codec : Codec Value
  crash : Json → Context → Option String

namespace Binding

def ofCodec {α : Type} (codec : Codec α) : Binding := ⟨α, codec, fun _ _ => none⟩

def ofSchema (s : Schema) : Binding := ofCodec s.codec

def read (b : Binding) (value : Json) (options : DecodeOptions) :
    Attempt (Except DecodeError b.Value) :=
  match b.crash value (.root options) with
  | some error => .crashed error
  | none => .finished (b.codec.decode value (.root options))

def readText (b : Binding) (text : Text.Octets) (options : DecodeOptions) :
    Attempt (Except DecodeError b.Value) :=
  match Json.parse text with
  | .ok value => b.read value options
  | .error fault => .finished (.error (.syntaxFault (fault.message text)))

end Binding

abbrev TypeRegistry := NameTable Binding

namespace TypeRegistry

def registerRequest (registry : TypeRegistry) (r : Request) : TypeRegistry :=
  (registry.insert r.requestType (.ofCodec r.codec)).insert r.responseType
    (.ofCodec r.responseCodec)

def registerNotification (registry : TypeRegistry) (n : Notification) : TypeRegistry :=
  registry.insert n.typeName (.ofCodec n.codec)

def registerTypes (registry : TypeRegistry) (types : List (String × Schema)) : TypeRegistry :=
  types.foldl (fun table named => table.insert named.1 (.ofSchema named.2)) registry

def registerProtocol (registry : TypeRegistry) : TypeRegistry :=
  let registry := registerTypes registry Protocol.types
  let registry := registry.insert "Message" (.ofCodec Message.codec)
  let registry := Protocol.requests.foldl registerRequest registry
  Protocol.notifications.foldl registerNotification registry

def protocol : TypeRegistry := registerProtocol .empty

end TypeRegistry

end LspWire
