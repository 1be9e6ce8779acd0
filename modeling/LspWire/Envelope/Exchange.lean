import LspWire.Envelope.Message

/-! Messages of a known method.
Each fixes its kind and its method and reads its parameters or result as values of their own type.
Parameters that are written as null are left out. -/

namespace LspWire

structure RequestMessage (P : Type) where
  id : NumberOrString
  params : P

structure NotificationMessage (P : Type) where
  params : P

structure ResponseMessage (R : Type) where
  id : Nullable NumberOrString
  outcome : ResponseOutcome R

def writeParams {P : Type} (codec : Codec P) (params : P) :
    Except String (List (String × Json)) := do
  let value ← codec.encode params
  return if value.isNull then [] else [("params", value)]

namespace RequestMessage

variable {P : Type}

def read (method : String) (params : Decoder P) : Reading (RequestMessage P) := do
  Reading.literal "jsonrpc" jsonrpcVersion
  let id ← Reading.required Decoder.numberOrString "id"
  Reading.literal "method" method
  let params ← Reading.required params "params"
  return ⟨id, params⟩

def decode (method : String) (params : Decoder P) (value : Json) (cx : Context) :
    Except DecodeError (RequestMessage P) := do
  expectKind .request value cx
  (read method params).decode value cx

def write (method : String) (params : Codec P) (message : RequestMessage P) :
    Except String Json := do
  let rest ← writeParams params message.params
  return .object (Message.version ++ [("id", message.id.write), ("method", .string method)] ++ rest)

def codec (name method : String) (params : Codec P) : Codec (RequestMessage P) where
  toDecoder := .present (decode method params.toDecoder)
  write := write method params
  render message := Show.record name
    [("id", Show.numberOrString message.id), ("params", params.render message.params)]
  same a b := decide (a.id = b.id) && params.same a.params b.params

end RequestMessage

namespace NotificationMessage

variable {P : Type}

def read (method : String) (params : Decoder P) : Reading (NotificationMessage P) := do
  Reading.literal "jsonrpc" jsonrpcVersion
  Reading.literal "method" method
  let params ← Reading.required params "params"
  return ⟨params⟩

def decode (method : String) (params : Decoder P) (value : Json) (cx : Context) :
    Except DecodeError (NotificationMessage P) := do
  expectKind .notification value cx
  (read method params).decode value cx

def write (method : String) (params : Codec P) (message : NotificationMessage P) :
    Except String Json := do
  let rest ← writeParams params message.params
  return .object (Message.version ++ [("method", .string method)] ++ rest)

def codec (name method : String) (params : Codec P) : Codec (NotificationMessage P) where
  toDecoder := .present (decode method params.toDecoder)
  write := write method params
  render message := Show.record name [("params", params.render message.params)]
  same a b := params.same a.params b.params

end NotificationMessage

namespace ResponseMessage

variable {R : Type}

def read (result : Decoder R) (key : OutcomeKey) : Reading (ResponseMessage R) := do
  Reading.literal "jsonrpc" jsonrpcVersion
  let id ← Reading.nullable Decoder.numberOrString "id"
  let outcome ← ResponseOutcome.read result key
  return ⟨id, outcome⟩

def decode (result : Decoder R) (value : Json) (cx : Context) :
    Except DecodeError (ResponseMessage R) := do
  expectKind .response value cx
  let key ← OutcomeKey.of value
  (read result key).decode value cx

def write (result : Codec R) (message : ResponseMessage R) : Except String Json := do
  let outcome ← message.outcome.write result.write
  return .object (Message.version ++ [("id", message.id.write NumberOrString.write), outcome])

def codec (name : String) (result : Codec R) : Codec (ResponseMessage R) where
  toDecoder := .present (decode result.toDecoder)
  write := write result
  render message := Show.record name
    [("id", Show.nullable Show.numberOrString message.id),
     ("outcome", message.outcome.render result.render)]
  same a b := decide (a.id = b.id) && a.outcome.same result.same b.outcome

end ResponseMessage

end LspWire
