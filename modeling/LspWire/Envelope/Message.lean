import LspWire.Envelope.Classify
import LspWire.Envelope.ErrorCode

/-! Messages before their method is known.
The parameters of a request or notification and the result of a response are kept as JSON. -/

namespace LspWire

inductive ResponseOutcome (α : Type) where
  | result (a : α)
  | error (e : ResponseError)

namespace ResponseOutcome

variable {α : Type}

def isError : ResponseOutcome α → Bool
  | result _ => false
  | error _ => true

def result? : ResponseOutcome α → Option α
  | result a => some a
  | error _ => none

def read (d : Decoder α) : OutcomeKey → Reading (ResponseOutcome α)
  | .result => do return result (← Reading.required d "result")
  | .error => do return error (← Reading.required responseError.decoder "error")

def write (w : α → Except String Json) : ResponseOutcome α → Except String (String × Json)
  | result a => (w a).map fun value => ("result", value)
  | error e => .ok ("error", responseError.write e)

def render (sh : α → String) : ResponseOutcome α → String
  | result a => Show.call "Result" (sh a)
  | error e => Show.call "Error" (responseError.render e)

def same (eq : α → α → Bool) : ResponseOutcome α → ResponseOutcome α → Bool
  | result a, result b => eq a b
  | error a, error b => responseError.same a b
  | _, _ => false

end ResponseOutcome

structure RawRequest where
  id : NumberOrString
  method : String
  params : Option Json

structure RawNotification where
  method : String
  params : Option Json

structure RawResponse where
  id : Nullable NumberOrString
  outcome : ResponseOutcome Json

inductive Message where
  | request (r : RawRequest)
  | notification (n : RawNotification)
  | response (r : RawResponse)

namespace Message

def kind : Message → EnvelopeKind
  | request _ => .request
  | notification _ => .notification
  | response _ => .response

def method? : Message → Option String
  | request r => some r.method
  | notification n => some n.method
  | response _ => none

def readRequest : Reading RawRequest := do
  let id ← Reading.required Decoder.numberOrString "id"
  let method ← Reading.required Decoder.string "method"
  let params ← Reading.optional Decoder.any "params"
  return ⟨id, method, params⟩

def readNotification : Reading RawNotification := do
  let method ← Reading.required Decoder.string "method"
  let params ← Reading.optional Decoder.any "params"
  return ⟨method, params⟩

def readResponse (key : OutcomeKey) : Reading RawResponse := do
  let id ← Reading.nullable Decoder.numberOrString "id"
  let outcome ← ResponseOutcome.read Decoder.any key
  return ⟨id, outcome⟩

/-- Reads the version and then what the envelope says the object is. -/
def read (envelope : Envelope) : Reading Message := do
  Reading.literal "jsonrpc" jsonrpcVersion
  match envelope with
  | .request => return request (← readRequest)
  | .notification => return notification (← readNotification)
  | .response key => return response (← readResponse key)

def decode (value : Json) (cx : Context) : Except DecodeError Message := do
  (read (← Envelope.of value cx)).decode value cx

def version : List (String × Json) := [("jsonrpc", .string jsonrpcVersion)]

def paramsMember : Option Json → List (String × Json)
  | none => []
  | some params => [("params", params)]

def write : Message → Except String Json
  | request r => .ok (.object (version ++ [("id", r.id.write), ("method", .string r.method)] ++
      paramsMember r.params))
  | notification n => .ok (.object (version ++ [("method", .string n.method)] ++
      paramsMember n.params))
  | response r => do
    let outcome ← r.outcome.write .ok
    return .object (version ++ [("id", r.id.write NumberOrString.write), outcome])

def render : Message → String
  | request r => Show.call "Request" <| Show.record "RawRequest"
      [("id", Show.numberOrString r.id), ("method", Text.quoted r.method),
       ("params", Show.option Show.json r.params)]
  | notification n => Show.call "Notification" <| Show.record "RawNotification"
      [("method", Text.quoted n.method), ("params", Show.option Show.json n.params)]
  | response r => Show.call "Response" <| Show.record "RawResponse"
      [("id", Show.nullable Show.numberOrString r.id), ("outcome", r.outcome.render Show.json)]

def sameParams : Option Json → Option Json → Bool
  | none, none => true
  | some a, some b => a.same b
  | _, _ => false

def same : Message → Message → Bool
  | request a, request b =>
    decide (a.id = b.id) && a.method == b.method && sameParams a.params b.params
  | notification a, notification b => a.method == b.method && sameParams a.params b.params
  | response a, response b => decide (a.id = b.id) && a.outcome.same Json.same b.outcome
  | _, _ => false

def codec : Codec Message where
  toDecoder := .present decode
  write := write
  render := render
  same := same

end Message

end LspWire
