import LspWire.Decoder.Reading

/-! Which kind of message an object is.
The verdict depends only on which of `id`, `method`, `result` and `error` are there, whatever they
hold: a request has both of the first two, a notification only a method, a response only an id
and exactly one of the last two. -/

namespace LspWire

def jsonrpcVersion : String := "2.0"

/-- The kind of a message, by its `id` and `method`. -/
def classify (value : Json) (cx : Context) : Except DecodeError EnvelopeKind :=
  match value with
  | .object members =>
    match Members.contains members "method", Members.contains members "id" with
    | true, true => .ok .request
    | true, false => .ok .notification
    | false, true => .ok .response
    | false, false => .error (.envelopeAmbiguous "message has neither `id` nor `method`")
  | other => .error (cx.mismatch "object" other)

def expectKind (expected : EnvelopeKind) (value : Json) (cx : Context) :
    Except DecodeError Unit := do
  let found ← classify value cx
  if found = expected then return () else throw (.envelopeMismatch expected found)

inductive OutcomeKey where
  | result
  | error
deriving DecidableEq

def OutcomeKey.of (value : Json) : Except DecodeError OutcomeKey :=
  match value.has "result", value.has "error" with
  | true, false => .ok .result
  | false, true => .ok .error
  | true, true => .error (.envelopeAmbiguous "response has both `result` and `error`")
  | false, false => .error (.envelopeAmbiguous "response has neither `result` nor `error`")

/-- What the keys of an object say of a message: its kind, and the outcome of a response. -/
inductive Envelope where
  | request
  | notification
  | response (key : OutcomeKey)
deriving DecidableEq

def Envelope.of (value : Json) (cx : Context) : Except DecodeError Envelope := do
  match ← classify value cx with
  | .request => return request
  | .notification => return notification
  | .response => return response (← OutcomeKey.of value)

end LspWire
