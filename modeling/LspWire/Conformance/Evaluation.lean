import LspWire.Conformance.Report
import LspWire.Registry.Types

/-! The verdict on a fixture.
Its content is decoded as the type in its name, and the outcome compared with the one the name
tells. A value that was to be accepted may also have to survive encoding and decoding. -/

namespace LspWire

open Text (Octets)

namespace Binding

/-- What happens to a value that is encoded, decoded and encoded again: none when both documents
are the same, and otherwise where they part. -/
def roundTripFault? (b : Binding) (options : DecodeOptions) (x : b.Value) :
    Attempt (Option String) :=
  match b.codec.encode x with
  | .error message => .finished (some ("encoding failed: " ++ message))
  | .ok document => do
    match ← b.read document options with
    | .error error =>
      return some ("re-decoding " ++ document.text ++ " failed: " ++ error.message)
    | .ok y =>
      match b.codec.encode y with
      | .error message => return some ("re-encoding failed: " ++ message)
      | .ok again =>
        if again.same document then return none
        else return some (document.text ++ " re-encoded as " ++ again.text)

end Binding

def evaluateWith (b : Binding) (fixture : Fixture) (content : Octets) (options : DecodeOptions)
    (roundTrip : Bool) : Attempt Verdict := do
  let typeName := fixture.name.typeName
  match ← b.readText content options, fixture.name.expected with
  | .ok x, .accept =>
    if roundTrip then
      match ← b.roundTripFault? options x with
      | none => return .pass
      | some detail => return .fail (.roundTripMismatch typeName fixture.id detail)
    else return .pass
  | .ok _, .reject => return .fail (.unexpectedSuccess typeName fixture.id)
  | .error error, .accept => return .fail (.unexpectedFailure typeName fixture.id error)
  | .error _, .reject => return .pass

def evaluate (registry : TypeRegistry) (fixture : Fixture) (content : Octets)
    (options : DecodeOptions) (roundTrip : Bool) : Attempt Verdict :=
  match registry.get? fixture.name.typeName with
  | none => .finished .unknownType
  | some b => evaluateWith b fixture content options roundTrip

end LspWire
