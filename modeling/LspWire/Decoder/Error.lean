import LspWire.Decoder.Path

/-! Why a payload is not a value of a type.
Every refusal is one of these causes; its wording is in `DecodeError.message` alone. -/

namespace LspWire

inductive EnvelopeKind where
  | request
  | notification
  | response
deriving DecidableEq

def EnvelopeKind.text : EnvelopeKind → String
  | .request => "request"
  | .notification => "notification"
  | .response => "response"

inductive DecodeError where
  | syntaxFault (message : String)
  | missingRequiredField (path : Path) (field : String)
  | typeMismatch (path : Path) (expected found : String)
  | fieldOutOfRange (path : Path) (range value : String)
  | envelopeAmbiguous (reason : String)
  | envelopeMismatch (expected found : EnvelopeKind)
  | unionNoMatch (path : Path) (union : String)
  | unionAmbiguous (path : Path) (union : String) (alternatives : List String)
  | unknownField (path : Path) (field : String)
  | literalMismatch (path : Path) (expected found : String)
  | invalidEnumValue (path : Path) (enumeration value : String)
  | unknownMethod (method : String)
deriving DecidableEq

namespace DecodeError

def kind : DecodeError → String
  | syntaxFault .. => "Syntax"
  | missingRequiredField .. => "MissingRequiredField"
  | typeMismatch .. => "TypeMismatch"
  | fieldOutOfRange .. => "FieldOutOfRange"
  | envelopeAmbiguous .. => "EnvelopeAmbiguous"
  | envelopeMismatch .. => "EnvelopeMismatch"
  | unionNoMatch .. => "UnionNoMatch"
  | unionAmbiguous .. => "UnionAmbiguous"
  | unknownField .. => "UnknownField"
  | literalMismatch .. => "LiteralMismatch"
  | invalidEnumValue .. => "InvalidEnumValue"
  | unknownMethod .. => "UnknownMethod"

def message : DecodeError → String
  | syntaxFault message => "payload is not valid JSON: " ++ message
  | missingRequiredField path field =>
    "missing required field `" ++ field ++ "` at " ++ path.text
  | typeMismatch path expected found =>
    "type mismatch at " ++ path.text ++ ": expected " ++ expected ++ ", found " ++ found
  | fieldOutOfRange path range value =>
    "value " ++ value ++ " at " ++ path.text ++ " is outside the " ++ range ++ " range"
  | envelopeAmbiguous reason => "ambiguous envelope: " ++ reason
  | envelopeMismatch expected found =>
    "expected a " ++ expected.text ++ " envelope, found a " ++ found.text
  | unionNoMatch path union => "value at " ++ path.text ++ " matches no alternative of " ++ union
  | unionAmbiguous path union alternatives =>
    "value at " ++ path.text ++ " matches several alternatives of " ++ union ++ ": " ++
      ", ".intercalate alternatives
  | unknownField path field => "unknown field `" ++ field ++ "` at " ++ path.text
  | literalMismatch path expected found =>
    "expected literal " ++ Text.quoted expected ++ " at " ++ path.text ++ ", found " ++ found
  | invalidEnumValue path enumeration value =>
    value ++ " is not a valid " ++ enumeration ++ " at " ++ path.text
  | unknownMethod method => "no binding registered for method `" ++ method ++ "`"

/-- The place that an error is about; some concern the message as a whole. -/
def path? : DecodeError → Option Path
  | missingRequiredField path _ | typeMismatch path .. | fieldOutOfRange path ..
  | unionNoMatch path _ | unionAmbiguous path .. | unknownField path _
  | literalMismatch path .. | invalidEnumValue path .. => some path
  | syntaxFault _ | envelopeAmbiguous _ | envelopeMismatch .. | unknownMethod _ => none

end DecodeError

end LspWire
