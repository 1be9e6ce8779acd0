/-! Names of fixtures.
A file is a fixture when its name is a type, `True` or `False`, and a discriminator, joined by
dashes and followed by `.json`. The discriminator is what is left, dashes and dots included. -/

namespace LspWire

/-- Whether a fixture's content is meant to be a value of its type. -/
inductive ExpectedOutcome where
  | accept
  | reject
deriving DecidableEq

namespace ExpectedOutcome

def token : ExpectedOutcome → String
  | accept => "True"
  | reject => "False"

def ofToken? (token : String) : Option ExpectedOutcome :=
  if token = "True" then some accept else if token = "False" then some reject else none

@[simp] theorem ofToken?_token (outcome : ExpectedOutcome) :
    ofToken? outcome.token = some outcome := by
  cases outcome <;> rfl

end ExpectedOutcome

structure FixtureName where
  typeName : String
  expected : ExpectedOutcome
  discriminator : String
deriving DecidableEq

namespace FixtureName

def extension : List Char := ".json".toList

def isTypeChar (c : Char) : Bool := c.isAlphanum || c == '_'

def splitDash : List Char → Option (List Char × List Char)
  | [] => none
  | c :: rest =>
    if c = '-' then some ([], rest) else (splitDash rest).map fun parts => (c :: parts.1, parts.2)

def stem? (name : List Char) : Option (List Char) :=
  if extension.isSuffixOf name then some (name.take (name.length - extension.length)) else none

def ofChars? (name : List Char) : Option FixtureName := do
  let stem ← stem? name
  let (typeName, rest) ← splitDash stem
  let (token, discriminator) ← splitDash rest
  let expected ← ExpectedOutcome.ofToken? (String.ofList token)
  if typeName ≠ [] ∧ typeName.all isTypeChar ∧ discriminator ≠ [] then
    return ⟨String.ofList typeName, expected, String.ofList discriminator⟩
  else none

def parse? (name : String) : Option FixtureName := ofChars? name.toList

def text (name : FixtureName) : String :=
  name.typeName ++ "-" ++ name.expected.token ++ "-" ++ name.discriminator ++ ".json"

end FixtureName

end LspWire
