import LspWire.Text.Utf8

/-! What is wrong with a text that is not JSON, and where.
A fault is found at an octet that was consumed or at one that was only looked at; lines and
columns count from the start of the text, columns in octets. -/

namespace LspWire.Json

open Text (Octets)

inductive Reason where
  | endInValue
  | endInList
  | endInObject
  | endInString
  | expectedValue
  | expectedIdent
  | expectedColon
  | expectedListCommaOrEnd
  | expectedObjectCommaOrEnd
  | trailingComma
  | keyMustBeString
  | controlCharacter
  | invalidEscape
  | invalidCodePoint
  | loneSurrogate
  | endOfHexEscape
  | invalidNumber
  | numberOutOfRange
  | recursionLimit
  | trailingCharacters
deriving DecidableEq

def Reason.text : Reason → String
  | .endInValue => "EOF while parsing a value"
  | .endInList => "EOF while parsing a list"
  | .endInObject => "EOF while parsing an object"
  | .endInString => "EOF while parsing a string"
  | .expectedValue => "expected value"
  | .expectedIdent => "expected ident"
  | .expectedColon => "expected `:`"
  | .expectedListCommaOrEnd => "expected `,` or `]`"
  | .expectedObjectCommaOrEnd => "expected `,` or `\x7d`"
  | .trailingComma => "trailing comma"
  | .keyMustBeString => "key must be a string"
  | .controlCharacter => "control character (\\u0000-\\u001F) found while parsing a string"
  | .invalidEscape => "invalid escape"
  | .invalidCodePoint => "invalid unicode code point"
  | .loneSurrogate => "lone leading surrogate in hex escape"
  | .endOfHexEscape => "unexpected end of hex escape"
  | .invalidNumber => "invalid number"
  | .numberOutOfRange => "number out of range"
  | .recursionLimit => "recursion limit exceeded"
  | .trailingCharacters => "trailing characters"

/-- A fault with the number of octets left unread, whether the next of them was looked at, and
how far before that place the reported column lies. -/
structure Fault where
  reason : Reason
  remaining : Nat
  peeked : Bool
  shift : Nat
deriving DecidableEq

def Fault.upTo (reason : Reason) (rest : Octets) : Fault := ⟨reason, rest.length, false, 0⟩

def Fault.on (reason : Reason) (rest : Octets) : Fault := ⟨reason, rest.length, true, 0⟩

def newline : UInt8 := 0x0A

/-- Line and column after some octets: one more than their line feeds, and the octets behind the
last of them. -/
def position (read : Octets) : Nat × Nat :=
  (1 + read.count newline, (read.reverse.takeWhile (· != newline)).length)

def Fault.position (fault : Fault) (whole : Octets) : Nat × Nat :=
  let read := whole.length - fault.remaining + (if fault.peeked then 1 else 0)
  let (line, column) := Json.position (whole.take read)
  (line, column - fault.shift)

def Fault.message (fault : Fault) (whole : Octets) : String :=
  let (line, column) := fault.position whole
  fault.reason.text ++ " at line " ++ toString line ++ " column " ++ toString column

end LspWire.Json
