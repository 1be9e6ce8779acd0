import LspWire.Json.Basic

/-! JSON text without blanks.
Strings escape a quote, a backslash and the controls below U+0020, five of them by letter, and
hold every other character as it is. -/

namespace LspWire.Json

/-- Binary numbers are written in full from `0.00001` up to sixteen digits before the point. -/
def numberLayout : Layout := ⟨fun leading => -5 ≤ leading && leading ≤ 15, true, false⟩

end LspWire.Json

def LspWire.Number.text : LspWire.Number → String
  | .integer n => toString n
  | .float x => x.write LspWire.Json.numberLayout

namespace LspWire.Json

def escapeChar (c : Char) : List Char :=
  if c = '"' then ['\\', '"']
  else if c = '\\' then ['\\', '\\']
  else if c = '\x08' then ['\\', 'b']
  else if c = '\x0c' then ['\\', 'f']
  else if c = '\n' then ['\\', 'n']
  else if c = '\r' then ['\\', 'r']
  else if c = '\t' then ['\\', 't']
  else if c < ' ' then
    ['\\', 'u', '0', '0', Nat.digitChar (c.toNat / 16), Nat.digitChar (c.toNat % 16)]
  else [c]

def stringChars (s : String) : List Char := '"' :: (s.toList.flatMap escapeChar ++ ['"'])

mutual

def chars : Json → List Char
  | .null => "null".toList
  | .bool true => "true".toList
  | .bool false => "false".toList
  | .number n => n.text.toList
  | .string s => stringChars s
  | .array items => '[' :: (itemsChars items ++ [']'])
  | .object members => '\x7b' :: (membersChars members ++ ['\x7d'])

def itemsChars : List Json → List Char
  | [] => []
  | [item] => item.chars
  | item :: rest => item.chars ++ ',' :: itemsChars rest

def membersChars : List (String × Json) → List Char
  | [] => []
  | [(name, value)] => stringChars name ++ ':' :: value.chars
  | (name, value) :: rest => stringChars name ++ ':' :: (value.chars ++ ',' :: membersChars rest)

end

def text (document : Json) : String := String.ofList document.chars

end LspWire.Json
