import LspWire.Json.NumberReader

/-! Strings in JSON text.
Escapes become the octets of their character; the whole content is decoded as UTF-8 when the
closing quote has been read. -/

namespace LspWire.Json

open Text (Octets)

def hexValue? (b : UInt8) : Option Nat :=
  if isDigit b then some (digitValue b)
  else if 0x61 ≤ b ∧ b ≤ 0x66 then some (b.toNat - 0x57)
  else if 0x41 ≤ b ∧ b ≤ 0x46 then some (b.toNat - 0x37)
  else none

def hexNumber? (digits : Octets) : Option Nat :=
  digits.foldlM (fun n b => (hexValue? b).map (n * 16 + ·)) 0

def readHex : (s : Octets) → Except Fault (Nat × Rest s)
  | a :: b :: c :: d :: rest =>
    match hexNumber? [a, b, c, d] with
    | some n => .ok (n, (((Rest.tail d rest).behind c).behind b).behind a)
    | none => .error (.upTo .invalidEscape rest)
  | _ => .error (.upTo .endInString [])

def readTrailing : (s : Octets) → Except Fault (Nat × Rest s)
  | [] => .error (.upTo .endInString [])
  | [backslash] =>
    .error (.upTo (if backslash = 0x5C then .endInString else .endOfHexEscape) [])
  | backslash :: letter :: behind => do
    if backslash ≠ 0x5C then throw (.upTo .endOfHexEscape (letter :: behind))
    if letter ≠ 0x75 then throw (.upTo .endOfHexEscape behind)
    let (trailing, rest) ← readHex behind
    if 0xDC00 ≤ trailing ∧ trailing ≤ 0xDFFF then
      return (trailing, (rest.behind letter).behind backslash)
    else throw (.upTo .loneSurrogate rest.1)

/-- Reads the code point of a `\u` escape, which may need a second escape for its other half. -/
def readCodePoint (s : Octets) : Except Fault (Nat × Rest s) := do
  let (leading, rest) ← readHex s
  if 0xDC00 ≤ leading ∧ leading ≤ 0xDFFF then .error (.upTo .loneSurrogate rest.1)
  else if 0xD800 ≤ leading ∧ leading ≤ 0xDBFF then
    let (trailing, rest') ← readTrailing rest.1
    return (0x10000 + (leading - 0xD800) * 0x400 + (trailing - 0xDC00), rest.andThen rest')
  else return (leading, rest)

def shortEscape? (letter : UInt8) : Option UInt8 :=
  if letter = 0x22 ∨ letter = 0x5C ∨ letter = 0x2F then some letter
  else if letter = 0x62 then some 0x08
  else if letter = 0x66 then some 0x0C
  else if letter = 0x6E then some 0x0A
  else if letter = 0x72 then some 0x0D
  else if letter = 0x74 then some 0x09
  else none

def readEscape : (s : Octets) → Except Fault (Octets × Rest s)
  | [] => .error (.upTo .endInString [])
  | letter :: behind => do
    match shortEscape? letter with
    | some octet => return ([octet], .tail letter behind)
    | none =>
      if letter = 0x75 then
        let (code, rest) ← readCodePoint behind
        return (Text.encode (String.singleton (Char.ofNat code)), rest.behind letter)
      else throw (.upTo .invalidEscape behind)

/-- Reads up to the closing quote; `held` is the content so far, last octet first. -/
def readContent (held : Octets) : (s : Octets) → Except Fault (Octets × Rest s)
  | [] => .error (.upTo .endInString [])
  | b :: behind => do
    if b = 0x22 then return (held.reverse, .tail b behind)
    else if b = 0x5C then
      let (octets, rest) ← readEscape behind
      let (content, rest') ← readContent (octets.reverse ++ held) rest.1
      return (content, (rest.andThen rest').behind b)
    else if b < 0x20 then throw (.upTo .controlCharacter behind)
    else
      let (content, rest) ← readContent (b :: held) behind
      return (content, rest.behind b)
termination_by s => s.length
decreasing_by
  · exact Nat.lt_succ_of_le rest.2
  · exact Nat.lt_succ_self _

def readString (s : Octets) : Except Fault (String × Rest s) := do
  let (content, rest) ← readContent [] s
  match Text.decode? content with
  | some text => return (text, rest)
  | none =>
    .error ⟨.invalidCodePoint, rest.1.length, false, content.length - Text.validLength content⟩

end LspWire.Json
