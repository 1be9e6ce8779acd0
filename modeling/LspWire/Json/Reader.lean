import LspWire.Json.StringReader

/-! JSON text read into values.
Every reader takes the octets that are left and returns what it read with the octets left behind
it, of which there are fewer. Brackets nest at most `maxDepth` deep. -/

namespace LspWire.Json

open Text (Octets)

abbrev Reader (α : Type) := (s : Octets) → Except Fault (α × Shorter s)

def maxDepth : Nat := 127

def isBlank (b : UInt8) : Bool := b = 0x20 || b = 0x0A || b = 0x09 || b = 0x0D

/-- A value written as a word whose first letter has been read. -/
def readWord (value : Json) : (letters s : Octets) → Except Fault (Json × Rest s)
  | [], s => .ok (value, .all s)
  | _ :: _, [] => .error (.upTo .endInValue [])
  | letter :: letters, b :: behind =>
    if b = letter then do
      let (value, rest) ← readWord value letters behind
      return (value, rest.behind b)
    else .error (.upTo .expectedIdent behind)

/-- Looks for the next item of a list: none when the closing bracket has been read, otherwise the
octets from the item on. -/
def nextItem (first : Bool) (s : Octets) : Except Fault (Bool × Rest s) :=
  match firstAfter? isBlank s with
  | none => .error (.on .endInList [])
  | some (b, behind) =>
    if b = 0x5D then .ok (false, behind.toRest)
    else if first then .ok (true, behind.putBack b)
    else if b = 0x2C then
      match firstAfter? isBlank behind.1 with
      | none => .error (.on .endInValue [])
      | some (c, rest) =>
        if c = 0x5D then .error (.on .trailingComma (c :: rest.1))
        else .ok (true, (behind.andThen (rest.putBack c)).toRest)
    else .error (.on .expectedListCommaOrEnd (b :: behind.1))

def readItems (item : Reader Json) (first : Bool) (s : Octets) :
    Except Fault (List Json × Rest s) := do
  let (more, start) ← nextItem first s
  if more then
    let (value, rest) ← item start.1
    let (values, rest') ← readItems item false rest.1
    return (value :: values, start.andThen (rest.andThen rest').toRest)
  else return ([], start)
termination_by s.length
decreasing_by exact Nat.lt_of_lt_of_le rest.2 start.2

/-- Looks for the next key of an object: none when the closing brace has been read, otherwise the
octets behind the opening quote of the key. -/
def nextKey (first : Bool) (s : Octets) : Except Fault (Bool × Rest s) :=
  match firstAfter? isBlank s with
  | none => .error (.on .endInObject [])
  | some (b, behind) =>
    if b = 0x7D then .ok (false, behind.toRest)
    else if first then
      if b = 0x22 then .ok (true, behind.toRest)
      else .error (.on .keyMustBeString (b :: behind.1))
    else if b = 0x2C then
      match firstAfter? isBlank behind.1 with
      | none => .error (.on .endInValue [])
      | some (c, rest) =>
        if c = 0x22 then .ok (true, (behind.andThen rest.toRest).toRest)
        else if c = 0x7D then .error (.on .trailingComma (c :: rest.1))
        else .error (.on .keyMustBeString (c :: rest.1))
    else .error (.on .expectedObjectCommaOrEnd (b :: behind.1))

def readColon (s : Octets) : Except Fault (Rest s) :=
  match firstAfter? isBlank s with
  | none => .error (.on .endInObject [])
  | some (b, behind) =>
    if b = 0x3A then .ok behind.toRest else .error (.on .expectedColon (b :: behind.1))

def readMembers (value : Reader Json) (first : Bool) (s : Octets) :
    Except Fault (List (String × Json) × Rest s) := do
  let (more, start) ← nextKey first s
  if more then
    let (key, behindKey) ← readString start.1
    let behindColon ← readColon behindKey.1
    let (held, rest) ← value behindColon.1
    let (members, rest') ← readMembers value false rest.1
    return ((key, held) :: members,
      start.andThen (behindKey.andThen (behindColon.andThen (rest.andThen rest').toRest)))
  else return ([], start)
termination_by s.length
decreasing_by
  exact Nat.lt_of_lt_of_le rest.2
    (Nat.le_trans behindColon.2 (Nat.le_trans behindKey.2 start.2))

/-- Reads a value from its first octet on. What stands inside brackets is read by `inside`; without
it the brackets are too many. -/
def readFrom (inside : Option (Reader Json)) (b : UInt8) (s : Octets) :
    Except Fault (Json × Rest s) :=
  if b = 0x6E then readWord .null [0x75, 0x6C, 0x6C] s
  else if b = 0x74 then readWord (.bool true) [0x72, 0x75, 0x65] s
  else if b = 0x66 then readWord (.bool false) [0x61, 0x6C, 0x73, 0x65] s
  else if b = 0x2D then do
    let (n, rest) ← readUnsigned true s
    return (.number n, rest.toRest)
  else if b = 0x22 then do
    let (text, rest) ← readString s
    return (.string text, rest)
  else if b = 0x5B then
    match inside with
    | none => .error (.on .recursionLimit (b :: s))
    | some item => do
      let (items, rest) ← readItems item true s
      return (.array items, rest)
  else if b = 0x7B then
    match inside with
    | none => .error (.on .recursionLimit (b :: s))
    | some value => do
      let (members, rest) ← readMembers value true s
      return (.object (Members.ordered members), rest)
  else .error (.on .expectedValue (b :: s))

def readBehindBlank (inside : Option (Reader Json)) : Reader Json := fun s =>
  match firstAfter? isBlank s with
  | none => .error (.on .endInValue [])
  | some (b, behind) =>
    if isDigit b then do
      let start := behind.putBack b
      let (n, rest) ← readUnsigned false start.1
      return (.number n, start.andThenShorter rest)
    else do
      let (value, rest) ← readFrom inside b behind.1
      return (value, behind.andThen rest)

def readValue : (depth : Nat) → Reader Json
  | 0 => readBehindBlank none
  | depth + 1 => readBehindBlank (some (readValue depth))

def parse (s : Octets) : Except Fault Json := do
  let (value, rest) ← readValue maxDepth s
  match firstAfter? isBlank rest.1 with
  | none => return value
  | some (b, behind) => throw (.on .trailingCharacters (b :: behind.1))

end LspWire.Json
