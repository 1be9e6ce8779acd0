import LspWire.Toml.Scalar
import LspWire.Toml.Table

/-! Settings files read into documents.
A file is a list of statements, one on a line: a pair of a key and a value, or a header that opens
a table for the pairs below it. Only brackets and braces may go on over line ends, but a key never
does. -/

namespace LspWire.Toml

inductive Statement where
  | pair (key : List String) (value : Json)
  | header (path : List String) (repeated : Bool)

abbrev Reader (α : Type) := (s : List Token) → Option (α × Shorter s)

def maxDepth : Nat := 80

def Token.isBlank : Token → Bool
  | .blank _ => true
  | _ => false

def Token.isGap : Token → Bool
  | .blank _ | .newline => true
  | _ => false

def isKeyChar (c : Char) : Bool := c.isAlphanum || c == '_' || c == '-'

def keyPart? : Token → Option String
  | .text content false => some (String.ofList content)
  | .word letters => if letters.all isKeyChar then some (String.ofList letters) else none
  | _ => none

def maxParts : Nat := 80

def readParts (s : List Token) : Option (List String × Shorter s) := do
  let (part, behind) ← firstAfter? Token.isBlank s
  let name ← keyPart? part
  match firstAfter? Token.isBlank behind.1 with
  | some (.dot, rest) =>
    let (names, rest') ← readParts rest.1
    return (name :: names, behind.andThen (rest.andThen rest'.toRest).toRest)
  | some (next, rest) => return ([name], behind.andThen (rest.putBack next))
  | none => return ([name], behind)
termination_by s.length
decreasing_by exact Nat.lt_trans rest.2 behind.2

def readKey : Reader (List String) := fun s => do
  let (parts, rest) ← readParts s
  if parts.length ≤ maxParts then return (parts, rest) else none

def bareWord : (s : List Token) → List Char × Rest s
  | .word letters :: rest =>
    let (more, left) := bareWord rest
    (letters ++ more, left.behind (.word letters))
  | .dot :: rest =>
    let (more, left) := bareWord rest
    ('.' :: more, left.behind .dot)
  | rest => ([], .all rest)

def timeBehind? : (s : List Token) → Option (List Char × Rest s)
  | .blank [' '] :: .word time :: behind =>
    if (time.head?.map Char.isDigit).getD false then
      let (letters, rest) := bareWord (.word time :: behind)
      some (' ' :: letters, rest.behind (.blank [' ']))
    else none
  | _ => none

/-- The bare word that `first` begins, with the time behind it when it is a date. -/
def scalarWord (first : List Char) (s : List Token) : List Char × Rest s :=
  let (more, rest) := bareWord s
  let letters := first ++ more
  if readDate letters = some [] then
    match timeBehind? rest.1 with
    | some (time, rest') => (letters ++ time, rest.andThen rest')
    | none => (letters, rest)
  else (letters, rest)

def readItems (item : Reader Json) (s : List Token) : Option (List Json × Shorter s) := do
  let (first, behind) ← firstAfter? Token.isGap s
  match first with
  | .closeBracket => return ([], behind)
  | first =>
    let start := behind.putBack first
    let (value, rest) ← item start.1
    match ← firstAfter? Token.isGap rest.1 with
    | (.comma, rest') =>
      let (values, rest'') ← readItems item rest'.1
      return (value :: values,
        start.andThenShorter (rest.andThen (rest'.andThen rest''.toRest).toRest))
    | (.closeBracket, rest') =>
      return ([value], start.andThenShorter (rest.andThen rest'.toRest))
    | _ => none
termination_by s.length
decreasing_by exact Nat.lt_of_lt_of_le (Nat.lt_trans rest'.2 rest.2) start.2

def readPair (skipped : Token → Bool) (value : Reader Json) :
    Reader (List String × Json) := fun s => do
  let (key, rest) ← readKey s
  match ← firstAfter? skipped rest.1 with
  | (.equals, behind) =>
    let start := Rest.dropWhile skipped behind.1
    let (v, rest') ← value start.1
    return ((key, v), rest.andThen (behind.andThen (start.andThenShorter rest').toRest).toRest)
  | _ => none

def readPairs (value : Reader Json) (entries : Entries) (s : List Token) :
    Option (Entries × Shorter s) := do
  let (first, behind) ← firstAfter? Token.isGap s
  match first with
  | .closeBrace => return (entries, behind)
  | first =>
    let start := behind.putBack first
    let ((key, v), rest) ← readPair Token.isGap value start.1
    let entries ← setKey v key entries
    match ← firstAfter? Token.isGap rest.1 with
    | (.comma, rest') =>
      let (entries, rest'') ← readPairs value entries rest'.1
      return (entries, start.andThenShorter (rest.andThen (rest'.andThen rest''.toRest).toRest))
    | (.closeBrace, rest') =>
      return (entries, start.andThenShorter (rest.andThen rest'.toRest))
    | _ => none
termination_by s.length
decreasing_by exact Nat.lt_of_lt_of_le (Nat.lt_trans rest'.2 rest.2) start.2

/-- Reads a value from its first token on. What stands inside brackets is read by `inside`;
without it the brackets are too many. -/
def readFrom (inside : Option (Reader Json)) : Reader Json
  | [] => none
  | .text content block :: behind =>
    some (.string (String.ofList content), (Rest.all behind).taking (.text content block))
  | .openBracket :: behind => do
    let (items, rest) ← readItems (← inside) behind
    return (.array items, rest.behind .openBracket)
  | .openBrace :: behind => do
    let (entries, rest) ← readPairs (← inside) [] behind
    return (.object (membersOf entries), rest.behind .openBrace)
  | .word letters :: behind => do
    let (letters, rest) := scalarWord letters behind
    return (← readScalar letters, rest.taking (.word _))
  | _ :: _ => none

def readValue : (depth : Nat) → Reader Json
  | 0 => readFrom none
  | depth + 1 => readFrom (some (readValue depth))

def readHeader (repeated : Bool) (s : List Token) : Option (Statement × Rest s) := do
  let (path, rest) ← readKey s
  match ← firstAfter? Token.isBlank rest.1 with
  | (.closeBracket, behind) =>
    let closed := (rest.andThen behind.toRest).toRest
    match repeated, closed.1 with
    | true, .closeBracket :: _ => return (.header path true, closed.andThen (.drop 1 closed.1))
    | true, _ => none
    | false, _ => return (.header path false, closed)
  | _ => none

def readStatement : Reader Statement
  | .openBracket :: .openBracket :: behind => do
    let (statement, rest) ← readHeader true behind
    return (statement, (rest.taking .openBracket).behind .openBracket)
  | .openBracket :: behind => do
    let (statement, rest) ← readHeader false behind
    return (statement, rest.taking .openBracket)
  | s => do
    let ((key, v), rest) ← readPair Token.isBlank (readValue maxDepth) s
    return (.pair key v, rest)

def readStatements (s : List Token) : Option (List Statement) :=
  match firstAfter? Token.isGap s with
  | none => some []
  | some (first, behind) => do
    let start := behind.putBack first
    let (statement, rest) ← readStatement start.1
    match firstAfter? Token.isBlank rest.1 with
    | none => return [statement]
    | some (.newline, rest') => return statement :: (← readStatements rest'.1)
    | _ => none
termination_by s.length
decreasing_by exact Nat.lt_of_lt_of_le (Nat.lt_trans rest'.2 rest.2) start.2

/-- Carries out statements on the entries so far; `path` is the table that pairs go to. -/
def build (path : List String) (entries : Entries) : List Statement → Option Entries
  | [] => some entries
  | .pair key v :: rest => do build path (← changeTable (setKey v key) path entries) rest
  | .header path' repeated :: rest => do build path' (← openTable repeated path' entries) rest

def parse (text : String) : Option Json := do
  let characters := match text.toList with
    | '\ufeff' :: rest => rest
    | all => all
  let statements ← readStatements (← tokens characters)
  return .object (membersOf (← build [] [] statements))

end LspWire.Toml
