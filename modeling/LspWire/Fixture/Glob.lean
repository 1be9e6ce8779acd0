/-! Patterns for file names.
`?` is any character and `*` any run of them, also of dots and slashes. Brackets hold characters
and ranges, all but those after `!`. Two stars stand alone between slashes and are any run that
ends behind a slash or with the name.
A pattern is laid on a name from its end: a row tells for the whole name, and for what is left of it
behind each character, whether the pattern fits. -/

namespace LspWire.Glob

structure CharRange where
  low : Char
  high : Char

def CharRange.contains (range : CharRange) (c : Char) : Bool := range.low ≤ c && c ≤ range.high

inductive Token where
  | char (c : Char)
  | anyChar
  | anyRun
  | anyPath
  | within (ranges : List CharRange)
  | except (ranges : List CharRange)

inductive Problem where
  | wildcards
  | recursiveWildcards
  | invalidRange
deriving DecidableEq

def Problem.text : Problem → String
  | .wildcards => "wildcards are either regular `*` or recursive `**`"
  | .recursiveWildcards => "recursive wildcards must form a single path component"
  | .invalidRange => "invalid range pattern"

/-- A problem with the number of characters before it. -/
structure Fault where
  position : Nat
  problem : Problem
deriving DecidableEq

def Fault.message (fault : Fault) : String :=
  "Pattern syntax error near position " ++ toString fault.position ++ ": " ++ fault.problem.text

/-- The content of brackets: a dash between two characters makes a range. -/
def ranges : List Char → List CharRange
  | a :: '-' :: b :: rest => ⟨a, b⟩ :: ranges rest
  | a :: rest => ⟨a, a⟩ :: ranges rest
  | [] => []

/-- What follows an opening bracket: the token and the number of characters it takes. A closing
bracket right at the start belongs to the content. -/
def bracket? : List Char → Option (Token × Nat)
  | '!' :: first :: rest =>
    let content := rest.takeWhile (· != ']')
    if content.length < rest.length then
      some (.except (ranges (first :: content)), content.length + 3)
    else none
  | '!' :: [] => none
  | first :: rest =>
    let content := rest.takeWhile (· != ']')
    if content.length < rest.length then
      some (.within (ranges (first :: content)), content.length + 2)
    else none
  | [] => none

/-- What two stars at `position` stand for, by the characters around them: whether a slash behind
them belongs to them. -/
def pathWildcard (position : Nat) (before : Option Char) (behind : List Char) :
    Except Fault Bool :=
  if before.isSome && before != some '/' then .error ⟨position - 1, .recursiveWildcards⟩
  else match behind with
    | [] => .ok false
    | c :: _ => if c = '/' then .ok true else .error ⟨position + 2, .recursiveWildcards⟩

def tokens (position : Nat) (before : Option Char) (s : List Char) : Except Fault (List Token) :=
  match s with
  | [] => .ok []
  | '?' :: rest => do return .anyChar :: (← tokens (position + 1) (some '?') rest)
  | '*' :: '*' :: '*' :: _ => .error ⟨position + 2, .wildcards⟩
  | '*' :: '*' :: rest => do
    if ← pathWildcard position before rest then
      return .anyPath :: (← tokens (position + 3) (some '/') (rest.drop 1))
    else return .anyPath :: (← tokens (position + 2) (some '*') rest)
  | '*' :: rest => do return .anyRun :: (← tokens (position + 1) (some '*') rest)
  | '[' :: rest =>
    match bracket? rest with
    | some (token, taken) => do
      return token :: (← tokens (position + 1 + taken) (some ']') (rest.drop taken))
    | none => .error ⟨position, .invalidRange⟩
  | c :: rest => do return .char c :: (← tokens (position + 1) (some c) rest)
termination_by s.length

def parse (pattern : String) : Except Fault (List Token) := tokens 0 none pattern.toList

def accepts (token : Token) (c : Char) : Bool :=
  match token with
  | .char d => c == d
  | .anyChar | .anyRun | .anyPath => true
  | .within ranges => ranges.any (·.contains c)
  | .except ranges => !ranges.any (·.contains c)

/-- The row of no pattern at all, which fits nothing but the end. -/
def endRow (name : List Char) : List Bool := name.map (fun _ => false) ++ [true]

/-- For each place, whether it or a later one is set. -/
def somewhere : List Bool → List Bool
  | [] => []
  | here :: rest =>
    let later := somewhere rest
    (here || later.headD false) :: later

def behindSlash : List Char → List Bool → List Bool
  | c :: name, _ :: rest =>
    let later := behindSlash name rest
    ((c == '/' && rest.headD false) || later.headD false) :: later
  | _, rest => rest

/-- The row of a token and what follows it, from the row of what follows. -/
def tokenRow (name : List Char) (token : Token) (rest : List Bool) : List Bool :=
  match token with
  | .anyRun => somewhere rest
  | .anyPath => List.zipWith (· || ·) rest (behindSlash name rest)
  | token => List.zipWith (fun c behind => accepts token c && behind) name (rest.drop 1) ++ [false]

def fits (pattern : List Token) (name : List Char) : Bool :=
  (pattern.foldr (tokenRow name) (endRow name)).headD false

end LspWire.Glob
