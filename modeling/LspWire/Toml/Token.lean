import LspWire.Text.Rest

/-! The tokens of a settings file.
Blanks and line ends are tokens, since a statement ends with its line; a comment is part of the
line end behind it. What is written between quotes is one token, with its escapes resolved, and
letters, digits, dashes, underscores, signs and colons run together into words. -/

namespace LspWire.Toml

inductive Token where
  | openBracket
  | closeBracket
  | openBrace
  | closeBrace
  | comma
  | equals
  | dot
  | blank (width : List Char)
  | newline
  /-- A quoted text and whether three quotes held it. -/
  | text (content : List Char) (block : Bool)
  | word (letters : List Char)

/-- Characters that stand neither in texts nor in comments. A tab is none of them. -/
def isControl (c : Char) : Bool := (c < ' ' && c != '\t') || c == '\x7f'

def isBlank (c : Char) : Bool := c == ' ' || c == '\t'

def isWordChar (c : Char) : Bool :=
  c.isAlphanum || c == '_' || c == '-' || c == '+' || c == ':'

def newline? : (s : List Char) → Option (Rest s)
  | '\n' :: behind => some (.tail '\n' behind)
  | '\r' :: '\n' :: behind => some ((Rest.tail '\n' behind).behind '\r')
  | _ => none

def hexDigit? (c : Char) : Option Nat :=
  if c.isDigit then some (c.toNat - '0'.toNat)
  else if 'a' ≤ c ∧ c ≤ 'f' then some (c.toNat - 'a'.toNat + 10)
  else if 'A' ≤ c ∧ c ≤ 'F' then some (c.toNat - 'A'.toNat + 10)
  else none

def digitsValue? (base : Nat) (digits : List Char) : Option Nat :=
  digits.foldlM (fun value c => do
    let digit ← hexDigit? c
    if digit < base then some (value * base + digit) else none) 0

def readCode (width : Nat) (s : List Char) : Option (Char × Rest s) :=
  let digits := s.take width
  if digits.length = width then
    (digitsValue? 16 digits).bind fun code =>
      if code.isValidChar then
        some (Char.ofNat code, .drop width s)
      else none
  else none

def letterEscape? : Char → Option Char
  | 'b' => some '\x08'
  | 't' => some '\t'
  | 'n' => some '\n'
  | 'f' => some '\x0c'
  | 'r' => some '\r'
  | 'e' => some '\x1b'
  | '"' => some '"'
  | '\\' => some '\\'
  | _ => none

def readEscape : (s : List Char) → Option (Char × Rest s)
  | [] => none
  | c :: behind =>
    match letterEscape? c with
    | some escaped => some (escaped, .tail c behind)
    | none =>
      let width := if c = 'x' then 2 else if c = 'u' then 4 else if c = 'U' then 8 else 0
      if width = 0 then none
      else (readCode width behind).map fun (escaped, rest) => (escaped, rest.behind c)

/-- Reads a text that ends on its line, up to the closing quote; escapes count between double
quotes only. -/
def readLine (quote : Char) : (s : List Char) → Option (List Char × Rest s)
  | [] => none
  | c :: behind => do
    if c = quote then return ([], .tail c behind)
    else if c = '\\' ∧ quote = '"' then
      let (escaped, rest) ← readEscape behind
      let (content, rest') ← readLine quote rest.1
      return (escaped :: content, (rest.andThen rest').behind c)
    else if isControl c then none
    else
      let (content, rest) ← readLine quote behind
      return (c :: content, rest.behind c)
termination_by s => s.length
decreasing_by
  · exact Nat.lt_succ_of_le rest.2
  · exact Nat.lt_succ_self _

/-- What is left behind blanks and line ends. -/
def skipLines : (s : List Char) → Rest s
  | '\r' :: '\n' :: behind => ((skipLines behind).behind '\n').behind '\r'
  | c :: behind =>
    if isBlank c || c == '\n' then (skipLines behind).behind c else .all (c :: behind)
  | [] => .all []

/-- What is left behind a backslash that ends its line: the text goes on at the next character
that is neither blank nor a line end. -/
def lineContinuation? (s : List Char) : Option (Rest s) :=
  let blanks := Rest.dropWhile isBlank s
  (newline? blanks.1).map fun line => (blanks.andThen line).andThen (skipLines line.1)

/-- Reads a text between three quotes, up to and with the closing ones. Up to two more quotes in
front of them belong to the text. -/
def readBlock (quote : Char) : (s : List Char) → Option (List Char × Rest s)
  | [] => none
  | c :: behind => do
    if c = quote then
      let more := (behind.takeWhile (· == quote)).length
      if more < 2 then
        let (content, rest) ← readBlock quote behind
        return (c :: content, rest.behind c)
      else if more < 5 then
        return (List.replicate (more - 2) quote, (Rest.drop more behind).behind c)
      else none
    else if c = '\\' ∧ quote = '"' then
      match lineContinuation? behind with
      | some rest =>
        let (content, rest') ← readBlock quote rest.1
        return (content, (rest.andThen rest').behind c)
      | none =>
        let (escaped, rest) ← readEscape behind
        let (content, rest') ← readBlock quote rest.1
        return (escaped :: content, (rest.andThen rest').behind c)
    else if isControl c ∧ c ≠ '\n' ∧ ¬ (c = '\r' ∧ behind.head? = some '\n') then none
    else
      let (content, rest) ← readBlock quote behind
      return (c :: content, rest.behind c)
termination_by s => s.length
decreasing_by
  · exact Nat.lt_succ_self _
  · exact Nat.lt_succ_of_le rest.2
  · exact Nat.lt_succ_of_le rest.2
  · exact Nat.lt_succ_self _

/-- Reads a text from behind its first quote. A line end right behind three quotes is dropped. -/
def readText (quote : Char) (s : List Char) : Option (Token × Rest s) :=
  if s.take 2 = [quote, quote] then
    let opened := Rest.drop 2 s
    let start := match newline? opened.1 with
      | some line => opened.andThen line
      | none => opened
    (readBlock quote start.1).map fun (content, rest) => (.text content true, start.andThen rest)
  else (readLine quote s).map fun (content, rest) => (.text content false, rest)

def readComment : (s : List Char) → Option (Rest s)
  | [] => some (.all [])
  | c :: behind =>
    if (newline? (c :: behind)).isSome then some (.all (c :: behind))
    else if isControl c then none
    else (readComment behind).map fun rest => rest.behind c

def sign? : Char → Option Token
  | '[' => some .openBracket
  | ']' => some .closeBracket
  | '\x7b' => some .openBrace
  | '\x7d' => some .closeBrace
  | ',' => some .comma
  | '=' => some .equals
  | '.' => some .dot
  | _ => none

def readToken (c : Char) (behind : List Char) : Option (Option Token × Rest behind) :=
  match sign? c with
  | some token => some (some token, .all behind)
  | none =>
    if c = '"' ∨ c = '\'' then (readText c behind).map fun (token, rest) => (some token, rest)
    else if c = '#' then (readComment behind).map fun rest => (none, rest)
    else if c = '\n' then some (some .newline, .all behind)
    else if c = '\r' then
      if behind.head? = some '\n' then
        some (some .newline, .drop 1 behind)
      else none
    else if isBlank c then
      some (some (.blank (c :: behind.takeWhile isBlank)), .dropWhile isBlank behind)
    else if isWordChar c then
      some (some (.word (c :: behind.takeWhile isWordChar)), .dropWhile isWordChar behind)
    else none

def tokens : List Char → Option (List Token)
  | [] => some []
  | c :: behind => do
    let (token, rest) ← readToken c behind
    return token.toList ++ (← tokens rest.1)
termination_by s => s.length
decreasing_by exact Nat.lt_succ_of_le rest.2

end LspWire.Toml
