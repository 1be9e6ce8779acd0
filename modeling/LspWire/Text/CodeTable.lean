/-! Tables of characters, written as text.
A table is a row of words in ascending order. A word names a character by its code point, or a
range of them with a dash, of which a slash and 2 leave only every second one. Behind an equals sign
stand the characters that the first of the range is taken to, and the others of the range are taken
as far beyond them; behind a colon stands a number that holds for all of the range. All numbers are
hexadecimal, in small letters or capitals. -/

namespace LspWire.Text

def isHexDigit (c : Char) : Bool := c.isDigit || ('a' ≤ c && c ≤ 'f') || ('A' ≤ c && c ≤ 'F')

/-- The number that digits stand for; other characters count as zero. -/
def number (base : Nat) (digits : List Char) : Nat :=
  digits.foldl (fun value c => value * base +
    (if c.isDigit then c.toNat - '0'.toNat else c.toLower.toNat - 'a'.toNat + 10)) 0

def hexText (n : Nat) : String := String.ofList (Nat.toDigits 16 n)

structure CodeRow where
  first : Nat
  last : Nat
  step : Nat
  image : List Nat
  value : Nat

namespace CodeRow

def contains (row : CodeRow) (code : Nat) : Bool :=
  row.first ≤ code && code ≤ row.last && (code - row.first) % row.step == 0

/-- What a code point of the row is taken to. -/
def imageOf (row : CodeRow) (code : Nat) : List Nat := row.image.map (· + (code - row.first))

def split (sign : Char) (s : List Char) : List Char × List Char :=
  (s.takeWhile (· != sign), (s.dropWhile (· != sign)).drop 1)

def ofWord (word : List Char) : CodeRow :=
  let (word, value) := split ':' word
  let (range, image) := split '=' word
  let (range, step) := split '/' range
  let (first, last) := split '-' range
  { first := number 16 first
    last := number 16 (if last.isEmpty then first else last)
    step := if step.isEmpty then 1 else number 16 step
    image := if image.isEmpty then [] else (image.splitOnP (· == '+')).map (number 16)
    value := number 16 value }

end CodeRow

abbrev CodeTable := Array CodeRow

namespace CodeTable

def ofText (text : String) : CodeTable :=
  let words := (text.toList.splitOnP fun c => c == ' ' || c == '\n').filter fun word => word != []
  (words.map CodeRow.ofWord).toArray

/-- The row among those from `low` up to `high` whose range a code point falls into. -/
def seek (table : CodeTable) (code low high : Nat) : Option CodeRow :=
  if low < high then
    let middle := (low + high) / 2
    match table[middle]? with
    | none => none
    | some row =>
      if code < row.first then seek table code low middle
      else if row.last < code then seek table code (middle + 1) high
      else if row.contains code then some row
      else none
  else none
termination_by high - low

def find? (table : CodeTable) (code : Nat) : Option CodeRow := table.seek code 0 table.size

def contains (table : CodeTable) (c : Char) : Bool := (table.find? c.toNat).isSome

def image? (table : CodeTable) (c : Char) : Option (List Char) :=
  (table.find? c.toNat).map fun row => (row.imageOf c.toNat).map Char.ofNat

def valueOf (table : CodeTable) (c : Char) : Nat := ((table.find? c.toNat).map CodeRow.value).getD 0

end CodeTable

end LspWire.Text
