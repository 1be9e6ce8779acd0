import LspWire.Uri.Domain.Direction
import LspWire.Uri.Domain.Joiner
import LspWire.Uri.Domain.Table
import LspWire.Uri.Percent
import LspWire.Uri.Punycode

/-! Names of hosts, brought to one spelling and written in ASCII.
Of all the ways to write a name one is kept: characters are replaced by those they stand for, such
as capitals by small letters, or dropped, and the result is composed. A name is a list of labels between dots. A label may come with its letters or already written in
ASCII, and the same is asked of its letters either way. -/

namespace LspWire.Domain

/-- What a character becomes; a name that has a refused one is none. -/
def mapChar? (c : Char) : Option (List Char) :=
  if refused.contains c then none
  else if ignored.contains c then some []
  else some ((replaced.image? c).getD [c])

def mapped? (name : List Char) : Option (List Char) :=
  (name.mapM mapChar?).map fun parts => Text.composed parts.flatten

def isKept (c : Char) : Bool := !(refused.contains c || ignored.contains c || replaced.contains c)

def isAscii (c : Char) : Bool := c.toNat < 0x80

/-- Characters that no name has, whatever they stand for. -/
def isForbidden (c : Char) : Bool :=
  c ≤ ' ' || c == '\x7f' || Percent.isAmong "%#/:<>?@[\\]^|" c

def asciiSign : List Char := "xn--".toList

def maxWritten : Nat := 2000

def maxShown : Nat := 1000

structure Label where
  /-- The letters of the label. -/
  shown : List Char
  /-- The label in ASCII. -/
  written : List Char

namespace Label

def ofShown? (s : List Char) : Option Label :=
  if s.all isAscii then some ⟨s, s⟩
  else if s.length ≤ maxShown then some ⟨s, asciiSign ++ Punycode.encode s⟩
  else none

def ofWritten? (s : List Char) : Option Label := do
  if s.isEmpty ∨ s.getLast? = some '-' ∨ maxWritten < s.length then none
  let shown ← Punycode.decode? s
  if shown.all (fun c => isKept c && !isForbidden c && c != '.') ∧ Text.composed shown = shown then
    return ⟨shown, asciiSign ++ s⟩
  else none

def read? (s : List Char) : Option Label :=
  if asciiSign.isPrefixOf s then ofWritten? (s.drop asciiSign.length) else ofShown? s

end Label

def stands (shown : List Char) : Bool :=
  !shown.head?.any marks.contains && joinersStand [] shown

def labels? (name : List Char) : Option (List Label) := do
  let spelled ← mapped? name
  if spelled.any isForbidden then none
  let labels ← (spelled.splitOnP (· == '.')).mapM Label.read?
  let shown := labels.map Label.shown
  if shown.all stands ∧ agreeInDirection shown then return labels else none

def written? (name : List Char) : Option (List Char) :=
  (labels? name).map fun labels => [('.' : Char)].intercalate (labels.map Label.written)

end LspWire.Domain
