import LspWire.Text.Composition.Table

/-! Text in composed form.
Every character is taken apart, marks behind a letter are put in order, and then each letter is put
together with the marks behind it where there is a character for both. Syllables of Hangul are made by a
rule: a letter in front, a vowel, and perhaps a letter at the end. -/

namespace LspWire.Text.Composition

namespace Hangul

def firstSyllable : Nat := 0xAC00
def firstLead : Nat := 0x1100
def firstVowel : Nat := 0x1161
def noTail : Nat := 0x11A7
def leads : Nat := 19
def vowels : Nat := 21
def tails : Nat := 28

def letters? (c : Char) : Option (List Char) :=
  let index := c.toNat - firstSyllable
  if c.toNat < firstSyllable ∨ leads * vowels * tails ≤ index then none
  else
    let tail := index % tails
    let lead := firstLead + index / tails / vowels
    let vowel := firstVowel + index / tails % vowels
    some (([lead, vowel] ++ if tail = 0 then [] else [noTail + tail]).map Char.ofNat)

/-- The syllable of a letter and a vowel, or of a syllable without a letter at its end and such a
letter. -/
def joined? (a b : Char) : Option Char :=
  let lead := a.toNat - firstLead
  let vowel := b.toNat - firstVowel
  let index := a.toNat - firstSyllable
  if firstLead ≤ a.toNat ∧ lead < leads ∧ firstVowel ≤ b.toNat ∧ vowel < vowels then
    some (Char.ofNat (firstSyllable + (lead * vowels + vowel) * tails))
  else if firstSyllable ≤ a.toNat ∧ index < leads * vowels * tails ∧ index % tails = 0 ∧
      noTail < b.toNat ∧ b.toNat < noTail + tails then
    some (Char.ofNat (a.toNat + (b.toNat - noTail)))
  else none

end Hangul

/-- What a character is made of, where characters made of two are taken apart `depth` times. -/
def partsOf : (depth : Nat) → Char → List Char
  | 0, c => [c]
  | depth + 1, c =>
    match pairs.image? c with
    | some [a, b] => partsOf depth a ++ [b]
    | _ => (expansions.image? c).getD [c]

def maxDepth : Nat := 3

def decompose (s : List Char) : List Char :=
  s.flatMap fun c => (Hangul.letters? c).getD (partsOf maxDepth c)

/-- Sorts each run of elements of a rank above zero by rank; those of one rank stay in order. -/
def sortRuns {α : Type} (rank : α → Nat) : List α → List α
  | [] => []
  | a :: rest =>
    if rank a = 0 then a :: sortRuns rank rest
    else
      let run := a :: rest.takeWhile fun b => rank b != 0
      run.mergeSort (fun a b => decide (rank a ≤ rank b)) ++
        sortRuns rank (rest.dropWhile fun b => rank b != 0)
termination_by s => s.length
decreasing_by
  · exact Nat.lt_succ_self _
  · exact Nat.lt_succ_of_le (List.dropWhile_sublist _).length_le

def classOf (c : Char) : Nat := classes.valueOf c

def order (s : List Char) : List Char := sortRuns classOf s

/-- The place of two characters in a table of what they make. -/
def pairCode (a b : Nat) : Nat := a * 0x110000 + b

def composites : CodeTable :=
  let rows := pairs.toList.filterMap fun row => match row.image with
    | [a, b] => some { row with first := pairCode a b, last := pairCode a b, image := [row.first] }
    | _ => none
  (rows.mergeSort fun x y => decide (x.first ≤ y.first)).toArray

def joined? (a b : Char) : Option Char :=
  (Hangul.joined? a b).orElse fun _ =>
    ((composites.find? (pairCode a.toNat b.toNat)).bind fun row => row.image.head?).map Char.ofNat

/-- Puts a letter together with marks behind it; `passed` are those that stay, the last of them in
front and of the class `highest`. A mark of no higher class, or a letter, is not reached across
them. -/
def composeBehind (letter : Char) (passed : List Char) (highest : Nat) : List Char → List Char
  | [] => letter :: passed.reverse
  | c :: rest =>
    let reached := passed.isEmpty || highest < classOf c
    match if reached then joined? letter c else none with
    | some joined => composeBehind joined passed highest rest
    | none =>
      if classOf c = 0 then letter :: (passed.reverse ++ composeBehind c [] 0 rest)
      else composeBehind letter (c :: passed) (classOf c) rest

/-- Puts letters together with their marks, and passes over marks that come before any letter. -/
def compose : List Char → List Char
  | [] => []
  | c :: rest => if classOf c = 0 then composeBehind c [] 0 rest else c :: compose rest

end Composition

def composed (s : List Char) : List Char :=
  Composition.compose (Composition.order (Composition.decompose s))

end LspWire.Text
