import LspWire.Text.Rest

/-! Labels of hosts in ASCII.
A label with other letters is written as its ASCII letters, a dash, and the places and values of
the others as one run of differences, in numbers of base 36 whose digit sizes adapt. -/

namespace LspWire.Punycode

def digit (n : Nat) : Char :=
  if n < 26 then Char.ofNat (n + 'a'.toNat) else Char.ofNat (n - 26 + '0'.toNat)

/-- The digit at place `k` that ends a number, within 1 and 26. -/
def threshold (k bias : Nat) : Nat := max 1 (min 26 (k - bias))

theorem threshold_pos (k bias : Nat) : 1 ≤ threshold k bias := Nat.le_max_left ..

/-- Divides by 35 until the rest is at most 455, and counts in steps of 36. -/
def reduce (delta : Nat) : Nat × Nat :=
  if 455 < delta then
    let (steps, rest) := reduce (delta / 35)
    (steps + 36, rest)
  else (0, delta)
termination_by delta
decreasing_by omega

/-- The bias behind a difference, when `count` letters have been placed. -/
def adapt (delta count : Nat) (first : Bool) : Nat :=
  let scaled := if first then delta / 700 else delta / 2
  let (steps, rest) := reduce (scaled + scaled / count)
  steps + 36 * rest / (rest + 38)

def digits (bias k q : Nat) : List Char :=
  let t := threshold k bias
  if q < t then [digit q]
  else digit (t + (q - t) % (36 - t)) :: digits bias (k + 36) ((q - t) / (36 - t))
termination_by q
decreasing_by
  have pos := threshold_pos k bias
  have := Nat.div_le_self (q - threshold k bias) (36 - threshold k bias)
  omega

structure State where
  written : List Char
  delta : Nat
  bias : Nat
  /-- How many letters have been placed. -/
  count : Nat

/-- Passes a letter of the label while letters with the value `n` are placed. -/
def pass (basic n : Nat) (s : State) (c : Char) : State :=
  if c.toNat < n then { s with delta := s.delta + 1 }
  else if c.toNat = n then
    { written := s.written ++ digits s.bias 36 s.delta
      delta := 0
      bias := adapt s.delta (s.count + 1) (s.count == basic)
      count := s.count + 1 }
  else s

/-- Places the letters with each of the values in turn; `next` is the first value not passed. -/
def place (label : List Char) (basic : Nat) (next : Nat) (s : State) : List Nat → State
  | [] => s
  | n :: values =>
    let begun := { s with delta := s.delta + (n - next) * (s.count + 1) }
    let placed := label.foldl (pass basic n) begun
    place label basic (n + 1) { placed with delta := placed.delta + 1 } values

def encode (label : List Char) : List Char :=
  let basic := label.filter fun c => c.toNat < 0x80
  let values := ((label.filter fun c => 0x80 ≤ c.toNat).map Char.toNat).eraseDups.mergeSort
  let front := if basic.isEmpty then [] else basic ++ ['-']
  front ++ (place label basic.length 0x80 ⟨[], 0, 72, basic.length⟩ values).written

def digitValue? (c : Char) : Option Nat :=
  if 'a' ≤ c ∧ c ≤ 'z' then some (c.toNat - 'a'.toNat)
  else if c.isDigit then some (c.toNat - '0'.toNat + 26)
  else none

def maxNumber : Nat := 0xFFFFFFFF

/-- Reads the digits of a number from place `k` on, on top of `value`; a digit at this place counts
`weight` times. -/
def readNumber (bias k weight value : Nat) : (s : List Char) → Option (Nat × Shorter s)
  | [] => none
  | c :: behind => do
    let digit ← digitValue? c
    let value := value + digit * weight
    let t := threshold k bias
    if maxNumber < value then none
    else if digit < t then return (value, (Rest.all behind).taking c)
    else if maxNumber < weight * (36 - t) then none
    else
      let (value, rest) ← readNumber bias (k + 36) (weight * (36 - t)) value behind
      return (value, rest.behind c)

/-- Places the letters that a run of differences tells of among those in `placed`; `n` is the value
of the last one and `i` the place behind it. -/
def placeFrom (placed : List Char) (n i bias : Nat) (s : List Char) : Option (List Char) :=
  if s.isEmpty then some placed
  else do
    let (next, rest) ← readNumber bias 36 1 i s
    let count := placed.length + 1
    let value := n + next / count
    let place := next % count
    let bias := adapt (next - i) count (i == 0)
    if maxNumber < value ∨ ¬ value.isValidChar then none
    let placed := placed.take place ++ Char.ofNat value :: placed.drop place
    placeFrom placed value (place + 1) bias rest.1
termination_by s.length
decreasing_by exact rest.2

/-- What stands before the last dash and behind it; a dash in front of everything is none. -/
def splitLastDash (s : List Char) : List Char × List Char :=
  match s.reverse.dropWhile (· != '-') with
  | _ :: first :: before =>
    ((first :: before).reverse, (s.reverse.takeWhile (· != '-')).reverse)
  | _ => ([], s)

def decode? (s : List Char) : Option (List Char) :=
  let (basic, differences) := splitLastDash s
  if basic.all fun c => c.toNat < 0x80 then placeFrom basic 0x80 0 72 differences else none

end LspWire.Punycode
