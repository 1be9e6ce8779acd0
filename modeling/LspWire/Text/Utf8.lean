import LspWire.Text.Rest

/-! Octets read as UTF-8.
Octets split into pieces: a character, or a run that begins one and cannot go on. The first run of
the second kind ends the valid prefix; shown text puts one replacement character for each. -/

namespace LspWire.Text

abbrev Octets := List UInt8

inductive Piece where
  | char (c : Char)
  | invalid
deriving DecidableEq

/-- What may follow a first octet: its own bits of the code point, the number of octets to come
and the range of the next one, which excludes overlong forms, surrogates and code points beyond
the last one. -/
structure Lead where
  bits : Nat
  following : Nat
  low : UInt8
  high : UInt8

def lead? (b : UInt8) : Option Lead :=
  let n := b.toNat
  if n < 0x80 then some ⟨n, 0, 0x80, 0xBF⟩
  else if n < 0xC2 then none
  else if n < 0xE0 then some ⟨n - 0xC0, 1, 0x80, 0xBF⟩
  else if n < 0xF0 then
    some ⟨n - 0xE0, 2, if n = 0xE0 then 0xA0 else 0x80, if n = 0xED then 0x9F else 0xBF⟩
  else if n < 0xF5 then
    some ⟨n - 0xF0, 3, if n = 0xF0 then 0x90 else 0x80, if n = 0xF4 then 0x8F else 0xBF⟩
  else none

/-- Reads the octets that a character still needs and stops before the first one that does not
continue it; also how many were read. -/
def continued (code : Nat) (low high : UInt8) : Nat → (s : Octets) → Piece × Nat × Rest s
  | 0, s => (.char (Char.ofNat code), 0, .all s)
  | _ + 1, [] => (.invalid, 0, .all [])
  | following + 1, b :: s =>
    if low ≤ b && b ≤ high then
      let (piece, size, rest) := continued (code * 64 + (b.toNat - 0x80)) 0x80 0xBF following s
      (piece, size + 1, rest.behind b)
    else (.invalid, 0, .all (b :: s))

def firstPiece (b : UInt8) (s : Octets) : Piece × Nat × Rest s :=
  match lead? b with
  | some lead => continued lead.bits lead.low lead.high lead.following s
  | none => (.invalid, 0, .all s)

/-- The pieces of octets, each with the number of octets it takes. -/
def pieces : Octets → List (Piece × Nat)
  | [] => []
  | b :: s =>
    let (piece, size, rest) := firstPiece b s
    (piece, size + 1) :: pieces rest.1
termination_by s => s.length
decreasing_by exact Nat.lt_succ_of_le rest.2

def validLength (s : Octets) : Nat :=
  ((pieces s).takeWhile fun (piece, _) => piece != .invalid).foldl (fun n (_, size) => n + size) 0

def Piece.char? : Piece → Option Char
  | .char c => some c
  | .invalid => none

def decode? (s : Octets) : Option String :=
  ((pieces s).mapM (fun piece : Piece × Nat => piece.1.char?)).map String.ofList

/-- Text to show: each invalid piece becomes one U+FFFD. -/
def shown (s : Octets) : String :=
  String.ofList ((pieces s).map fun piece => piece.1.char?.getD (Char.ofNat 0xFFFD))

def encode (s : String) : Octets := s.toUTF8.toList

end LspWire.Text
