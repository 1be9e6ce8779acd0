import LspWire.Text.Utf8

/-! Characters written by number in an address.
A character that cannot stand in a part is written as its octets, each a percent sign and two
digits. Controls and everything beyond ASCII are always written so. -/

namespace LspWire

open Text (Octets)

namespace Percent

def hexDigit (n : Nat) : Char := (Nat.digitChar n).toUpper

def octet (b : UInt8) : List Char := ['%', hexDigit (b.toNat / 16), hexDigit (b.toNat % 16)]

def encode (escaped : Char → Bool) (s : List Char) : String :=
  String.ofList (s.flatMap fun c =>
    if c < ' ' || '~' < c || escaped c then (Text.encode (String.singleton c)).flatMap octet
    else [c])

def isAmong (characters : String) (c : Char) : Bool := characters.toList.contains c

def inFragment : Char → Bool := isAmong " \"<>`"

def inPath : Char → Bool := isAmong " \"<>`#?\x7b\x7d"

def inCredentials : Char → Bool := isAmong " \"<>`#?\x7b\x7d/:;=@[\\]^|"

def inQuery : Char → Bool := isAmong " \"#<>"

def inSpecialQuery : Char → Bool := isAmong " \"#<>'"

def hexValue? (b : UInt8) : Option Nat :=
  if 0x30 ≤ b ∧ b ≤ 0x39 then some (b.toNat - 0x30)
  else if 0x41 ≤ b ∧ b ≤ 0x46 then some (b.toNat - 0x37)
  else if 0x61 ≤ b ∧ b ≤ 0x66 then some (b.toNat - 0x57)
  else none

/-- Octets with those written by number decoded; a percent sign without two digits stays. -/
def decode : Octets → Octets
  | 0x25 :: a :: b :: rest =>
    match hexValue? a, hexValue? b with
    | some high, some low => UInt8.ofNat (high * 16 + low) :: decode rest
    | _, _ => 0x25 :: decode (a :: b :: rest)
  | b :: rest => b :: decode rest
  | [] => []
termination_by s => s.length

end Percent

end LspWire
