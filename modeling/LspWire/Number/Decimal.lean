import LspWire.Number.Binary64

/-! Decimal numbers read into binary ones.
A payload's number is rounded twice: its first digits to a binary number, and then the product
or quotient with a power of ten. A setting's number is rounded once, from its exact value. -/

namespace LspWire.Binary64

def powerOfTen (n : Nat) : Option Binary64 := ofNat (Nat.pow 10 n)

/-- A number times `10 ^ exponent`, through one power of ten; a tiny number is first divided by
`10 ^ 308` until the rest of the exponent is in reach. -/
def scale (x : Binary64) (exponent : Int) : Option Binary64 :=
  if exponent.natAbs ≤ 308 then
    if 0 ≤ exponent then do x.mul (← powerOfTen exponent.natAbs)
    else do x.div (← powerOfTen exponent.natAbs)
  else if x.isZero then some x
  else if h : 0 ≤ exponent then none
  else do
    let reduced ← x.div (← powerOfTen 308)
    reduced.scale (exponent + 308)
termination_by (-exponent).toNat

/-- The number read from a significand and a power of ten, each rounded on its own. -/
def ofDecimal (negative : Bool) (significand : Nat) (exponent : Int) : Option Binary64 := do
  let x ← (← ofNat significand).scale exponent
  return if negative then x.negate else x

def ofExactDecimal (negative : Bool) (significand : Nat) (exponent : Int) : Option Binary64 :=
  nearest negative (significand * Nat.pow 10 exponent.toNat) (Nat.pow 10 (-exponent).toNat)

end LspWire.Binary64
