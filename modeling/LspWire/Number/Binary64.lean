/-! Finite binary floating-point numbers of 64 bits, held exactly.
A number is a sign, a whole mantissa and a power of two, so every operation below is exact
arithmetic on `Nat` followed by one rounding to the nearest number, a half to the even one.
There is no infinity and no NaN: a result whose magnitude is too large is absent. -/

namespace LspWire

/-- The number `mantissa * 2 ^ exponent`; the sign is kept apart, so zero has two forms. -/
structure Binary64 where
  negative : Bool
  mantissa : Nat
  exponent : Int
deriving DecidableEq

namespace Binary64

def minExponent : Int := -1074

def maxExponent : Int := 971

def leastFull : Nat := 0x10000000000000

def zero (negative : Bool) : Binary64 := ⟨negative, 0, minExponent⟩

def isZero (x : Binary64) : Bool := x.mantissa == 0

def numerator (x : Binary64) : Nat := x.mantissa * Nat.pow 2 x.exponent.toNat

def denominator (x : Binary64) : Nat := Nat.pow 2 (-x.exponent).toNat

theorem denominator_pos (x : Binary64) : 0 < x.denominator := Nat.two_pow_pos _

def toRat (x : Binary64) : Rat :=
  mkRat (if x.negative then -(x.numerator : Int) else x.numerator) x.denominator

def toInt? (x : Binary64) : Option Int :=
  if x.numerator % x.denominator = 0 then
    let size : Int := (x.numerator / x.denominator : Nat)
    some (if x.negative then -size else size)
  else none

/-- Two numbers are the same when their values are; the sign of zero does not count. -/
def same (x y : Binary64) : Bool :=
  if x.isZero && y.isZero then true
  else x.negative == y.negative &&
    x.numerator * y.denominator == y.numerator * x.denominator

theorem same_self (x : Binary64) : x.same x = true := by
  unfold same; split <;> simp

/-- A quotient rounded to the nearest whole number, a half to the even neighbour. -/
def roundDiv (num den : Nat) : Nat :=
  let floor := num / den
  let twice := 2 * (num % den)
  if twice < den ∨ (twice = den ∧ floor % 2 = 0) then floor else floor + 1

/-- The quotient `num / den` in units of `2 ^ place`, rounded. -/
def inUnits (place : Int) (num den : Nat) : Nat :=
  roundDiv (num * Nat.pow 2 (-place).toNat) (den * Nat.pow 2 place.toNat)

/-- The power of two at which 53 binary digits of `num / den` end, never below the least one. -/
def lastPlace (num den : Nat) : Int :=
  let place : Int := (num.log2 : Int) - (den.log2 : Int) - 53
  let digits := num * Nat.pow 2 (-place).toNat / (den * Nat.pow 2 place.toNat)
  max minExponent (if digits < leastFull * 2 then place else place + 1)

def nearest (negative : Bool) (num den : Nat) : Option Binary64 :=
  if num = 0 then some (zero negative)
  else
    let place := lastPlace num den
    let units := inUnits place num den
    let x : Binary64 :=
      if units = leastFull * 2 then ⟨negative, leastFull, place + 1⟩
      else ⟨negative, units, place⟩
    if x.exponent ≤ maxExponent then some x else none

def ofNat (n : Nat) : Option Binary64 := nearest false n 1

def negate (x : Binary64) : Binary64 := { x with negative := !x.negative }

def mul (x y : Binary64) : Option Binary64 :=
  nearest (x.negative != y.negative) (x.numerator * y.numerator)
    (x.denominator * y.denominator)

def div (x y : Binary64) : Option Binary64 :=
  nearest (x.negative != y.negative) (x.numerator * y.denominator)
    (x.denominator * y.numerator)

end Binary64

end LspWire
