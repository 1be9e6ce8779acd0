import LspWire.Number.Binary64

/-! The shortest decimal text that reads back as a given binary number.
The numbers that round to `x` fill an interval around it. On the coarsest decimal grid that has
a point in that interval the nearer of the two neighbours of `x` is taken, so no decimal with
fewer digits reads back as `x`. How those digits are laid out is a `Layout`. -/

namespace LspWire

/-- How a decimal is written: which scientific exponents are written out in full, whether a
positive exponent carries a sign, and which neighbour wins when both are equally near. -/
structure Layout where
  plain : Int → Bool
  signedExponent : Bool
  halfUp : Bool

structure Decimal where
  digits : Nat
  exponent : Int
deriving DecidableEq

namespace Binary64

/-- The interval that rounds to the number, in quarters of its last place: its lower end, the
number, and its upper end. The lower neighbour of a power of two is half as far away. -/
def quarters (x : Binary64) : Nat × Nat × Nat :=
  let below := if x.mantissa = leastFull ∧ minExponent < x.exponent then 1 else 2
  (4 * x.mantissa - below, 4 * x.mantissa, 4 * x.mantissa + 2)

/-- The neighbour on the grid of `10 ^ place` that rounds to the number, if there is one. -/
def gridPoint? (x : Binary64) (halfUp : Bool) (place : Int) : Option Nat :=
  let (low, mid, high) := x.quarters
  let unit := Nat.pow 10 place.toNat * Nat.pow 2 (2 - x.exponent).toNat
  let scale := Nat.pow 10 (-place).toNat * Nat.pow 2 (x.exponent - 2).toNat
  let inside (n : Nat) : Bool :=
    if x.mantissa % 2 = 0 then low * scale ≤ n * unit && n * unit ≤ high * scale
    else low * scale < n * unit && n * unit < high * scale
  let floor := mid * scale / unit
  let twice := 2 * (mid * scale % unit)
  let upperNearer : Bool :=
    unit < twice || (twice == unit && (halfUp || floor % 2 == 1))
  match inside floor, inside (floor + 1) with
  | true, true => some (if upperNearer then floor + 1 else floor)
  | true, false => some floor
  | false, true => some (floor + 1)
  | false, false => none

def firstGridPoint (x : Binary64) (halfUp : Bool) : Nat → Int → Decimal
  | 0, place => ⟨x.numerator / x.denominator, place⟩
  | fuel + 1, place =>
    match x.gridPoint? halfUp place with
    | some digits => ⟨digits, place⟩
    | none => x.firstGridPoint halfUp fuel (place - 1)

def topPlace (x : Binary64) : Int := (x.mantissa.log2 + x.exponent + 1) * 30103 / 100000 + 1

/-- The shortest decimal of a magnitude. Seventeen digits always suffice, and the first grid lies
at most two powers of ten too high. -/
def shortest (x : Binary64) (halfUp : Bool) : Decimal :=
  if x.isZero then ⟨0, 0⟩ else x.firstGridPoint halfUp 20 x.topPlace

end Binary64

namespace Decimal

def text (d : Decimal) : List Char := Nat.toDigits 10 d.digits

def leading (d : Decimal) : Int := d.exponent + d.text.length - 1

def plainText (d : Decimal) : List Char :=
  let ds := d.text
  let whole := (ds.length + d.exponent).toNat
  if 0 ≤ d.exponent then ds ++ List.replicate d.exponent.toNat '0' ++ ['.', '0']
  else if 0 < (ds.length : Int) + d.exponent then ds.take whole ++ ['.'] ++ ds.drop whole
  else ['0', '.'] ++ List.replicate (-(ds.length + d.exponent)).toNat '0' ++ ds

def scientificText (d : Decimal) (signedExponent : Bool) : List Char :=
  let fraction := match d.text with
    | [] => []
    | [c] => [c]
    | c :: rest => c :: '.' :: rest
  let sign := if d.leading < 0 then ['-'] else if signedExponent then ['+'] else []
  fraction ++ ['e'] ++ sign ++ Nat.toDigits 10 d.leading.natAbs

def write (layout : Layout) (d : Decimal) : List Char :=
  if layout.plain d.leading then d.plainText else d.scientificText layout.signedExponent

end Decimal

def Binary64.write (layout : Layout) (x : Binary64) : String :=
  String.ofList ((if x.negative then ['-'] else []) ++ (x.shortest layout.halfUp).write layout)

end LspWire
