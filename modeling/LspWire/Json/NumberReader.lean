import LspWire.Json.Basic
import LspWire.Json.Fault
import LspWire.Number.Decimal

/-! Numbers in JSON text.
A whole number that 64 bits hold, with or without a sign, is kept as it stands, except that `-0` is
the binary zero. Any other number is binary: its digits are taken while they fit 64 unsigned bits,
and the rest only shift the exponent. -/

namespace LspWire.Json

open Text (Octets)

def isDigit (b : UInt8) : Bool := 0x30 ≤ b && b ≤ 0x39

def digitValue (b : UInt8) : Nat := b.toNat - 0x30

def spanDigits (s : Octets) : Octets × Rest s :=
  (s.takeWhile isDigit, .dropWhile isDigit s)

/-- Appends digits to a significand while it stays below `2 ^ 64`; also the digits not taken. -/
def appendDigits (significand : Nat) : Octets → Nat × Octets
  | [] => (significand, [])
  | d :: ds =>
    if significand * 10 + digitValue d < 0x10000000000000000 then
      appendDigits (significand * 10 + digitValue d) ds
    else (significand, d :: ds)

/-- The value of exponent digits, or the octets behind the digit that takes it beyond 31 bits. -/
def exponentValue (value : Nat) : Octets → Except Octets Nat
  | [] => .ok value
  | d :: ds =>
    if value * 10 + digitValue d < 0x80000000 then exponentValue (value * 10 + digitValue d) ds
    else .error ds

/-- The digits of a number that is not whole, before its exponent is applied. -/
structure Mantissa where
  negative : Bool
  significand : Nat
  exponent : Int

def Mantissa.number (m : Mantissa) (rest : Octets) : Except Fault Number :=
  match Binary64.ofDecimal m.negative m.significand m.exponent with
  | some x => .ok (.float x)
  | none => .error (.upTo .numberOutOfRange rest)

def readSign : (s : Octets) → Bool × Rest s
  | [] => (false, .all [])
  | b :: behind =>
    if b = 0x2B then (false, .tail b behind)
    else if b = 0x2D then (true, .tail b behind)
    else (false, .all (b :: behind))

/-- Reads the digits of an exponent. One beyond 31 bits is refused where it gets too large, or
gives zero. -/
def readPower (m : Mantissa) (down : Bool) : (s : Octets) → Except Fault (Number × Rest s)
  | [] => .error (.upTo .endInValue [])
  | b :: behind => do
    if isDigit b then
      let (digits, rest) := spanDigits (b :: behind)
      match exponentValue 0 digits with
      | .ok value =>
        let exponent := if down then m.exponent - value else m.exponent + value
        return (← ({ m with exponent } : Mantissa).number rest.1, rest)
      | .error unread =>
        if m.significand ≠ 0 ∧ ¬ down then
          throw ⟨.numberOutOfRange, unread.length + rest.1.length, false, 0⟩
        else return (.float (.zero m.negative), rest)
    else throw (.upTo .invalidNumber behind)

def readExponent (m : Mantissa) (s : Octets) : Except Fault (Number × Rest s) := do
  let (down, signed) := readSign s
  let (n, rest) ← readPower m down signed.1
  return (n, signed.andThen rest)

/-- Reads an exponent if there is one. -/
def readScaled (m : Mantissa) : (s : Octets) → Except Fault (Number × Rest s)
  | [] => do return (← m.number [], .all [])
  | b :: behind => do
    if b = 0x65 ∨ b = 0x45 then
      let (n, rest) ← readExponent m behind
      return (n, rest.behind b)
    else return (← m.number (b :: behind), .all (b :: behind))

def readFraction (m : Mantissa) (s : Octets) : Except Fault (Number × Rest s) := do
  let (digits, rest) := spanDigits s
  if digits.isEmpty then
    throw (.on (if rest.1.isEmpty then .endInValue else .invalidNumber) rest.1)
  else
    let (significand, unused) := appendDigits m.significand digits
    let exponent := m.exponent - (digits.length - unused.length : Nat)
    let (n, rest') ← readScaled { m with significand, exponent } rest.1
    return (n, rest.andThen rest')

def wholeNumber? (m : Mantissa) : Option Number :=
  if m.exponent ≠ 0 then none
  else if ¬ m.negative then some (.integer m.significand)
  else if m.significand = 0 ∨ 0x8000000000000000 < m.significand then none
  else some (.integer (-m.significand))

def Mantissa.whole (m : Mantissa) (rest : Octets) : Except Fault Number :=
  match wholeNumber? m with
  | some n => .ok n
  | none => m.number rest

def readTail (m : Mantissa) : (s : Octets) → Except Fault (Number × Rest s)
  | [] => do return (← m.whole [], .all [])
  | b :: behind => do
    if b = 0x2E then
      let (n, rest) ← readFraction m behind
      return (n, rest.behind b)
    else if b = 0x65 ∨ b = 0x45 then readScaled m (b :: behind)
    else return (← m.whole (b :: behind), .all (b :: behind))

def readUnsigned (negative : Bool) : (s : Octets) → Except Fault (Number × Shorter s)
  | [] => .error (.upTo .endInValue [])
  | b :: behind => do
    if b = 0x30 then
      if (behind.head?.map isDigit).getD false then throw (.on .invalidNumber behind)
      let (n, rest) ← readTail ⟨negative, 0, 0⟩ behind
      return (n, rest.taking b)
    else if isDigit b then
      let (digits, rest) := spanDigits behind
      let (significand, unused) := appendDigits (digitValue b) digits
      let (n, rest') ← readTail ⟨negative, significand, unused.length⟩ rest.1
      return (n, (rest.andThen rest').taking b)
    else throw (.upTo .invalidNumber behind)

end LspWire.Json
