import LspWire.Json.Basic
import LspWire.Number.Decimal
import LspWire.Toml.Token

/-! Values written as a bare word: truth values, numbers and dates.
An underscore may stand between digits. Whole numbers fit 64 bits; infinities and the undefined
number have no document of their own and become null, and a date becomes an object. -/

namespace LspWire.Toml

def plainDigits? (isDigit : Char → Bool) : List Char → Option (List Char)
  | [] => none
  | [c] => if isDigit c then some [c] else none
  | c :: '_' :: rest =>
    if isDigit c then (plainDigits? isDigit rest).map (c :: ·) else none
  | c :: rest =>
    if isDigit c then (plainDigits? isDigit rest).map (c :: ·) else none

def decimalDigits? : List Char → Option (List Char) := plainDigits? Char.isDigit

/-- The digits in front of a point, which begin with zero only if there is no other. -/
def leadingDigits? (s : List Char) : Option (List Char) := do
  let digits ← decimalDigits? s
  if digits.head? = some '0' ∧ s.length ≠ 1 then none else return digits

def splitSign : List Char → Bool × List Char
  | '+' :: rest => (false, rest)
  | '-' :: rest => (true, rest)
  | s => (false, s)

def splitAtFirst (p : Char → Bool) (s : List Char) : List Char × Option (List Char) :=
  match s.dropWhile fun c => !p c with
  | [] => (s, none)
  | _ :: behind => (s.takeWhile fun c => !p c, some behind)

def integer? (negative : Bool) (magnitude : Nat) : Option Json :=
  let value : Int := if negative then -magnitude else magnitude
  if -0x8000000000000000 ≤ value ∧ value < 0x8000000000000000 then
    some (.number (.integer value))
  else none

def readInteger (s : List Char) : Option Json :=
  match s with
  | '0' :: base :: rest =>
    let read (base : Nat) : Option Json := do
      let digits ← plainDigits? (fun c => (digitsValue? base [c]).isSome) rest
      integer? false (← digitsValue? base digits)
    if base = 'x' then read 16 else if base = 'o' then read 8 else if base = 'b' then read 2
    else none
  | s => do
    let (negative, digits) := splitSign s
    integer? negative (← digitsValue? 10 (← leadingDigits? digits))

def float? (negative : Bool) (significand : Nat) (exponent : Int) : Option Json :=
  let leading := exponent + (toString significand).length
  let value := if significand = 0 ∨ leading < -400 then some (Binary64.zero negative)
    else if 400 < leading then none
    else Binary64.ofExactDecimal negative significand exponent
  value.map fun x => .number (.float x)

def readExponent (s : List Char) : Option Int := do
  let (down, digits) := splitSign s
  let value ← digitsValue? 10 (← decimalDigits? digits)
  return if down then -value else value

def readFloat (s : List Char) : Option Json := do
  let (negative, unsigned) := splitSign s
  let (mantissa, power) := splitAtFirst (fun c => c == 'e' || c == 'E') unsigned
  let (whole, fraction) := splitAtFirst (· == '.') mantissa
  let whole ← leadingDigits? whole
  let fraction ← match fraction with
    | some digits => decimalDigits? digits
    | none => if power.isSome then some [] else none
  let exponent ← match power with
    | some s => readExponent s
    | none => some 0
  float? negative (← digitsValue? 10 (whole ++ fraction)) (exponent - fraction.length)

def isSpecial (s : List Char) : Bool :=
  let unsigned := (splitSign s).2
  unsigned == "inf".toList || unsigned == "nan".toList

def isLeapYear (year : Nat) : Bool := year % 4 == 0 && (year % 100 != 0 || year % 400 == 0)

def daysIn (year month : Nat) : Nat :=
  if month = 2 then (if isLeapYear year then 29 else 28)
  else if month = 4 ∨ month = 6 ∨ month = 9 ∨ month = 11 then 30
  else 31

def readDigits (width : Nat) (s : List Char) : Option (Nat × List Char) := do
  let digits := s.take width
  if digits.length = width ∧ digits.all Char.isDigit then
    return (← digitsValue? 10 digits, s.drop width)
  else none

def readChar (c : Char) : List Char → Option (List Char)
  | d :: rest => if d = c then some rest else none
  | [] => none

def readDate (s : List Char) : Option (List Char) := do
  let (year, rest) ← readDigits 4 s
  let (month, rest) ← readDigits 2 (← readChar '-' rest)
  let (day, rest) ← readDigits 2 (← readChar '-' rest)
  if 1 ≤ month ∧ month ≤ 12 ∧ 1 ≤ day ∧ day ≤ daysIn year month then return rest else none

def readClock (s : List Char) : Option (List Char) := do
  let (hour, rest) ← readDigits 2 s
  let (minute, rest) ← readDigits 2 (← readChar ':' rest)
  if hour ≤ 23 ∧ minute ≤ 59 then return rest else none

def readTime (s : List Char) : Option (List Char) := do
  match ← readClock s with
  | ':' :: rest =>
    let (second, rest) ← readDigits 2 rest
    if 60 < second then none
    else match rest with
      | '.' :: fraction =>
        if (fraction.head?.map Char.isDigit).getD false then
          return fraction.dropWhile Char.isDigit
        else none
      | rest => return rest
  | rest => return rest

def isOffset : List Char → Bool
  | [] => true
  | ['Z'] | ['z'] => true
  | '+' :: rest | '-' :: rest => readClock rest == some []
  | _ => false

def isDateTime (s : List Char) : Bool :=
  match readDate s with
  | some [] => true
  | some (separator :: rest) =>
    (separator == 'T' || separator == 't' || separator == ' ') &&
      ((readTime rest).map isOffset).getD false
  | none => readTime s == some []

def readScalar (s : List Char) : Option Json :=
  if s = "true".toList then some (.bool true)
  else if s = "false".toList then some (.bool false)
  else if isSpecial s then some .null
  else if isDateTime s then some (.object [("datetime", .string (String.ofList s))])
  else (readInteger s).orElse fun _ => readFloat s

end LspWire.Toml
