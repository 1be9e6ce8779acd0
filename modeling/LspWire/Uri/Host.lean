import LspWire.Uri.Domain.Name

/-! Hosts: names, and numbers of four or sixteen octets.
A name whose last part is a number is one of four octets, however it is written; numbers of
sixteen octets stand in brackets and are written in their shortest form. -/

namespace LspWire

namespace Uri

inductive Fault where
  | relative
  | emptyHost
  | invalidEndpoint
  | invalidIpv4
  | invalidIpv6
  | invalidName
  | invalidCharacter
deriving DecidableEq

def Fault.message : Fault → String
  | .relative => "relative URL without a base"
  | .emptyHost => "empty host"
  | .invalidEndpoint => "invalid port number"
  | .invalidIpv4 => "invalid IPv4 address"
  | .invalidIpv6 => "invalid IPv6 address"
  | .invalidName => "invalid international domain name"
  | .invalidCharacter => "invalid domain character"

end Uri

inductive Host where
  | name (text : String)
  | fourOctets (value : Nat)
  | groups (values : List Nat)
deriving DecidableEq

namespace Host

open Uri (Fault)

open Text (isHexDigit number hexText)

/-- A part of a number: `0x` makes it one of base 16, and a leading zero one of base 8. -/
def part? (s : List Char) : Option Nat :=
  let read (base : Nat) (isDigit : Char → Bool) (digits : List Char) : Option Nat :=
    if digits.all isDigit then some (number base digits) else none
  match s with
  | [] => none
  | '0' :: 'x' :: digits | '0' :: 'X' :: digits => read 16 isHexDigit digits
  | '0' :: digit :: digits => read 8 (fun c => '0' ≤ c && c ≤ '7') (digit :: digits)
  | digits => read 10 Char.isDigit digits

def nameParts (name : List Char) : List (List Char) :=
  let parts := (name.splitOnP (· == '.'))
  if parts.getLast? = some [] ∧ 1 < parts.length then parts.dropLast else parts

def endsInNumber (name : List Char) : Bool :=
  match (nameParts name).getLast? with
  | some last => (!last.isEmpty && last.all Char.isDigit) || (part? last).isSome
  | none => false

/-- The value of a number in up to four parts, the last of which fills the octets left. -/
def readFourOctets (name : List Char) : Except Fault Host :=
  match (nameParts name).mapM part? with
  | none => .error .invalidIpv4
  | some parts =>
    let last := parts.getLastD 0
    let leading := parts.dropLast
    if 4 < parts.length ∨ leading.any (255 < ·) ∨ Nat.pow 256 (4 - leading.length) ≤ last then
      .error .invalidIpv4
    else
      let front := leading.foldl (fun value n => value * 256 + n) 0
      .ok (.fourOctets (front * Nat.pow 256 (4 - leading.length) + last))

def dotted? (s : List Char) : Option (List Nat) := do
  let octets ← (s.splitOnP (· == '.')).mapM fun digits =>
    if digits.isEmpty || !digits.all Char.isDigit || (digits.head? == some '0' && 1 < digits.length)
      || 255 < number 10 digits then none
    else some (number 10 digits)
  match octets with
  | [a, b, c, d] => some [a * 256 + b, c * 256 + d]
  | _ => none

def group? (s : List Char) : Option Nat :=
  if s.isEmpty || 4 < s.length || !s.all isHexDigit then none else some (number 16 s)

def groups? (dottedEnd : Bool) : List (List Char) → Option (List Nat)
  | [] => some []
  | [last] =>
    if dottedEnd && last.contains '.' then dotted? last else (group? last).map ([·])
  | first :: rest => do return (← group? first) :: (← groups? dottedEnd rest)

def side? (dottedEnd : Bool) (s : List Char) : Option (List Nat) :=
  if s.isEmpty then some [] else groups? dottedEnd (s.splitOnP (· == ':'))

def splitDoubleColon : List Char → Option (List Char × List Char)
  | ':' :: ':' :: rest => some ([], rest)
  | c :: rest => (splitDoubleColon rest).map fun sides => (c :: sides.1, sides.2)
  | [] => none

def readGroups (s : List Char) : Except Fault Host :=
  let groups := match splitDoubleColon s with
    | some (left, right) => do
      let left ← side? false left
      let right ← side? true right
      if left.length + right.length ≤ 7 then
        return left ++ List.replicate (8 - left.length - right.length) 0 ++ right
      else none
    | none => side? true s
  match groups with
  | some values => if values.length = 8 then .ok (.groups values) else .error .invalidIpv6
  | none => .error .invalidIpv6

/-- The first of the longest runs of zeros: where it begins and how long it is. -/
def longestZeros (values : List Nat) : Nat × Nat :=
  let runs := (List.range values.length).map fun i =>
    (i, ((values.drop i).takeWhile (· == 0)).length)
  runs.foldl (fun best run => if best.2 < run.2 then run else best) (0, 0)

def groupsText (values : List Nat) : String :=
  let join (part : List Nat) : String := ":".intercalate (part.map hexText)
  let (start, length) := longestZeros values
  if length < 2 then join values
  else join (values.take start) ++ "::" ++ join (values.drop (start + length))

def text : Host → String
  | name text => text
  | fourOctets value =>
    ".".intercalate (([3, 2, 1, 0] : List Nat).map fun i => toString (value / Nat.pow 256 i % 256))
  | groups values => "[" ++ groupsText values ++ "]"

def read (s : List Char) : Except Fault Host := do
  match s with
  | '[' :: rest =>
    if rest.getLast? = some ']' then readGroups rest.dropLast else throw .invalidIpv6
  | _ =>
    let decoded := Text.decode? (Percent.decode (Text.encode (String.ofList s)))
    match decoded.bind fun text => Domain.written? text.toList with
    | none => throw .invalidName
    | some [] => throw .emptyHost
    | some written =>
      if endsInNumber written then readFourOctets written
      else return .name (String.ofList written)

/-- Reads a host of a scheme that is not known; its name is taken as it stands. -/
def readPlain (s : List Char) : Except Fault Host :=
  match s with
  | '[' :: rest =>
    if rest.getLast? = some ']' then readGroups rest.dropLast else .error .invalidIpv6
  | _ =>
    if s.any fun c => Percent.isAmong "\x00\t\n\r #/:<>?@[\\]^|" c then .error .invalidCharacter
    else .ok (.name (Percent.encode (fun _ => false) s))

end Host

end LspWire
