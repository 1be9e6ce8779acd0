import LspWire.Decoder.Reading

/-! Decoders of the base types and of containers.
An integer type accepts only numbers stored whole; a whole value outside its range is out of range
however it was written, and a binary number inside the range is a mismatch. A list fails at its
first bad item, a map at its first bad entry. -/

namespace LspWire

/-- A number or a string: what identifies a request or a progress. -/
inductive NumberOrString where
  | number (n : Int32)
  | string (s : String)
deriving DecidableEq

def NumberOrString.text : NumberOrString → String
  | .number n => toString n.toInt
  | .string s => Text.quoted s

structure IntegerRange where
  name : String
  least : Int
  greatest : Int

def IntegerRange.integer : IntegerRange := ⟨"integer", -2147483648, 2147483647⟩

def IntegerRange.uinteger : IntegerRange := ⟨"uinteger", 0, 2147483647⟩

def IntegerRange.contains (range : IntegerRange) (n : Int) : Bool :=
  range.least ≤ n && n ≤ range.greatest

def IntegerRange.decode (range : IntegerRange) (value : Json) (cx : Context) :
    Except DecodeError Int :=
  match value with
  | .number n =>
    match n with
    | .integer i =>
      if range.contains i then .ok i else .error (.fieldOutOfRange cx.path range.name n.text)
    | .float x =>
      match x.toInt? with
      | some i =>
        if range.contains i then .error (.typeMismatch cx.path range.name "non-integral number")
        else .error (.fieldOutOfRange cx.path range.name n.text)
      | none => .error (.typeMismatch cx.path range.name "non-integral number")
  | other => .error (cx.mismatch range.name other)

namespace Decoder

variable {α : Type}

def boolean : Decoder Bool := present fun value cx =>
  match value with
  | .bool b => .ok b
  | other => .error (cx.mismatch "boolean" other)

def string : Decoder String := present fun value cx =>
  match value with
  | .string s => .ok s
  | other => .error (cx.mismatch "string" other)

def integer : Decoder Int32 := present fun value cx =>
  (IntegerRange.integer.decode value cx).map Int32.ofInt

def uinteger : Decoder UInt32 := present fun value cx =>
  (IntegerRange.uinteger.decode value cx).map fun n => UInt32.ofNat n.toNat

/-- Any number, as a binary one. A whole number of 64 bits is never too large for that. -/
def decimal : Decoder Binary64 := present fun value cx =>
  match value with
  | .number n =>
    match n with
    | .float x => .ok x
    | .integer i =>
      match Binary64.nearest (i < 0) i.natAbs 1 with
      | some x => .ok x
      | none => .error (.fieldOutOfRange cx.path "decimal" n.text)
  | other => .error (cx.mismatch "decimal" other)

def any : Decoder Json := present fun value _ => .ok value

def object : Decoder Members := present fun value cx =>
  match value with
  | .object members => .ok members
  | other => .error (cx.mismatch "object" other)

def null : Decoder Unit := present fun value cx =>
  match value with
  | .null => .ok ()
  | other => .error (cx.mismatch "null" other)

/-- The parameters of a method that has none: null, or nothing at all. -/
def noParams : Decoder Unit := ⟨null.decode, fun _ _ => .ok ()⟩

def numberOrString : Decoder NumberOrString := present fun value cx =>
  match value with
  | .number n => (integer.decode (.number n) cx).map .number
  | .string s => .ok (.string s)
  | other => .error (cx.mismatch "integer | string" other)

def literal (word : String) : Decoder Unit := present fun value cx =>
  match value with
  | .string found =>
    if found = word then .ok () else .error (.literalMismatch cx.path word found)
  | other => .error (cx.mismatch "string" other)

def decodeItems (d : Decoder α) (cx : Context) : Nat → List Json → Except DecodeError (List α)
  | _, [] => .ok []
  | position, item :: rest => do
    let a ← d.decode item (cx.index position)
    return a :: (← decodeItems d cx (position + 1) rest)

def list (d : Decoder α) : Decoder (List α) := present fun value cx =>
  match value with
  | .array items => decodeItems d cx 0 items
  | other => .error (cx.mismatch "array" other)

def decodeEntries (d : Decoder α) (cx : Context) :
    Members → Except DecodeError (List (String × α))
  | [] => .ok []
  | (key, value) :: rest => do
    let a ← d.decode value (cx.entry key)
    return (key, a) :: (← decodeEntries d cx rest)

def map (d : Decoder α) : Decoder (List (String × α)) := present fun value cx =>
  match value with
  | .object members => decodeEntries d cx members
  | other => .error (cx.mismatch "object" other)

def nullable (d : Decoder α) : Decoder (Nullable α) := present fun value cx =>
  match value with
  | .null => .ok .null
  | other => (d.decode other cx).map .value

end Decoder

end LspWire
