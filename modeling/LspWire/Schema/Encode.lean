import LspWire.Schema.Basic

/-! Values written as JSON.
`Schema.write` keeps the fields in the order in which they are declared; `Schema.encode` is the same
document with the members of every object in order. A field is written under a key of its own; an
absent one is left out if its form says so, and null otherwise. -/

namespace LspWire

def FieldMode.write {α : Type} (write : α → Json) : (mode : FieldMode) → mode.Of α → Option Json
  | .required, a => some (write a)
  | .optional, none => none
  | .optional, some a => some (write a)
  | .nullable, .null => some .null
  | .nullable, .value a => some (write a)
  | .optionalNullable, .absent => none
  | .optionalNullable, .null => some .null
  | .optionalNullable, .value a => some (write a)

/-- The member that a field gives to its object. -/
def FieldForm.member? (form : FieldForm) : Option Json → Option (String × Json)
  | some value => some (form.written, value)
  | none => if form.leftOut then none else some (form.written, .null)

def NumberOrString.write : NumberOrString → Json
  | .number n => .number (.integer n.toInt)
  | .string s => .string s

def Nullable.write {α : Type} (write : α → Json) : Nullable α → Json
  | .null => .null
  | .value a => write a

mutual

def Schema.write : (s : Schema) → s.Val → Json
  | .boolean => fun (b : Bool) => .bool b
  | .string => fun (s : String) => .string s
  | .integer => fun (n : Int32) => .number (.integer n.toInt)
  | .uinteger => fun (n : UInt32) => .number (.integer n.toNat)
  | .decimal => fun (x : Binary64) => .number (.float x)
  | .any => fun (value : Json) => value
  | .object => fun (members : Members) => .object members
  | .null => fun _ => .null
  | .noParams => fun _ => .null
  | .numberOrString => NumberOrString.write
  | .literal _ word => fun _ => .string word
  | .integerEnum e => fun i => .number (.integer (e.value i))
  | .wordEnum e => fun i => .string (e.word i)
  | .openEnum _ => fun w => .string w.word
  | .list item => fun items => .array (List.map item.write items)
  | .map item => fun entries =>
    .object (List.map (fun entry => (entry.1, item.write entry.2)) entries)
  | .nullable item => Nullable.write item.write
  | .record _ fields => fun values => .object (fields.write values)
  | .union _ variants => variants.write
  | .marked _ _ variants => variants.write

def Fields.write : (fields : Fields) → fields.Val → List (String × Json)
  | .nil => fun _ => []
  | .cons form type rest => fun (value, values) =>
    (form.member? (form.mode.write type.write value)).toList ++ rest.write values

def Variants.write : (variants : Variants) → variants.Val → Json
  | .nil => Empty.elim
  | .cons _ _ _ type rest => Sum.elim type.write rest.write

end

def Schema.encode (s : Schema) (x : s.Val) : Json := (s.write x).sorted

def Variants.encode (variants : Variants) (x : variants.Val) : Json := (variants.write x).sorted

end LspWire
