import LspWire.Schema.Basic
import LspWire.Json.Printer

/-! Values shown to a reader of messages and logs.
A record shows its name and its labelled fields, a variant its label around its value, a member of
an enumeration its name, and text stands in quotes. -/

namespace LspWire.Show

/-- Numbers are written in full from `0.0001` up to sixteen digits before the point. -/
def numberLayout : Layout := ⟨fun leading => -4 ≤ leading && leading ≤ 15, false, true⟩

def call (name argument : String) : String := name ++ "(" ++ argument ++ ")"

def list (items : List String) : String := "[" ++ ", ".intercalate items ++ "]"

def map (entries : List (String × String)) : String :=
  "\x7b" ++
    ", ".intercalate (entries.map fun entry => Text.quoted entry.1 ++ ": " ++ entry.2) ++ "\x7d"

def record (name : String) (fields : List (String × String)) : String :=
  if fields.isEmpty then name
  else name ++ " \x7b " ++
    ", ".intercalate (fields.map fun field => field.1 ++ ": " ++ field.2) ++ " \x7d"

def option {α : Type} (sh : α → String) : Option α → String
  | none => "None"
  | some a => call "Some" (sh a)

def nullable {α : Type} (sh : α → String) : Nullable α → String
  | .null => "Null"
  | .value a => call "Value" (sh a)

def presence {α : Type} (sh : α → String) : Presence α → String
  | .absent => "Absent"
  | .null => "Null"
  | .value a => call "Value" (sh a)

def numberOrString : NumberOrString → String
  | .number n => call "Number" (toString n.toInt)
  | .string s => call "String" (Text.quoted s)

mutual

def json : Json → String
  | .null => "Null"
  | .bool b => call "Bool" (toString b)
  | .number n => call "Number" n.text
  | .string s => call "String" (Text.quoted s)
  | .array items => "Array " ++ list (jsonItems items)
  | .object members => "Object " ++ map (jsonMembers members)

def jsonItems : List Json → List String
  | [] => []
  | item :: rest => json item :: jsonItems rest

def jsonMembers : List (String × Json) → List (String × String)
  | [] => []
  | (name, value) :: rest => (name, json value) :: jsonMembers rest

end

end LspWire.Show

namespace LspWire

def FieldMode.render {α : Type} (sh : α → String) : (mode : FieldMode) → mode.Of α → String
  | .required => sh
  | .optional => Show.option sh
  | .nullable => Show.nullable sh
  | .optionalNullable => Show.presence sh

mutual

def Schema.render : (s : Schema) → s.Val → String
  | .boolean => fun (b : Bool) => toString b
  | .string => fun (s : String) => Text.quoted s
  | .integer => fun (n : Int32) => toString n.toInt
  | .uinteger => fun (n : UInt32) => toString n.toNat
  | .decimal => fun (x : Binary64) => x.write Show.numberLayout
  | .any => Show.json
  | .object => fun (members : Members) => Show.map (Show.jsonMembers members)
  | .null => fun _ => "Null"
  | .noParams => fun _ => "NoParams"
  | .numberOrString => Show.numberOrString
  | .literal name _ => fun _ => name
  | .integerEnum e => fun i => e.memberName i
  | .wordEnum e => fun i => e.memberName i
  | .openEnum e => fun
    | .listed i => e.memberName i
    | .custom word => Show.call "Custom" (Text.quoted word)
  | .list item => fun items => Show.list (List.map item.render items)
  | .map item => fun entries =>
    Show.map (List.map (fun entry => (entry.1, item.render entry.2)) entries)
  | .nullable item => Show.nullable item.render
  | .record name fields => fun values => Show.record name (fields.render values)
  | .union _ variants => variants.render
  | .marked _ _ variants => variants.render

def Fields.render : (fields : Fields) → fields.Val → List (String × String)
  | .nil => fun _ => []
  | .cons form type rest => fun (value, values) =>
    (form.label, form.mode.render type.render value) :: rest.render values

def Variants.render : (variants : Variants) → variants.Val → String
  | .nil => Empty.elim
  | .cons _ label _ type rest =>
    Sum.elim (fun value => Show.call label (type.render value)) rest.render

end

end LspWire
