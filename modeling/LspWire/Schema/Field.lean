import LspWire.Schema.Basic

/-! Records and unions given by lists.
A field has a declared name, which is its label, and a key under which it is read. The key under
which it is written comes from its declared name by the naming of its record, unless it was given
another name for that. -/

namespace LspWire.Schema

inductive Naming where
  | declared
  | camelCase
deriving DecidableEq

/-- Leaves out underscores and makes the letter behind each a capital; also the first one if
`capital`. -/
def capitalizeWords (capital : Bool) : List Char → List Char
  | [] => []
  | c :: rest =>
    if c = '_' then capitalizeWords true rest
    else (if capital then c.toUpper else c) :: capitalizeWords false rest

def joinWords (words : String) : String :=
  match capitalizeWords true words.toList with
  | [] => ""
  | c :: rest => String.ofList (c.toLower :: rest)

def Naming.apply : Naming → String → String
  | .declared, label => label
  | .camelCase, label => joinWords label

structure Field where
  label : String
  key : String
  renamed : Option String
  leftOut : Bool
  mode : FieldMode
  type : Schema

def required (label key : String) (type : Schema) : Field :=
  ⟨label, key, none, false, .required, type⟩

def optional (label key : String) (type : Schema) : Field :=
  ⟨label, key, none, true, .optional, type⟩

def orNull (label key : String) (type : Schema) : Field :=
  ⟨label, key, none, false, .nullable, type⟩

def optionalOrNull (label key : String) (type : Schema) : Field :=
  ⟨label, key, none, true, .optionalNullable, type⟩

def Field.form (field : Field) (naming : Naming) : FieldForm where
  key := field.key
  label := field.label
  written := field.renamed.getD (naming.apply field.label)
  leftOut := field.leftOut
  mode := field.mode

structure Variant where
  name : String
  label : String
  mark : Option String
  type : Schema

def shape (name label : String) (type : Schema) : Variant := ⟨name, label, none, type⟩

def fields (naming : Naming) : List Field → Fields
  | [] => .nil
  | field :: rest => .cons (field.form naming) field.type (fields naming rest)

def variants : List Variant → Variants
  | [] => .nil
  | variant :: rest => .cons variant.name variant.label variant.mark variant.type (variants rest)

def recordOf (name : String) (list : List Field) : Schema := .record name (fields .declared list)

def camelRecordOf (name : String) (list : List Field) : Schema :=
  .record name (fields .camelCase list)

def unionOf (name : String) (list : List Variant) : Schema := .union name (variants list)

end LspWire.Schema
