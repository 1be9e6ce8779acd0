import LspWire.Decoder.Elementary

/-! Descriptions of the types of a protocol, and the values of each.
A `Schema` is data; `Schema.Val` is the type of its values, by recursion: a record's values are the
product of its fields, a union's the sum of its variants, a closed enumeration's the positions in
its table. Reading, writing, comparing and showing are defined once, over all descriptions. -/

namespace LspWire

structure IntegerEnum where
  name : String
  members : List (String × Nat)

structure WordEnum where
  name : String
  members : List (String × String)

inductive OpenWord (e : WordEnum) where
  | listed (i : Fin e.members.length)
  | custom (word : String)
deriving DecidableEq

namespace IntegerEnum

def value (e : IntegerEnum) (i : Fin e.members.length) : Nat := (e.members.get i).2

def memberName (e : IntegerEnum) (i : Fin e.members.length) : String := (e.members.get i).1

def ofValue? (e : IntegerEnum) (n : Nat) : Option (Fin e.members.length) :=
  e.members.findFinIdx? fun member => member.2 == n

end IntegerEnum

namespace WordEnum

def word (e : WordEnum) (i : Fin e.members.length) : String := (e.members.get i).2

def memberName (e : WordEnum) (i : Fin e.members.length) : String := (e.members.get i).1

def ofWord? (e : WordEnum) (word : String) : Option (Fin e.members.length) :=
  e.members.findFinIdx? fun member => member.2 == word

end WordEnum

namespace OpenWord

variable {e : WordEnum}

def word : OpenWord e → String
  | listed i => e.word i
  | custom word => word

/-- The listed member with this word, or the word itself. -/
def ofWord (e : WordEnum) (word : String) : OpenWord e :=
  match e.ofWord? word with
  | some i => listed i
  | none => custom word

end OpenWord

inductive FieldMode where
  | required
  | optional
  | nullable
  | optionalNullable
deriving DecidableEq

/-- What a field holds when its type has values in `α`. -/
def FieldMode.Of : FieldMode → Type → Type
  | .required, α => α
  | .optional, α => Option α
  | .nullable, α => Nullable α
  | .optionalNullable, α => Presence α

/-- How a field stands in a document: the key and mode under which it is read, and the key under
which it is written and whether an absent one is then left out. The label is for messages. -/
structure FieldForm where
  key : String
  label : String
  written : String
  leftOut : Bool
  mode : FieldMode

mutual

inductive Schema where
  | boolean
  | string
  | integer
  | uinteger
  | decimal
  | any
  | object
  | null
  | noParams
  | numberOrString
  | literal (name word : String)
  | integerEnum (e : IntegerEnum)
  | wordEnum (e : WordEnum)
  | openEnum (e : WordEnum)
  | list (item : Schema)
  | map (item : Schema)
  | nullable (item : Schema)
  | record (name : String) (fields : Fields)
  | union (name : String) (variants : Variants)
  | marked (name key : String) (variants : Variants)

inductive Fields where
  | nil
  | cons (form : FieldForm) (type : Schema) (rest : Fields)

/-- The variants of a union in their order: name in messages, label when shown, the word that marks
it (none where the marker is left out, or where shape decides), and type. -/
inductive Variants where
  | nil
  | cons (name label : String) (mark : Option String) (type : Schema) (rest : Variants)

end

mutual

def Schema.Val : Schema → Type
  | .boolean => Bool
  | .string => String
  | .integer => Int32
  | .uinteger => UInt32
  | .decimal => Binary64
  | .any => Json
  | .object => Members
  | .null => Unit
  | .noParams => Unit
  | .numberOrString => NumberOrString
  | .literal _ _ => Unit
  | .integerEnum e => Fin e.members.length
  | .wordEnum e => Fin e.members.length
  | .openEnum e => OpenWord e
  | .list item => List item.Val
  | .map item => List (String × item.Val)
  | .nullable item => Nullable item.Val
  | .record _ fields => fields.Val
  | .union _ variants => variants.Val
  | .marked _ _ variants => variants.Val

def Fields.Val : Fields → Type
  | .nil => Unit
  | .cons form type rest => form.mode.Of type.Val × rest.Val

def Variants.Val : Variants → Type
  | .nil => Empty
  | .cons _ _ _ type rest => type.Val ⊕ rest.Val

end

def Fields.keys : Fields → List String
  | .nil => []
  | .cons form _ rest => form.key :: rest.keys

end LspWire
