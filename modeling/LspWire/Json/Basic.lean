import LspWire.Number.Shortest

/-! JSON values.
A number is kept as it was stored, whole or binary. An object is a list of members; the values
that are read and compared are `WellFormed`: their names ascend strictly, by code point, so that
two objects with the same members are the same list. `Json.sorted` gives a document that order. -/

namespace LspWire

inductive Number where
  | integer (value : Int)
  | float (value : Binary64)
deriving DecidableEq

/-- Equality by value among whole numbers and among binary ones; the two kinds never meet. -/
def Number.same : Number → Number → Bool
  | .integer a, .integer b => a == b
  | .float a, .float b => a.same b
  | _, _ => false

inductive Json where
  | null
  | bool (value : Bool)
  | number (value : Number)
  | string (value : String)
  | array (items : List Json)
  | object (members : List (String × Json))

abbrev Members := List (String × Json)

namespace Members

def insert (name : String) (value : Json) : Members → Members
  | [] => [(name, value)]
  | (other, held) :: rest =>
    if name < other then (name, value) :: (other, held) :: rest
    else if name = other then (name, value) :: rest
    else (other, held) :: insert name value rest

/-- The members in ascending order; of two with one name the later counts. -/
def ordered (members : Members) : Members :=
  members.foldl (fun kept member => kept.insert member.1 member.2) []

def get? (members : Members) (name : String) : Option Json :=
  (members.find? fun member => member.1 == name).map (·.2)

def contains (members : Members) (name : String) : Bool :=
  members.any fun member => member.1 == name

def names (members : Members) : List String := members.map (·.1)

theorem contains_eq_isSome_get? (members : Members) (name : String) :
    members.contains name = (members.get? name).isSome := by
  induction members with
  | nil => rfl
  | cons member rest ih =>
    by_cases h : member.1 == name <;> simp_all [contains, get?]

end Members

namespace Json

def kind : Json → String
  | .null => "null"
  | .bool _ => "boolean"
  | .number _ => "number"
  | .string _ => "string"
  | .array _ => "array"
  | .object _ => "object"

def isNull : Json → Bool
  | .null => true
  | _ => false

def get? (name : String) : Json → Option Json
  | .object members => Members.get? members name
  | _ => none

def has (name : String) (value : Json) : Bool := (value.get? name).isSome

def string? : Json → Option String
  | .string s => some s
  | _ => none

mutual

def sorted : Json → Json
  | .array items => .array (sortedItems items)
  | .object members => .object (Members.ordered (sortedMembers members))
  | other => other

def sortedItems : List Json → List Json
  | [] => []
  | item :: rest => item.sorted :: sortedItems rest

def sortedMembers : List (String × Json) → List (String × Json)
  | [] => []
  | (name, value) :: rest => (name, value.sorted) :: sortedMembers rest

end

mutual

def same : Json → Json → Bool
  | .null, .null => true
  | .bool a, .bool b => a == b
  | .number a, .number b => a.same b
  | .string a, .string b => a == b
  | .array a, .array b => sameItems a b
  | .object a, .object b => sameMembers a b
  | _, _ => false

def sameItems : List Json → List Json → Bool
  | [], [] => true
  | a :: as, b :: bs => a.same b && sameItems as bs
  | _, _ => false

def sameMembers : List (String × Json) → List (String × Json) → Bool
  | [], [] => true
  | (m, a) :: as, (n, b) :: bs => m == n && a.same b && sameMembers as bs
  | _, _ => false

end

mutual

/-- The names of every object ascend strictly. -/
def WellFormed : Json → Prop
  | .array items => WellFormedItems items
  | .object members =>
    members.Pairwise (fun a b => a.1 < b.1) ∧ WellFormedMembers members
  | _ => True

def WellFormedItems : List Json → Prop
  | [] => True
  | item :: rest => item.WellFormed ∧ WellFormedItems rest

def WellFormedMembers : List (String × Json) → Prop
  | [] => True
  | (_, value) :: rest => value.WellFormed ∧ WellFormedMembers rest

end

mutual

def decideWellFormed : (value : Json) → Decidable value.WellFormed
  | .null | .bool _ | .number _ | .string _ => isTrue trivial
  | .array items => decideWellFormedItems items
  | .object members => @instDecidableAnd _ _ inferInstance (decideWellFormedMembers members)

def decideWellFormedItems : (items : List Json) → Decidable (WellFormedItems items)
  | [] => isTrue trivial
  | item :: rest => @instDecidableAnd _ _ (decideWellFormed item) (decideWellFormedItems rest)

def decideWellFormedMembers :
    (members : List (String × Json)) → Decidable (WellFormedMembers members)
  | [] => isTrue trivial
  | (_, value) :: rest =>
    @instDecidableAnd _ _ (decideWellFormed value) (decideWellFormedMembers rest)

end

instance : DecidablePred WellFormed := decideWellFormed

end Json

end LspWire
