import LspWire.Schema.Basic

/-! Equality of values.
Binary numbers are compared by value, so the two zeros are the same; everything else is compared
part by part. -/

namespace LspWire

def sameLists {α β : Type} (eq : α → β → Bool) : List α → List β → Bool
  | [], [] => true
  | a :: as, b :: bs => eq a b && sameLists eq as bs
  | _, _ => false

def FieldMode.same {α : Type} (eq : α → α → Bool) :
    (mode : FieldMode) → mode.Of α → mode.Of α → Bool
  | .required => eq
  | .optional => fun
    | none, none => true
    | some a, some b => eq a b
    | _, _ => false
  | .nullable => Nullable.same eq
  | .optionalNullable => Presence.same eq

mutual

def Schema.same : (s : Schema) → s.Val → s.Val → Bool
  | .boolean => fun (a b : Bool) => a == b
  | .string => fun (a b : String) => a == b
  | .integer => fun (a b : Int32) => a == b
  | .uinteger => fun (a b : UInt32) => a == b
  | .decimal => Binary64.same
  | .any => Json.same
  | .object => Json.sameMembers
  | .null => fun _ _ => true
  | .noParams => fun _ _ => true
  | .numberOrString => fun (a b : NumberOrString) => decide (a = b)
  | .literal _ _ => fun _ _ => true
  | .integerEnum _ => fun a b => decide (a.val = b.val)
  | .wordEnum _ => fun a b => decide (a.val = b.val)
  | .openEnum e => fun (a b : OpenWord e) => decide (a = b)
  | .list item => sameLists item.same
  | .map item => sameLists fun a b => a.1 == b.1 && item.same a.2 b.2
  | .nullable item => Nullable.same item.same
  | .record _ fields => fields.same
  | .union _ variants => variants.same
  | .marked _ _ variants => variants.same

def Fields.same : (fields : Fields) → fields.Val → fields.Val → Bool
  | .nil => fun _ _ => true
  | .cons form type rest => fun (a, as) (b, bs) =>
    form.mode.same type.same a b && rest.same as bs

def Variants.same : (variants : Variants) → variants.Val → variants.Val → Bool
  | .nil => Empty.elim
  | .cons _ _ _ type rest => fun
    | .inl a, .inl b => type.same a b
    | .inr a, .inr b => rest.same a b
    | _, _ => false

end

end LspWire
