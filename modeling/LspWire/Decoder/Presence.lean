/-! Null and absent kept apart.
A field that may be null is `Nullable`; one that may also be left out is a `Presence`. -/

namespace LspWire

inductive Nullable (α : Type) where
  | null
  | value (a : α)
deriving DecidableEq

namespace Nullable

variable {α β : Type}

def isNull : Nullable α → Bool
  | null => true
  | value _ => false

def toOption : Nullable α → Option α
  | null => none
  | value a => some a

def ofOption : Option α → Nullable α
  | none => null
  | some a => value a

@[simp] theorem ofOption_toOption (x : Nullable α) : ofOption x.toOption = x := by
  cases x <;> rfl

@[simp] theorem toOption_ofOption (x : Option α) : (ofOption x).toOption = x := by
  cases x <;> rfl

def same (eq : α → β → Bool) : Nullable α → Nullable β → Bool
  | null, null => true
  | value a, value b => eq a b
  | _, _ => false

end Nullable

inductive Presence (α : Type) where
  | absent
  | null
  | value (a : α)
deriving DecidableEq

namespace Presence

variable {α β : Type}

instance : Inhabited (Presence α) := ⟨absent⟩

def isAbsent : Presence α → Bool
  | absent => true
  | _ => false

def isNull : Presence α → Bool
  | null => true
  | _ => false

def toOption : Presence α → Option α
  | value a => some a
  | _ => none

def same (eq : α → β → Bool) : Presence α → Presence β → Bool
  | absent, absent => true
  | null, null => true
  | value a, value b => eq a b
  | _, _ => false

end Presence

end LspWire
