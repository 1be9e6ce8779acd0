import LspWire.Config.Layer
import LspWire.Proofs.OrderedMembers

/-! What is seen of layers.
Under a key that the upper object does not have, the lower one shows; under any other the two values
are laid on each other, and a null that comes of it is no member. The members stay in order. -/

namespace LspWire

namespace Members

theorem get?_erase (members : Members) (name key : String) :
    (Members.erase members name).get? key = if name = key then none else members.get? key := by
  induction members with
  | nil => simp [erase]
  | cons member rest ih =>
    obtain ⟨other, value⟩ := member
    by_cases hother : other = name
    · subst hother
      have hdrop : erase ((other, value) :: rest) other = erase rest other := by simp [erase]
      rw [hdrop, ih, get?_cons]
      split <;> rfl
    · have hkeep : erase ((other, value) :: rest) name = (other, value) :: erase rest name := by
        simp [erase, hother]
      rw [hkeep, get?_cons, get?_cons, ih]
      split
      · next heq => rw [if_neg (heq ▸ Ne.symm hother)]
      · rfl

end Members

namespace Json

@[simp] theorem get?_object (members : Members) (key : String) :
    (object members).get? key = members.get? key := rfl

def said? (value : Json) : Option Json := if value.isNull then none else some value

@[simp] theorem said?_null : said? .null = none := rfl

theorem said?_of_ne_null {value : Json} (h : value ≠ .null) : value.said? = some value := by
  cases value with
  | null => exact absurd rfl h
  | _ => rfl

theorem said?_eq_some_iff {value other : Json} :
    value.said? = some other ↔ value = other ∧ value ≠ .null := by
  cases value <;> simp [said?, isNull]

/-- What is seen of a value where there may be one below it. -/
def above (value : Json) (held : Option Json) : Json :=
  held.elim value fun below => below.stack value

end Json

namespace Members

theorem get?_put (members : Members) (name : String) (value : Json) (key : String) :
    (members.put name value).get? key = if name = key then value.said? else members.get? key := by
  unfold put
  cases hnull : value.isNull with
  | true => simp [get?_erase, Json.said?, hnull]
  | false => simp [get?_insert, Json.said?, hnull]

theorem ascending_put {members : Members} (h : Ascending members) (name : String) (value : Json) :
    Ascending (members.put name value) := by
  unfold put
  split
  · exact h.filter _
  · exact ascending_insert name value h

end Members

namespace Json

theorem stackMembers_cons (below : Members) (name : String) (value : Json) (rest : Members) :
    stackMembers below ((name, value) :: rest) =
      stackMembers (below.put name (value.above (below.get? name))) rest := by
  rw [stackMembers]
  cases Members.get? below name <;> rfl

theorem get?_stackMembers {members : Members} (h : members.names.Nodup) (below : Members)
    (key : String) :
    Members.get? (stackMembers below members) key =
      (members.get? key).elim (below.get? key) fun value =>
        (value.above (below.get? key)).said? := by
  induction members generalizing below with
  | nil => simp [stackMembers]
  | cons member rest ih =>
    obtain ⟨name, value⟩ := member
    obtain ⟨hname, hrest⟩ := List.nodup_cons.mp h
    rw [stackMembers_cons, ih hrest, Members.get?_put, Members.get?_cons]
    split
    · next heq =>
      subst heq
      rw [(Members.get?_eq_none_iff rest name).mpr hname]
      rfl
    · rfl

theorem ascending_stackMembers {below : Members} (h : Ascending below) (members : Members) :
    Ascending (stackMembers below members) := by
  induction members generalizing below with
  | nil => rwa [stackMembers]
  | cons member rest ih =>
    rw [stackMembers_cons]
    exact ih (Members.ascending_put h _ _)

@[simp] theorem above_none (value : Json) : value.above none = value := rfl

@[simp] theorem above_some (value held : Json) : value.above (some held) = held.stack value := rfl

theorem said?_above_null {held : Option Json} (h : held ≠ some .null) :
    (Json.null.above held).said? = held := by
  cases held with
  | none => rfl
  | some below =>
    rw [above_some, stack_null]
    exact said?_of_ne_null fun hnull => h (congrArg some hnull)

theorem stack_objects (below members : Members) :
    (Json.object below).stack (.object members) = .object (stackMembers below members) := by
  rw [stack]

theorem stack_object_of_not_object {lower : Json} (h : ∀ table, lower ≠ .object table)
    (members : Members) : lower.stack (.object members) = .object members := by
  cases lower with
  | object table => exact absurd rfl (h table)
  | _ => simp [stack]

theorem stack_of_not_object {upper : Json} (h : ∀ members, upper ≠ .object members)
    (hnull : upper ≠ .null) (lower : Json) : lower.stack upper = upper := by
  cases upper with
  | null => exact absurd rfl hnull
  | object members => exact absurd rfl (h members)
  | _ => simp [stack]

theorem stack_ne_null {upper : Json} (h : upper ≠ .null) (lower : Json) :
    lower.stack upper ≠ .null := by
  cases upper with
  | null => exact absurd rfl h
  | object members => cases lower <;> simp [stack]
  | _ => simp [stack]

theorem above_ne_null {value : Json} (h : value ≠ .null) (held : Option Json) :
    value.above held ≠ .null := by
  cases held with
  | none => exact h
  | some below => exact stack_ne_null h below

end Json

end LspWire
