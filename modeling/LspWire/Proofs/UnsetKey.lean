import LspWire.Config.Load
import LspWire.Proofs.StackedLayer

/-! Keys that an upper layer leaves unset.
A null under a key says nothing where the lower layer has a table for the key to stand in: there the
layer might as well not have the key. A table of the upper layer that meets no table is taken as it
is, with the nulls in it. So nulls come up exactly at such places, and leaving them out beforehand
changes the result exactly when there is one. -/

namespace LspWire

namespace Json

/-- What stands under a path of keys. Lists are not entered. -/
def under? : List String → Json → Option Json
  | [], value => some value
  | key :: path, value => (value.get? key).bind (under? path)

mutual

/-- The document without the keys of objects that hold null. Lists are not entered. -/
def told : Json → Json
  | .object members => .object (toldMembers members)
  | other => other

def toldMembers : List (String × Json) → List (String × Json)
  | [] => []
  | (name, value) :: rest =>
    if value.isNull then toldMembers rest else (name, value.told) :: toldMembers rest

end

mutual

def nullFree : Json → Bool
  | .null => false
  | .array items => nullFreeItems items
  | .object members => nullFreeMembers members
  | _ => true

def nullFreeItems : List Json → Bool
  | [] => true
  | item :: rest => item.nullFree && nullFreeItems rest

def nullFreeMembers : List (String × Json) → Bool
  | [] => true
  | (_, value) :: rest => value.nullFree && nullFreeMembers rest

end

/-- Each key of the upper document that holds null stands where the lower one has a table. -/
def NullsMet (lower upper : Json) : Prop :=
  ∀ path key, upper.under? (path ++ [key]) = some .null →
    ∃ table, lower.under? path = some (.object table)

theorem object_induction {P : Json → Prop}
    (object : ∀ members : Members, (∀ member ∈ members, P member.2) → P (.object members))
    (other : ∀ value : Json, (∀ members, value ≠ .object members) → P value) : ∀ value, P value
  | .object members => object members fun member _ => object_induction object other member.2
  | .null | .bool _ | .number _ | .string _ | .array _ => other _ fun _ h => by cases h
termination_by value => sizeOf value
decreasing_by
  next hmem =>
    have hsize := List.sizeOf_lt_of_mem hmem
    obtain ⟨name, value⟩ := member
    simp at hsize ⊢
    omega

@[simp] theorem under?_nil (value : Json) : value.under? [] = some value := rfl

theorem under?_cons (key : String) (path : List String) (value : Json) :
    value.under? (key :: path) = (value.get? key).bind (under? path) := rfl

@[simp] theorem under?_singleton (key : String) (value : Json) :
    value.under? [key] = value.get? key := by
  rw [under?_cons]
  cases value.get? key <;> rfl

theorem nullFree_of_get? {members : Members} (h : nullFreeMembers members = true) {key : String}
    {value : Json} (hvalue : Members.get? members key = some value) : value.nullFree = true := by
  induction members with
  | nil => cases hvalue
  | cons member rest ih =>
    rw [nullFreeMembers, Bool.and_eq_true] at h
    rw [Members.get?_cons] at hvalue
    split at hvalue
    · cases hvalue; exact h.1
    · exact ih h.2 hvalue

theorem under?_ne_null {value : Json} (h : value.nullFree = true) (path : List String) :
    value.under? path ≠ some .null := by
  induction path generalizing value with
  | nil => rintro ⟨⟩; cases h
  | cons key path ih =>
    intro hnull
    obtain ⟨held, hheld, hpath⟩ := Option.bind_eq_some_iff.mp hnull
    cases value with
    | object members => exact ih (nullFree_of_get? h hheld) hpath
    | _ => cases hheld

theorem get?_of_not_object {value : Json} (h : ∀ members, value ≠ .object members) (key : String) :
    value.get? key = none := by
  cases value with
  | object members => exact absurd rfl (h members)
  | _ => rfl

theorem under?_append_of_not_object {value : Json} (h : ∀ members, value ≠ .object members)
    (path : List String) (key : String) : value.under? (path ++ [key]) = none := by
  cases path with
  | nil => rw [List.nil_append, under?_singleton, get?_of_not_object h]
  | cons step path => rw [List.cons_append, under?_cons, get?_of_not_object h, Option.bind_none]

theorem told_of_not_object {value : Json} (h : ∀ members, value ≠ .object members) :
    value.told = value := by
  cases value with
  | object members => exact absurd rfl (h members)
  | _ => rfl

theorem names_toldMembers_sublist (members : Members) :
    (Members.names (toldMembers members)).Sublist members.names := by
  induction members with
  | nil => exact List.Sublist.refl _
  | cons member rest ih =>
    rw [toldMembers]
    split
    · exact ih.cons _
    · exact ih.cons_cons _

theorem get?_toldMembers {members : Members} (h : members.names.Nodup) (key : String) :
    Members.get? (toldMembers members) key = ((members.get? key).bind said?).map told := by
  induction members with
  | nil => rfl
  | cons member rest ih =>
    obtain ⟨name, value⟩ := member
    obtain ⟨hname, hrest⟩ := List.nodup_cons.mp h
    rw [toldMembers, Members.get?_cons]
    by_cases hkey : name = key
    · subst hkey
      have habsent : Members.get? rest name = none := (Members.get?_eq_none_iff rest name).mpr hname
      cases hnull : value.isNull with
      | true => simp [said?, hnull, ih hrest, habsent]
      | false => simp [said?, hnull, Members.get?_cons]
    · cases hnull : value.isNull with
      | true => simp [hkey, ih hrest]
      | false => simp [hkey, Members.get?_cons, ih hrest]

theorem toldMembers_eq_self {members : Members}
    (h : ∀ member ∈ members, member.2.isNull = false ∧ member.2.told = member.2) :
    toldMembers members = members := by
  induction members with
  | nil => rfl
  | cons member rest ih =>
    obtain ⟨⟨hnull, htold⟩, hrest⟩ := List.forall_mem_cons.mp h
    rw [toldMembers, hnull, htold, ih hrest, if_neg Bool.false_ne_true]

theorem told_eq_self {value : Json} (hvalue : value.WellFormed)
    (h : ∀ path key, value.under? (path ++ [key]) ≠ some .null) : value.told = value := by
  induction value using object_induction with
  | other value hother => exact told_of_not_object hother
  | object members ih =>
    obtain ⟨hascending, hvalues⟩ := (wellFormed_object_iff members).mp hvalue
    rw [told, toldMembers_eq_self]
    intro member hm
    have hget : members.get? member.1 = some member.2 :=
      Members.get?_eq_some_of_mem hascending.names_nodup hm
    constructor
    · have hnull := h [] member.1
      rw [List.nil_append, under?_singleton, get?, hget] at hnull
      cases hheld : member.2 with
      | null => exact absurd (congrArg some hheld) hnull
      | _ => rfl
    · refine ih member hm (hvalues member hm) fun path key hnull => h (member.1 :: path) key ?_
      rw [List.cons_append, under?_cons, get?, hget]
      exact hnull

theorem told_ne_null {value : Json} (h : value ≠ .null) : value.told ≠ .null := by
  cases value with
  | null => exact absurd rfl h
  | _ => intro hnull; cases hnull

theorem under?_told_ne_null {value : Json} (hvalue : value.WellFormed) (path : List String)
    (key : String) : value.told.under? (path ++ [key]) ≠ some .null := by
  induction value using object_induction generalizing path with
  | other value hother =>
    rw [told_of_not_object hother, under?_append_of_not_object hother]
    exact Option.some_ne_none _ ∘ Eq.symm
  | object members ih =>
    obtain ⟨hascending, hvalues⟩ := (wellFormed_object_iff members).mp hvalue
    have hget : ∀ step held, (object members).told.get? step = some held →
        ∃ value, (step, value) ∈ members ∧ value ≠ .null ∧ held = value.told := by
      intro step held h
      rw [told, get?_object, get?_toldMembers hascending.names_nodup] at h
      obtain ⟨value, hsaid, rfl⟩ := Option.map_eq_some_iff.mp h
      obtain ⟨other, hother, hsaid⟩ := Option.bind_eq_some_iff.mp hsaid
      obtain ⟨rfl, hne⟩ := said?_eq_some_iff.mp hsaid
      exact ⟨other, Members.mem_of_get?_eq_some hother, hne, rfl⟩
    intro hnull
    cases path with
    | nil =>
      rw [List.nil_append, under?_singleton] at hnull
      obtain ⟨value, -, hne, heq⟩ := hget key .null hnull
      exact told_ne_null hne heq.symm
    | cons step path =>
      obtain ⟨held, hheld, hnull⟩ := Option.bind_eq_some_iff.mp hnull
      obtain ⟨value, hmem, -, rfl⟩ := hget step held hheld
      exact ih _ hmem (hvalues _ hmem) path hnull

theorem exists_mem_of_toldMembers {members : Members} {member : String × Json}
    (h : member ∈ toldMembers members) : ∃ held ∈ members, member.2 = held.2.told := by
  induction members with
  | nil => cases h
  | cons head rest ih =>
    have hrest : member ∈ toldMembers rest → ∃ held ∈ head :: rest, member.2 = held.2.told := by
      intro h
      obtain ⟨held, hmem, heq⟩ := ih h
      exact ⟨held, List.mem_cons_of_mem _ hmem, heq⟩
    rw [toldMembers] at h
    split at h
    · exact hrest h
    · rcases List.mem_cons.mp h with rfl | h
      · exact ⟨head, List.mem_cons_self, rfl⟩
      · exact hrest h

theorem wellFormed_told {value : Json} (h : value.WellFormed) : value.told.WellFormed := by
  induction value using object_induction with
  | other value hother => rwa [told_of_not_object hother]
  | object members ih =>
    obtain ⟨hascending, hvalues⟩ := (wellFormed_object_iff members).mp h
    rw [told, wellFormed_object_iff]
    constructor
    · have hnames := List.pairwise_map.mpr hascending
      exact List.pairwise_map.mp (hnames.sublist (names_toldMembers_sublist members))
    · intro member hm
      obtain ⟨held, hmem, heq⟩ := exists_mem_of_toldMembers hm
      rw [heq]
      exact ih held hmem (hvalues held hmem)

theorem under?_ne_object_of_not_object {value : Json} (h : ∀ members, value ≠ .object members)
    (path : List String) (members : Members) : value.under? path ≠ some (.object members) := by
  cases path with
  | nil => simpa using h members
  | cons step path => rw [under?_cons, get?_of_not_object h]; exact Option.some_ne_none _ ∘ Eq.symm

theorem tables_or (lower upper : Json) :
    (∃ below members : Members, lower = .object below ∧ upper = .object members) ∨
      (∀ table, lower ≠ .object table) ∨ ∀ members, upper ≠ .object members := by
  by_contra h
  push Not at h
  obtain ⟨hnone, ⟨below, hbelow⟩, members, hmembers⟩ := h
  exact hnone below members hbelow hmembers

theorem null_in_stack_of_no_tables {lower upper : Json}
    (hlower : ∀ path, lower.under? path ≠ some .null)
    (h : (∀ table, lower ≠ .object table) ∨ ∀ members, upper ≠ .object members)
    (path : List String) (key : String) :
    (lower.stack upper).under? (path ++ [key]) = some .null ↔
      upper.under? (path ++ [key]) = some .null ∧
        ∀ table, lower.under? path ≠ some (.object table) := by
  by_cases hupper : ∀ members, upper ≠ .object members
  · rw [under?_append_of_not_object hupper]
    refine iff_of_false (fun hnull => ?_) fun hnull => (by cases hnull.1)
    by_cases hempty : upper = .null
    · rw [hempty, stack_null] at hnull
      exact hlower _ hnull
    · rw [stack_of_not_object hupper hempty, under?_append_of_not_object hupper] at hnull
      cases hnull
  · have hlower := h.resolve_right hupper
    obtain ⟨members, hmembers⟩ := not_forall_not.mp hupper
    rw [hmembers, stack_object_of_not_object hlower]
    exact (and_iff_left (under?_ne_object_of_not_object hlower path)).symm

theorem null_in_stack_iff {lower upper : Json} (hlower : ∀ path, lower.under? path ≠ some .null)
    (hupper : upper.WellFormed) (path : List String) (key : String) :
    (lower.stack upper).under? (path ++ [key]) = some .null ↔
      upper.under? (path ++ [key]) = some .null ∧
        ∀ table, lower.under? path ≠ some (.object table) := by
  induction path generalizing lower upper with
  | nil =>
    rcases tables_or lower upper with ⟨below, members, rfl, rfl⟩ | htables
    · have hnodup := ((wellFormed_object_iff members).mp hupper).1.names_nodup
      have hbelow := hlower [key]
      rw [under?_singleton, get?] at hbelow
      refine iff_of_false ?_ fun h => h.2 below rfl
      rw [List.nil_append, under?_singleton, stack_objects, get?, get?_stackMembers hnodup]
      cases Members.get? members key with
      | none => exact hbelow
      | some value => exact fun h => (said?_eq_some_iff.mp h).2 (said?_eq_some_iff.mp h).1
    · exact null_in_stack_of_no_tables hlower htables [] key
  | cons step path ih =>
    rcases tables_or lower upper with ⟨below, members, rfl, rfl⟩ | htables
    · obtain ⟨hascending, hvalues⟩ := (wellFormed_object_iff members).mp hupper
      have hbelow := fun path => hlower (step :: path)
      simp only [List.cons_append, under?_cons, stack_objects, get?,
        get?_stackMembers hascending.names_nodup] at hbelow ⊢
      cases hvalue : Members.get? members step with
      | none => simpa using hbelow (path ++ [key])
      | some value =>
        simp only [Option.elim_some, Option.bind_some]
        have hheld : Members.get? below step ≠ some .null := by
          simpa using hlower [step]
        by_cases hempty : value = .null
        · rw [hempty, said?_above_null hheld, under?_append_of_not_object fun _ h => by cases h]
          exact iff_of_false (hbelow _) fun h => by cases h.1
        · rw [said?_of_ne_null (above_ne_null hempty _), Option.bind_some]
          cases hlow : Members.get? below step with
          | none => simp
          | some held =>
            rw [hlow] at hbelow
            exact ih hbelow (WellFormed.of_get? hupper hvalue)
    · exact null_in_stack_of_no_tables hlower htables (step :: path) key

theorem NullsMet.of_get? {below members : Members} (h : NullsMet (.object below) (.object members))
    {step : String} {value : Json} (hvalue : Members.get? members step = some value)
    (path : List String) (key : String) (hnull : value.under? (path ++ [key]) = some .null) :
    ∃ table, (Members.get? below step).bind (under? path) = some (.object table) := by
  refine h (step :: path) key ?_
  rw [List.cons_append, under?_cons, get?, hvalue]
  exact hnull

theorem stack_told_of_nullsMet {lower upper : Json} (hlower : lower.WellFormed)
    (hupper : upper.WellFormed) (hsaid : ∀ path, lower.under? path ≠ some .null)
    (h : NullsMet lower upper) : lower.stack upper = lower.stack upper.told := by
  induction upper using object_induction generalizing lower with
  | other upper hother => rw [told_of_not_object hother]
  | object members ih =>
    by_cases htable : ∃ below : Members, lower = .object below
    · obtain ⟨below, rfl⟩ := htable
      have hbelow := (wellFormed_object_iff below).mp hlower
      obtain ⟨hascending, hvalues⟩ := (wellFormed_object_iff members).mp hupper
      have hnodup := hascending.names_nodup
      have htold : (Members.names (toldMembers members)).Nodup :=
        hnodup.sublist (names_toldMembers_sublist members)
      rw [told, stack_objects, stack_objects]
      refine congrArg object (Members.eq_of_get?_eq (ascending_stackMembers hbelow.1 _)
        (ascending_stackMembers hbelow.1 _) fun key => ?_)
      rw [get?_stackMembers hnodup, get?_stackMembers htold, get?_toldMembers hnodup]
      cases hvalue : Members.get? members key with
      | none => rfl
      | some value =>
        have hmem := Members.mem_of_get?_eq_some hvalue
        have hmet := h.of_get? hvalue
        have hheld := fun path => hsaid (key :: path)
        simp only [under?_cons, get?] at hheld
        by_cases hempty : value = .null
        · rw [hempty]
          exact said?_above_null (by simpa using hsaid [key])
        · rw [Option.bind_some, said?_of_ne_null hempty]
          refine congrArg said? ?_
          cases hlow : Members.get? below key with
          | none =>
            rw [hlow] at hmet
            refine (told_eq_self (hvalues _ hmem) fun path key hnull => ?_).symm
            obtain ⟨table, htable⟩ := hmet path key hnull
            cases htable
          | some held =>
            rw [hlow] at hmet hheld
            exact ih _ hmem (hlower.of_get? hlow) (hvalues _ hmem) hheld hmet
    · have hnone := not_exists.mp htable
      rw [told_eq_self hupper]
      intro path key hnull
      obtain ⟨table, htable⟩ := h path key hnull
      exact under?_ne_object_of_not_object hnone path table htable

/-- On a lower layer without nulls, a null under a key of the upper one says nothing where it meets
a table, and comes up where it does not. So the layer without such keys shows the same, and no null
comes up, exactly when each of them meets a table. -/
theorem stack_told_iff {lower upper : Json} (hlower : lower.WellFormed) (hupper : upper.WellFormed)
    (hfree : lower.nullFree = true) :
    (lower.stack upper = lower.stack upper.told ↔ NullsMet lower upper) ∧
      ((∀ path key, (lower.stack upper).under? (path ++ [key]) ≠ some .null) ↔
        NullsMet lower upper) ∧
      ∀ path key, (lower.stack upper).under? (path ++ [key]) = some .null ↔
        upper.under? (path ++ [key]) = some .null ∧
          ∀ table, lower.under? path ≠ some (.object table) := by
  have hsaid := under?_ne_null hfree
  have hiff := null_in_stack_iff hsaid hupper
  have hnone : (∀ path key, (lower.stack upper).under? (path ++ [key]) ≠ some .null) ↔
      NullsMet lower upper := by
    refine forall_congr' fun path => forall_congr' fun key => ?_
    rw [ne_eq, hiff, not_and, not_forall_not]
  refine ⟨⟨fun h => hnone.mp fun path key hnull => ?_,
    stack_told_of_nullsMet hlower hupper hsaid⟩, hnone, hiff⟩
  rw [h, null_in_stack_iff hsaid (wellFormed_told hupper)] at hnull
  exact under?_told_ne_null hupper path key hnull.1

theorem stack_told_iff_sections :
    let lower : Json := .object [("decode", .object [("reject_unknown_fields", .bool true)])]
    let upper : Json := .object [("decode", .object [("reject_unknown_fields", .null)]),
      ("fixtures", .null), ("harness", .object [("parallelism", .null)])]
    lower.WellFormed ∧ upper.WellFormed ∧ lower.nullFree = true ∧
      (lower.stack upper).under? ["decode", "reject_unknown_fields"] ≠ some .null ∧
      (lower.stack upper).under? ["fixtures"] ≠ some .null ∧
      (lower.stack upper).under? ["harness", "parallelism"] = some .null := by
  intro lower upper
  have hlower : lower.WellFormed := by decide
  have hupper : upper.WellFormed := by decide
  have hfree : lower.nullFree = true := by decide
  obtain ⟨-, -, hnull⟩ := stack_told_iff hlower hupper hfree
  refine ⟨hlower, hupper, hfree, fun h => ?_, fun h => ?_, (hnull ["harness"] "parallelism").mpr ?_⟩
  · exact ((hnull ["decode"] "reject_unknown_fields").mp h).2 _ rfl
  · exact ((hnull [] "fixtures").mp h).2 _ rfl
  · exact ⟨rfl, fun _ h => by cases h⟩

/-- The file lists its section of fixtures, so the section laid on top meets no table. The directory
that it leaves unset becomes a null of the section, and the settings are refused; without that key
they are accepted. -/
theorem unset_key_comes_up :
    let file : Json := .object [("fixtures", .array [.string "golden"]),
      ("harness", .object [("parallelism", .number (.integer 2))])]
    let overrides : Json := .object
      [("fixtures", .object [("dir", .null), ("recursive", .bool true)])]
    let lower := Config.initial.toJson.stack file
    lower.WellFormed ∧ overrides.WellFormed ∧ lower.nullFree = true ∧
      lower.stack overrides ≠ lower.stack overrides.told ∧
      (lower.stack overrides).under? ["fixtures", "dir"] = some .null ∧
      Config.ofLayers [file, overrides] = .error (.invalidType .null "path string") ∧
      Config.ofLayers [file, overrides.told] =
        .ok ⟨⟨"testdata", true, ["*.json"]⟩, ⟨true⟩, ⟨some 2, true⟩⟩ := by
  intro file overrides lower
  have hnull : (lower.stack overrides).under? ["fixtures", "dir"] = some .null := by rfl
  refine ⟨by decide, by decide, by decide, fun h => ?_, hnull, by rfl, by rfl⟩
  rw [h] at hnull
  cases hnull

end Json

end LspWire
