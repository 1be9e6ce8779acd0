import LspWire.Proofs.TypeKind

/-! Types that no document is strictly of both.
A union is strictly of the shapes of its variants. Two shapes are told apart by kind, or two records
by a field that one of them requires and the other does not declare. Two lists both admit the empty
one, so lists of items told apart have that one document in common and no other. -/

namespace LspWire

def Schema.Accepts (s : Schema) (value : Json) : Prop :=
  ∃ cx x, cx.options = .strict ∧ s.decoder.decode value cx = .ok x

mutual

/-- The types that are tried for a document, unions among them replaced by their variants. -/
def Schema.shapes : Schema → List Schema
  | .union _ variants => variants.shapes
  | s => [s]

def Variants.shapes : Variants → List Schema
  | .nil => []
  | .cons _ _ _ type rest => type.shapes ++ rest.shapes

end

mutual

theorem Schema.Accepts.exists_shape : ∀ {s : Schema} {value : Json}, s.Accepts value →
    ∃ shape ∈ s.shapes, shape.Accepts value
  | .union _ variants, value, ⟨cx, x, hcx, h⟩ => by
    obtain ⟨a, ha, hx | hx⟩ := Schema.exists_alternative_of_decode h
    · exact Variants.exists_shape_of_alternative variants a ha rfl hx
    · exact Variants.exists_shape_of_alternative variants a ha hcx hx
  | .boolean, _, h | .string, _, h | .integer, _, h | .uinteger, _, h | .decimal, _, h
  | .any, _, h | .object, _, h | .null, _, h | .noParams, _, h | .numberOrString, _, h
  | .literal _ _, _, h | .integerEnum _, _, h | .wordEnum _, _, h | .openEnum _, _, h
  | .list _, _, h | .map _, _, h | .nullable _, _, h | .record _ _, _, h | .marked _ _ _, _, h =>
    ⟨_, List.mem_singleton_self _, h⟩

theorem Variants.exists_shape_of_alternative : ∀ (variants : Variants),
    ∀ a ∈ variants.alternatives, ∀ {value : Json} {cx : Context} {x : variants.Val},
      cx.options = .strict → a.decode value cx = .ok x →
        ∃ shape ∈ variants.shapes, shape.Accepts value
  | .nil, _, ha, _, _, _, _, _ => by cases ha
  | .cons _ _ _ type rest, a, ha, value, cx, x, hcx, h => by
    rw [Variants.shapes]
    rcases List.mem_cons.mp ha with rfl | ha
    · obtain ⟨y, hy, -⟩ := map_eq_ok_iff.mp h
      have haccepts : type.Accepts value := ⟨cx, y, hcx, hy⟩
      obtain ⟨shape, hshape, hvalue⟩ := haccepts.exists_shape
      exact ⟨shape, List.mem_append_left _ hshape, hvalue⟩
    · obtain ⟨b, hb, rfl⟩ := List.mem_map.mp ha
      obtain ⟨y, hy, -⟩ := map_eq_ok_iff.mp h
      obtain ⟨shape, hshape, hvalue⟩ := Variants.exists_shape_of_alternative rest b hb hcx hy
      exact ⟨shape, List.mem_append_right _ hshape, hvalue⟩

end

def Fields.requiredKeys : Fields → List String
  | .nil => []
  | .cons form type rest =>
    if form.mode == .required && !type.suppliesAbsent then form.key :: rest.requiredKeys
    else rest.requiredKeys

theorem Fields.get?_of_collect : ∀ (fields : Fields) {members : Members} {cx : Context}
    {values : fields.Val}, fields.collect members cx = .ok values →
      ∀ key ∈ fields.requiredKeys, (members.get? key).isSome
  | .nil, _, _, _, _, _, hkey => by cases hkey
  | .cons form type rest, members, cx, (value, values), h, key, hkey => by
    obtain ⟨hvalue, hvalues⟩ := Fields.collect_cons_eq_ok_iff.mp h
    rw [Fields.requiredKeys] at hkey
    split at hkey
    · next hrequired =>
      simp only [Bool.and_eq_true, beq_iff_eq, Bool.not_eq_true'] at hrequired
      rcases List.mem_cons.mp hkey with rfl | hkey
      · obtain ⟨key, label, written, leftOut, mode⟩ := form
        obtain ⟨hmode, habsent⟩ := hrequired
        cases hmode
        cases hheld : members.get? key with
        | some held => rfl
        | none =>
          change FieldReader.required type.decoder key (members.get? key) cx = .ok value at hvalue
          rw [hheld, FieldReader.required, Schema.decoder_absent habsent] at hvalue
          cases hvalue
      · exact Fields.get?_of_collect rest hvalues key hkey
    · exact Fields.get?_of_collect rest hvalues key hkey

theorem Schema.Accepts.record {name : String} {fields : Fields} {value : Json}
    (h : (Schema.record name fields).Accepts value) :
    ∃ members : Members, value = .object members ∧
      (∀ key ∈ fields.requiredKeys, key ∈ members.names) ∧
      ∀ key ∈ members.names, key ∈ fields.keys := by
  obtain ⟨cx, x, hcx, h⟩ := h
  obtain ⟨members, rfl, hcollect, hnames⟩ := fields.gives_read.decode_eq_ok_iff.mp h
  refine ⟨members, rfl, fun key hkey => ?_, hnames (by rw [hcx]; rfl)⟩
  exact (Members.mem_names_iff members key).mpr (fields.get?_of_collect hcollect key hkey)

/-- A field of the first record is required, and not declared by the second. -/
def Fields.exceeds (a b : Fields) : Bool := a.requiredKeys.any fun key => !b.keys.contains key

theorem Fields.exists_key_of_exceeds {a b : Fields} (h : a.exceeds b = true) {members : Members}
    (hrequired : ∀ key ∈ a.requiredKeys, key ∈ members.names) :
    ∃ key ∈ members.names, key ∉ b.keys := by
  obtain ⟨key, hkey, hnot⟩ := List.any_eq_true.mp h
  exact ⟨key, hrequired key hkey, by simpa using hnot⟩

/-- Some field of the one is required, and not declared by the other. -/
def Fields.differ (a b : Fields) : Bool :=
  a.requiredKeys.any (fun key => !b.keys.contains key) ||
    b.requiredKeys.any (fun key => !a.keys.contains key)

theorem Fields.not_accepts_of_differ {a b : Fields} (h : a.differ b = true) {m n : String}
    {value : Json} (ha : (Schema.record m a).Accepts value)
    (hb : (Schema.record n b).Accepts value) : False := by
  obtain ⟨members, rfl, harequired, hakeys⟩ := ha.record
  obtain ⟨_, heq, hbrequired, hbkeys⟩ := hb.record
  cases heq
  change (a.exceeds b || b.exceeds a) = true at h
  rcases Bool.or_eq_true_iff.mp h with h | h
  · obtain ⟨key, hmem, hnot⟩ := Fields.exists_key_of_exceeds h harequired
    exact hnot (hbkeys key hmem)
  · obtain ⟨key, hmem, hnot⟩ := Fields.exists_key_of_exceeds h hbrequired
    exact hnot (hakeys key hmem)

def Schema.kindsDiffer (a b : Schema) : Bool := a.kinds.all fun kind => !b.kinds.contains kind

theorem Schema.not_accepts_of_kindsDiffer {a b : Schema} (h : a.kindsDiffer b = true)
    {value : Json} (ha : a.Accepts value) (hb : b.Accepts value) : False := by
  obtain ⟨_, _, -, ha⟩ := ha
  obtain ⟨_, _, -, hb⟩ := hb
  have hnot := List.all_eq_true.mp h _ (Schema.kind_mem_of_decode a ha)
  simp [Schema.kind_mem_of_decode b hb] at hnot

def Schema.shapesDiffer : Schema → Schema → Bool
  | .record _ a, .record _ b => a.differ b
  | a, b => a.kindsDiffer b

theorem Schema.not_accepts_of_shapesDiffer {a b : Schema} (h : a.shapesDiffer b = true)
    {value : Json} (ha : a.Accepts value) (hb : b.Accepts value) : False := by
  unfold shapesDiffer at h
  split at h
  · exact Fields.not_accepts_of_differ h ha hb
  · exact not_accepts_of_kindsDiffer h ha hb

def Schema.disjoint (a b : Schema) : Bool :=
  a.shapes.all fun shape => b.shapes.all shape.shapesDiffer

theorem Schema.not_accepts_of_disjoint {a b : Schema} (h : a.disjoint b = true) {value : Json}
    (ha : a.Accepts value) (hb : b.Accepts value) : False := by
  obtain ⟨s, hs, ha⟩ := ha.exists_shape
  obtain ⟨t, ht, hb⟩ := hb.exists_shape
  exact not_accepts_of_shapesDiffer (List.all_eq_true.mp (List.all_eq_true.mp h s hs) t ht) ha hb

/-- Two shapes have at most the empty list in common. -/
def Schema.shapesApart : Schema → Schema → Bool
  | .list a, .list b => a.disjoint b
  | a, b => a.shapesDiffer b

theorem Schema.Accepts.of_list {item : Schema} {value : Json}
    (h : (Schema.list item).Accepts value) :
    ∃ items, value = .array items ∧ ∀ first rest, items = first :: rest → item.Accepts first := by
  obtain ⟨cx, x, hcx, h⟩ := h
  cases value with
  | array items =>
    refine ⟨items, rfl, ?_⟩
    rintro first rest rfl
    obtain ⟨y, hy, -⟩ := bind_eq_ok_iff.mp h
    exact ⟨cx.index 0, y, hcx, hy⟩
  | _ => cases h

theorem Schema.eq_empty_of_shapesApart {a b : Schema} (h : a.shapesApart b = true) {value : Json}
    (ha : a.Accepts value) (hb : b.Accepts value) : value = .array [] := by
  unfold shapesApart at h
  split at h
  · obtain ⟨items, rfl, hfirst⟩ := ha.of_list
    obtain ⟨_, heq, hsecond⟩ := hb.of_list
    cases heq
    cases items with
    | nil => rfl
    | cons first rest =>
      exact (not_accepts_of_disjoint h (hfirst first rest rfl) (hsecond first rest rfl)).elim
  · exact (not_accepts_of_shapesDiffer h ha hb).elim

/-- At most the empty list is strictly of both types. -/
def Schema.apart (a b : Schema) : Bool :=
  a.shapes.all fun shape => b.shapes.all shape.shapesApart

theorem Schema.eq_empty_of_apart {a b : Schema} (h : a.apart b = true) {value : Json}
    (ha : a.Accepts value) (hb : b.Accepts value) : value = .array [] := by
  obtain ⟨s, hs, ha⟩ := ha.exists_shape
  obtain ⟨t, ht, hb⟩ := hb.exists_shape
  exact eq_empty_of_shapesApart (List.all_eq_true.mp (List.all_eq_true.mp h s hs) t ht) ha hb

end LspWire
